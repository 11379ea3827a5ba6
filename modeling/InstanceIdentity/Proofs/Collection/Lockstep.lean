import InstanceIdentity.Proofs.Collection.Requests
import Mathlib.Data.List.Forall2

/-!
# Requests, events and counts in step

A request that is sent leaves four actions in the log: the event that announces it, a counted attempt,
the exchange, and a counted outcome.  They stand together and in this order.  Nothing else in the log
is an announcement, a count or an exchange, so the requests, the announcements and the counts are
three views of one list of dispatches.

Main results:

- Theorem `Performs.dispatches`: the traffic of a call is that of dispatches, each in its place.
- Theorem `visited_dispatches`: so is the traffic of all visits, one part for each visit.
- Theorem `records_in_step`: requests, announcements, attempts and outcomes agree one by one.
-/

namespace InstanceIdentity.Collection

open Http (Request Answer Response Transport)
open Diagnostics (Note Event Span Count Outcome)

/-! ## Dispatches -/

/-- A request that is sent. -/
structure Dispatch where
  /-- The operations that are under way, outermost first. -/
  spans : List Span
  /-- What the request is for. -/
  target : Target
  request : Request
  answer : Answer

namespace Dispatch

variable (d : Descriptor) (sent : Dispatch)

/-- The event that announces the request. -/
def event : Event := ⟨.requesting d.id sent.target sent.request.method sent.request.url, sent.spans⟩

/-- What is counted before the request is sent. -/
def attempt : Count := ⟨d.id, sent.target, .attempt⟩

/-- Only an answer of status 200 makes the request a success. -/
def outcome : Outcome :=
  match sent.answer with
  | .ok response => if response.status = 200 then .success else .failure
  | .error _ => .failure

/-- What is counted when the answer is there. -/
def verdict : Count := ⟨d.id, sent.target, sent.outcome⟩

/-- The counts of the request. -/
def counts : List Count := [sent.attempt d, sent.verdict d]

/-- The actions of the request. -/
def actions : List Action :=
  [.noted (sent.event d), .counted (sent.attempt d), .exchanged sent.request sent.answer,
    .counted (sent.verdict d)]

theorem outcome_eq_success_iff :
    sent.outcome = .success ↔ ∃ body, sent.answer = .ok ⟨200, body⟩ := by
  unfold outcome
  rcases sent.answer with cause | ⟨status, body⟩
  · simp
  · by_cases hstatus : status = 200 <;> simp [hstatus]

theorem outcome_eq_success_or_failure : sent.outcome = .success ∨ sent.outcome = .failure := by
  unfold outcome
  split
  · split
    · exact .inl rfl
    · exact .inr rfl
  · exact .inr rfl

end Dispatch

/-- The requests of a call, each inside the operations that are under way when it is sent.  A token
asked for on the way to the metadata is asked for inside both operations, and the request that
carries it is inside the outer one again. -/
inductive Placed (d : Descriptor) : Call → Dispatch → Prop where
  | metadata (answer : Answer) :
      Placed d .metadata
        ⟨[metadataSpan d], .metadata, d.getRequest d.endpoints.metadata, answer⟩
  | nested {gate : TokenGate} (gated : d.gate? = some gate) (answer : Answer) :
      Placed d .metadata ⟨[metadataSpan d, tokenSpan d], .token, d.issueRequest gate, answer⟩
  | authenticated {gate : TokenGate} (gated : d.gate? = some gate) (secret : TokenSecret)
      (answer : Answer) :
      Placed d .metadata ⟨[metadataSpan d], .metadata, d.tokenRequest gate secret, answer⟩
  | signature {url : Url} {contentType : String} (separate : d.signature = .separate url contentType)
      (answer : Answer) :
      Placed d .signature ⟨[signatureSpan d], .signature, d.getRequest url, answer⟩
  | token {gate : TokenGate} (gated : d.gate? = some gate) (answer : Answer) :
      Placed d .token ⟨[tokenSpan d], .token, d.issueRequest gate, answer⟩

/-- The innermost operation around a request is one of the provider on the target. -/
theorem Placed.innermost {d : Descriptor} {call : Call} {sent : Dispatch} (h : Placed d call sent) :
    ∃ stage, sent.spans.getLast? = some ⟨d.id, sent.target, stage⟩ := by
  cases h <;> exact ⟨_, rfl⟩

/-! ## Traffic -/

/-- An action that records a request: its announcement, a count or the exchange itself. -/
def Action.isTraffic : Action → Bool
  | .noted event => event.note.message = "Requesting."
  | .counted _ => true
  | .exchanged _ _ => true
  | _ => false

section Steps

variable {d : Descriptor} {spans : List Span} {gate : TokenGate} {now : Instant}
  {held held' : Option SessionToken} {actions : List Action}

@[simp]
theorem traffic_exchange {target : Target} {request : Request} {answer : Answer} :
    (exchange d spans target request answer).filter Action.isTraffic =
      Dispatch.actions d ⟨spans, target, request, answer⟩ := by
  have hverdict : (if (Http.accepted? answer).isSome then Outcome.success else .failure) =
      Dispatch.outcome ⟨spans, target, request, answer⟩ := by
    cases answer with
    | error cause => rfl
    | ok response =>
      by_cases hstatus : response.status = 200 <;>
        simp [Http.accepted?, Response.isOk, Http.accepted, Dispatch.outcome, hstatus]
  simp [exchange, hverdict, Action.isTraffic, Note.message, Dispatch.actions, Dispatch.event,
    Dispatch.attempt, Dispatch.verdict]

@[simp]
theorem traffic_remarks {target : Target} {request : Request} {answer : Answer} :
    (remarks d spans target request answer).filter Action.isTraffic = [] := by
  unfold remarks
  split <;> rfl

@[simp]
theorem traffic_signatureRemarks {url : Url} {answer : Answer} :
    (signatureRemarks d spans url answer).filter Action.isTraffic = [] := by
  unfold signatureRemarks
  split
  · exact traffic_remarks
  · rfl
  · rfl

@[simp]
theorem traffic_saving {token : CachedToken} {outcome : Except StoreError Unit} :
    (saving d spans token outcome).filter Action.isTraffic = [] := by
  cases outcome <;> rfl

@[simp]
theorem traffic_refusedFirst {answer : Answer} {rest : List Action} :
    (refusedFirst d spans answer rest).filter Action.isTraffic =
      Dispatch.actions d ⟨spans, .metadata, d.getRequest d.endpoints.metadata, answer⟩ ++
        rest.filter Action.isTraffic := by
  simp [refusedFirst, Action.isTraffic, Note.message]

/-- No request is made while the store is consulted. -/
theorem Consults.traffic {result : Except OutOfRange (Option SessionToken)}
    (h : Consults d spans gate now actions result) : actions.filter Action.isTraffic = [] := by
  cases h <;> rfl

/-- One request is made for a token. -/
theorem Issues.traffic {found : Option SessionToken} (h : Issues d spans gate now actions found) :
    ∃ answer, actions.filter Action.isTraffic =
      Dispatch.actions d ⟨spans, .token, d.issueRequest gate, answer⟩ := by
  cases h with
  | @issued response haccepted outcome => exact ⟨.ok response, by simp⟩
  | @refused answer hrefused => exact ⟨answer, by simp [Action.isTraffic, Note.message]⟩

/-- While a token is resolved, at most one request is made, and that for a token. -/
theorem Resolves.dispatches {result : Except OutOfRange (Option TokenSecret)}
    (h : Resolves d spans gate now held actions result held') :
    ∃ issue : Option Answer, actions.filter Action.isTraffic =
      (issue.toList.map (Dispatch.mk spans .token (d.issueRequest gate))).flatMap
        (Dispatch.actions d) := by
  cases h with
  | reused => exact ⟨none, rfl⟩
  | endless => exact ⟨none, rfl⟩
  | storedEndless _ hconsults => exact ⟨none, hconsults.traffic⟩
  | adopted _ hconsults => exact ⟨none, hconsults.traffic⟩
  | issued _ hconsults hissues =>
    obtain ⟨answer, htraffic⟩ := hissues.traffic
    exact ⟨some answer, by simp [hconsults.traffic, htraffic]⟩
  | refused _ hconsults hissues =>
    obtain ⟨answer, htraffic⟩ := hissues.traffic
    exact ⟨some answer, by simp [hconsults.traffic, htraffic]⟩

/-- The requests on the way to the metadata. -/
theorem Unlocks.dispatches {result : Except OutOfRange (Option String)} (hgate : d.gate? = some gate)
    (h : Unlocks d [metadataSpan d] gate now held actions result held') :
    ∃ part : List Dispatch, (∀ sent ∈ part, Placed d .metadata sent) ∧
      actions.filter Action.isTraffic = part.flatMap (Dispatch.actions d) := by
  have hnested : ∀ (issue : Option Answer),
      ∀ sent ∈ issue.toList.map
        (Dispatch.mk [metadataSpan d, tokenSpan d] .token (d.issueRequest gate)),
      Placed d .metadata sent := by
    intro issue sent hmem
    obtain ⟨answer, -, rfl⟩ := List.mem_map.1 hmem
    exact .nested hgate answer
  cases h with
  | @opened response haccepted =>
    exact ⟨[⟨_, _, _, .ok response⟩], List.forall_mem_singleton.2 (.metadata _), by simp⟩
  | @failed _ answer _ _ hrefused hresolves =>
    obtain ⟨issue, htraffic⟩ := hresolves.dispatches
    exact ⟨⟨_, _, _, answer⟩ :: _, List.forall_mem_cons.2 ⟨.metadata _, hnested issue⟩,
      by simp [htraffic]⟩
  | @locked _ answer _ hrefused hresolves =>
    obtain ⟨issue, htraffic⟩ := hresolves.dispatches
    exact ⟨⟨_, _, _, answer⟩ :: _, List.forall_mem_cons.2 ⟨.metadata _, hnested issue⟩,
      by simp [htraffic]⟩
  | @unlocked _ answer _ secret hrefused hresolves second =>
    obtain ⟨issue, htraffic⟩ := hresolves.dispatches
    refine ⟨⟨_, _, _, answer⟩ :: (_ ++ [⟨_, _, d.tokenRequest gate secret, second⟩]),
      List.forall_mem_cons.2 ⟨.metadata _, List.forall_mem_append.2
        ⟨hnested issue, List.forall_mem_singleton.2 (.authenticated hgate secret second)⟩⟩, ?_⟩
    simp [htraffic]

/-- The traffic of a call is that of dispatches, each in its place. -/
theorem Performs.dispatches {call : Call} {result : Except OutOfRange Yield}
    (h : Performs d now call held actions result held') :
    ∃ part : List Dispatch, (∀ sent ∈ part, Placed d call sent) ∧
      actions.filter Action.isTraffic = part.flatMap (Dispatch.actions d) := by
  cases h with
  | single hsingle answer =>
    refine ⟨[⟨_, _, _, answer⟩], List.forall_mem_singleton.2 (.metadata answer), ?_⟩
    simp [Action.isTraffic, Note.message]
  | gated hgated hunlocks =>
    obtain ⟨part, hplaced, htraffic⟩ := hunlocks.dispatches (Descriptor.gate?_eq_some_iff.2 hgated)
    exact ⟨part, hplaced, by simpa [Action.isTraffic, Note.message] using htraffic⟩
  | bundled => exact ⟨[], List.forall_mem_nil _, rfl⟩
  | separate hseparate answer =>
    refine ⟨[⟨_, _, _, answer⟩], List.forall_mem_singleton.2 (.signature hseparate answer), ?_⟩
    simp [Action.isTraffic, Note.message]
  | ungated => exact ⟨[], List.forall_mem_nil _, rfl⟩
  | @token _ _ gate _ _ hgated hresolves =>
    obtain ⟨issue, htraffic⟩ := hresolves.dispatches
    refine ⟨_, ?_, htraffic⟩
    intro sent hmem
    obtain ⟨answer, -, rfl⟩ := List.mem_map.1 hmem
    exact .token hgated answer

end Steps

/-! ## Views of the traffic -/

theorem exchange?_isTraffic (action : Action) (h : action.exchange?.isSome) : action.isTraffic := by
  cases action <;> first | rfl | cases h

theorem count?_isTraffic (action : Action) (h : action.count?.isSome) : action.isTraffic := by
  cases action <;> first | rfl | cases h

/-- The announcement of a request, if the action is one. -/
def Action.announcement? (action : Action) : Option Event :=
  action.event?.filter fun event => event.note.message = "Requesting."

theorem announcement?_isTraffic (action : Action) (h : action.announcement?.isSome) :
    action.isTraffic := by
  cases action with
  | noted event => simpa [Action.announcement?, Action.event?, Action.isTraffic] using h
  | _ => cases h

/-- A view that shows nothing but traffic shows what it shows of the dispatches. -/
theorem view_dispatches {α : Type} {view : Action → Option α} {d : Descriptor} {log : List Action}
    {all : List Dispatch} {shown : Dispatch → List α}
    (htraffic : log.filter Action.isTraffic = all.flatMap (Dispatch.actions d))
    (hview : ∀ action, (view action).isSome → action.isTraffic)
    (hshown : ∀ sent, (sent.actions d).filterMap view = shown sent) :
    log.filterMap view = all.flatMap shown := by
  have hnone : ∀ action, (if action.isTraffic then view action else none) = view action := by
    intro action
    split
    · rfl
    · next hquiet => exact (Option.not_isSome_iff_eq_none.1 fun h => hquiet (hview action h)).symm
  calc log.filterMap view
      = (log.filter Action.isTraffic).filterMap view := by simp only [List.filterMap_filter, hnone]
    _ = all.flatMap shown := by
        rw [htraffic, List.filterMap_flatMap]
        exact congrArg all.flatMap (funext hshown)

/-- The attempts among the counts of dispatches. -/
theorem attempts_counts (d : Descriptor) (all : List Dispatch) :
    (all.flatMap (Dispatch.counts d)).filter (fun count => count.outcome = .attempt) =
      all.map (Dispatch.attempt d) := by
  rw [List.filter_flatMap, List.map_eq_flatMap]
  congr 1
  funext sent
  rcases sent.outcome_eq_success_or_failure with houtcome | houtcome <;>
    simp [Dispatch.counts, Dispatch.attempt, Dispatch.verdict, houtcome]

/-- Each attempt among the counts of dispatches has its success or its failure. -/
theorem balanced_counts (d : Descriptor) (all : List Dispatch) (provider : ProviderId)
    (target : Target) :
    let counts := all.flatMap (Dispatch.counts d)
    counts.count ⟨provider, target, .attempt⟩ =
      counts.count ⟨provider, target, .success⟩ + counts.count ⟨provider, target, .failure⟩ := by
  induction all with
  | nil => rfl
  | cons sent rest ih =>
    simp only [List.flatMap_cons, List.count_append] at ih ⊢
    have hsent : (sent.counts d).count ⟨provider, target, .attempt⟩ =
        (sent.counts d).count ⟨provider, target, .success⟩ +
          (sent.counts d).count ⟨provider, target, .failure⟩ := by
      rcases sent.outcome_eq_success_or_failure with houtcome | houtcome <;>
        simp [Dispatch.counts, Dispatch.attempt, Dispatch.verdict, houtcome, List.count_cons]
    omega

section Visits

variable {σ τ : Type} [TokenStore σ] [Transport τ]

/-- The traffic of visits is that of dispatches, one part for each visit. -/
theorem visited_dispatches (d : Descriptor) (world : World σ τ) (visits : List Visit) :
    ∃ parts : List (List Dispatch),
      List.Forall₂ (fun v part => ∀ sent ∈ part, Placed d v.call sent) visits parts ∧
      (visited d world visits).log.filter Action.isTraffic =
        world.log.filter Action.isTraffic ++ parts.flatten.flatMap (Dispatch.actions d) := by
  induction visits generalizing world with
  | nil => exact ⟨[], .nil, (List.append_nil _).symm⟩
  | cons v rest ih =>
    obtain ⟨part, hplaced, hpart⟩ := (v.performs d world).dispatches
    obtain ⟨parts, hparts, hrest⟩ := ih (v.after d world)
    refine ⟨part :: parts, .cons hplaced hparts, ?_⟩
    calc (visited d world (v :: rest)).log.filter Action.isTraffic
        = (v.after d world).log.filter Action.isTraffic ++
            parts.flatten.flatMap (Dispatch.actions d) := hrest
      _ = world.log.filter Action.isTraffic ++
            (part :: parts).flatten.flatMap (Dispatch.actions d) := by
          rw [(v.trace d world).1.log_eq, List.filter_append, hpart, List.flatten_cons,
            List.flatMap_append, List.append_assoc]

/-- A request in one of the parts is placed in the call of the visit to which the part belongs. -/
theorem exists_placed {d : Descriptor} {visits : List Visit} {parts : List (List Dispatch)}
    (hparts : List.Forall₂ (fun v part => ∀ sent ∈ part, Placed d v.call sent) visits parts)
    {sent : Dispatch} (hmem : sent ∈ parts.flatten) : ∃ call, Placed d call sent := by
  induction hparts with
  | nil => cases hmem
  | cons hpart _ ih =>
    rw [List.flatten_cons, List.mem_append] at hmem
    rcases hmem with hmem | hmem
    · exact ⟨_, hpart sent hmem⟩
    · exact ih hmem

/-- After any visits, the requests that were sent, the events that announce them, the counted attempts
and the counted outcomes agree one by one, whatever the store, the transport and the clock do.  Each
request was sent in its place, so that the innermost operation around its announcement is one of the
provider on the same target.  Each attempt is followed by one outcome, before the next attempt: a
success when the answer has status 200, else a failure. -/
theorem records_in_step (d : Descriptor) (store : σ) (transport : τ) (visits : List Visit) :
    let world := visited d (World.start store transport) visits
    ∃ parts : List (List Dispatch),
      List.Forall₂ (fun v part => ∀ sent ∈ part, Placed d v.call sent) visits parts ∧
      let all := parts.flatten
      world.log.filterMap Action.exchange? = all.map (fun sent => (sent.request, sent.answer)) ∧
      world.requests = all.map Dispatch.request ∧
      world.events.filter (fun event => event.note.message = "Requesting.") =
        all.map (Dispatch.event d) ∧
      world.counts.filter (fun count => count.outcome = .attempt) = all.map (Dispatch.attempt d) ∧
      world.counts = all.flatMap (Dispatch.counts d) ∧
      world.log.filter Action.isTraffic = all.flatMap (Dispatch.actions d) ∧
      (∀ sent ∈ all,
        (∃ stage, sent.spans.getLast? = some ⟨d.id, sent.target, stage⟩) ∧
        (sent.outcome = .success ∨ sent.outcome = .failure) ∧
        (sent.outcome = .success ↔ ∃ body, sent.answer = .ok ⟨200, body⟩)) ∧
      ∀ provider target,
        world.counts.count ⟨provider, target, .attempt⟩ =
          world.counts.count ⟨provider, target, .success⟩ +
            world.counts.count ⟨provider, target, .failure⟩ := by
  intro world
  obtain ⟨parts, hparts, htraffic⟩ := visited_dispatches d (World.start store transport) visits
  have htraffic : world.log.filter Action.isTraffic = parts.flatten.flatMap (Dispatch.actions d) :=
    htraffic
  have hexchanges : world.log.filterMap Action.exchange? =
      parts.flatten.map fun sent => (sent.request, sent.answer) := by
    rw [List.map_eq_flatMap]
    exact view_dispatches htraffic exchange?_isTraffic fun _ => rfl
  have hevents : world.events.filter (fun event => event.note.message = "Requesting.") =
      parts.flatten.map (Dispatch.event d) := by
    unfold World.events
    rw [List.filter_filterMap, List.map_eq_flatMap]
    exact view_dispatches htraffic announcement?_isTraffic fun _ => rfl
  have hcounts : world.counts = parts.flatten.flatMap (Dispatch.counts d) :=
    view_dispatches htraffic count?_isTraffic fun _ => rfl
  refine ⟨parts, hparts, hexchanges, ?_, hevents, ?_, hcounts, htraffic, ?_, ?_⟩
  · rw [world.requests_eq, hexchanges, List.map_map]
    rfl
  · rw [hcounts, attempts_counts]
  · intro sent hmem
    obtain ⟨call, hplaced⟩ := exists_placed hparts hmem
    exact ⟨hplaced.innermost, sent.outcome_eq_success_or_failure, sent.outcome_eq_success_iff⟩
  · intro provider target
    rw [hcounts, balanced_counts]

end Visits

end InstanceIdentity.Collection
