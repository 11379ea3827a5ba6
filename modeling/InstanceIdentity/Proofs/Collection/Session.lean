import InstanceIdentity.Proofs.Collection.Plain

/-!
# The remembered token

What a call does to the remembered token, and which secrets it uses.  The remembered token changes
only when a token is taken, from the store or from the service, and a secret is used only as the
secret of the token that is remembered afterwards.

Main results:

- Theorem `Issues.exchanges`: asking for a token is one exchange, and its answer is the token.
- Theorem `Performs.taken`: a call keeps the remembered token or replaces it by one that it takes.
- Theorem `Performs.requested`: a request for a document carries no secret, or one that was resolved
  before it in the same call.
-/

namespace InstanceIdentity.Collection

open Http (Request Answer Response)
open Diagnostics (Span)

variable {d : Descriptor} {spans : List Span} {gate : TokenGate} {now : Instant}
  {held held' : Option SessionToken} {actions : List Action}

/-! ## Exchanges -/

/-- The request of an exchange with its answer. -/
def Action.exchange? : Action → Option (Request × Answer)
  | .exchanged request answer => some (request, answer)
  | _ => none

theorem mem_exchanges_iff {request : Request} {answer : Answer} :
    (request, answer) ∈ actions.filterMap Action.exchange? ↔ .exchanged request answer ∈ actions := by
  rw [List.mem_filterMap]
  constructor
  · rintro ⟨action, hmem, hexchange⟩
    cases action <;> cases hexchange
    exact hmem
  · exact fun hmem => ⟨_, hmem, rfl⟩

@[simp]
theorem exchanges_noted {event : Diagnostics.Event} :
    (.noted event :: actions).filterMap Action.exchange? = actions.filterMap Action.exchange? :=
  rfl

@[simp]
theorem exchanges_exchange {target : Target} {request : Request} {answer : Answer} :
    (exchange d spans target request answer).filterMap Action.exchange? = [(request, answer)] :=
  rfl

@[simp]
theorem exchanges_remarks {target : Target} {request : Request} {answer : Answer} :
    (remarks d spans target request answer).filterMap Action.exchange? = [] := by
  unfold remarks
  split <;> rfl

@[simp]
theorem exchanges_signatureRemarks {url : Url} {answer : Answer} :
    (signatureRemarks d spans url answer).filterMap Action.exchange? = [] := by
  unfold signatureRemarks
  split
  · exact exchanges_remarks
  · rfl
  · rfl

@[simp]
theorem exchanges_saving {token : CachedToken} {outcome : Except StoreError Unit} :
    (saving d spans token outcome).filterMap Action.exchange? = [] := by
  cases outcome <;> rfl

@[simp]
theorem exchanges_refusedFirst {answer : Answer} {rest : List Action} :
    (refusedFirst d spans answer rest).filterMap Action.exchange? =
      (d.getRequest d.endpoints.metadata, answer) :: rest.filterMap Action.exchange? :=
  rfl

/-- Nothing is sent while the store is consulted. -/
theorem Consults.exchanges {result : Except OutOfRange (Option SessionToken)}
    (h : Consults d spans gate now actions result) : actions.filterMap Action.exchange? = [] := by
  cases h <;> rfl

/-- A request for a token is sent, and what it brings is the token. -/
theorem Issues.exchanges {found : Option SessionToken}
    (h : Issues d spans gate now actions found) :
    ∃ answer, actions.filterMap Action.exchange? = [(d.issueRequest gate, answer)] ∧
      found = (body? answer).map fun body => gate.sessionOf ⟨⟨body⟩, now⟩ := by
  cases h with
  | @issued response haccepted outcome =>
    refine ⟨.ok response, by simp, ?_⟩
    simp [body?, accepted?_of_isOk haccepted]
  | @refused answer hrefused =>
    refine ⟨answer, rfl, ?_⟩
    simp [body?, hrefused]

/-! ## Requests -/

theorem mem_exchange {target : Target} {request other : Request} {answer given : Answer} :
    .exchanged request answer ∈ exchange d spans target other given ↔
      request = other ∧ answer = given := by
  simp [← mem_exchanges_iff]

theorem not_mem_remarks {target : Target} {request other : Request} {answer given : Answer} :
    .exchanged request answer ∉ remarks d spans target other given := by
  simp [← mem_exchanges_iff]

theorem not_mem_signatureRemarks {url : Url} {request : Request} {answer given : Answer} :
    .exchanged request answer ∉ signatureRemarks d spans url given := by
  simp [← mem_exchanges_iff]

theorem mem_refusedFirst {request : Request} {answer given : Answer} {rest : List Action} :
    .exchanged request answer ∈ refusedFirst d spans given rest ↔
      request = d.getRequest d.endpoints.metadata ∧ answer = given ∨
        .exchanged request answer ∈ rest := by
  simp [← mem_exchanges_iff]

theorem Consults.not_exchanged {result : Except OutOfRange (Option SessionToken)}
    (h : Consults d spans gate now actions result) (request : Request) (answer : Answer) :
    .exchanged request answer ∉ actions := by
  rw [← mem_exchanges_iff, h.exchanges]
  exact List.not_mem_nil

theorem Issues.exchanged_eq {found : Option SessionToken}
    (h : Issues d spans gate now actions found) {request : Request} {answer : Answer}
    (hmem : .exchanged request answer ∈ actions) : request = d.issueRequest gate := by
  obtain ⟨given, hsent, -⟩ := h.exchanges
  rw [← mem_exchanges_iff, hsent] at hmem
  cases List.mem_singleton.1 hmem
  rfl

/-- While a token is resolved nothing is asked for but a token. -/
theorem Resolves.exchanged_eq {result : Except OutOfRange (Option TokenSecret)}
    (h : Resolves d spans gate now held actions result held') {request : Request} {answer : Answer}
    (hmem : .exchanged request answer ∈ actions) : request = d.issueRequest gate := by
  cases h with
  | reused => simp at hmem
  | endless => simp at hmem
  | storedEndless _ hconsults => exact absurd hmem (hconsults.not_exchanged _ _)
  | adopted _ hconsults => exact absurd hmem (hconsults.not_exchanged _ _)
  | issued _ hconsults hissues =>
    exact hissues.exchanged_eq ((List.mem_append.1 hmem).resolve_left (hconsults.not_exchanged _ _))
  | refused _ hconsults hissues =>
    exact hissues.exchanged_eq ((List.mem_append.1 hmem).resolve_left (hconsults.not_exchanged _ _))

/-! ## Taking a token -/

/-- A token is taken by actions at a reading of the clock: from the store, which holds it and where
it is valid, or from the service, which issues it at that reading. -/
inductive Taken (d : Descriptor) (gate : TokenGate) (now : Instant) (actions : List Action)
    (token : SessionToken) : Prop where
  | loaded (lifetime : token.ttl = gate.ttl)
      (loaded : .loaded (.ok (some ⟨token.secret, token.createdAt⟩)) ∈ actions)
      (valid : now.nanos < token.createdAt.nanosAfter gate.ttl)
  | issued (lifetime : token.ttl = gate.ttl) {response : Response}
      (sent : .exchanged (d.issueRequest gate) (.ok response) ∈ actions)
      (accepted : response.isOk = true) (secret : token.secret = ⟨response.body⟩)
      (created : token.createdAt = now)

namespace Taken

variable {token : SessionToken}

theorem lifetime (h : Taken d gate now actions token) : token.ttl = gate.ttl := by
  cases h <;> assumption

theorem mono {more : List Action} (h : Taken d gate now actions token) (hsub : actions ⊆ more) :
    Taken d gate now more token := by
  cases h with
  | loaded hlifetime hloaded hvalid => exact .loaded hlifetime (hsub hloaded) hvalid
  | issued hlifetime hsent haccepted hsecret hcreated =>
    exact .issued hlifetime (hsub hsent) haccepted hsecret hcreated

/-- A token is valid when it is taken. -/
theorem valid (h : Taken d gate now actions token) (hpos : 0 < gate.ttl) :
    now.nanos < token.createdAt.nanosAfter gate.ttl := by
  cases h with
  | loaded hlifetime hloaded hvalid => exact hvalid
  | issued hlifetime hsent haccepted hsecret hcreated =>
    rw [hcreated, Instant.nanosAfter]
    omega

end Taken

theorem Consults.taken {token : SessionToken}
    (h : Consults d spans gate now actions (.ok (some token))) :
    Taken d gate now actions token := by
  cases h with
  | valid hexpires hvalid =>
    exact .loaded rfl List.mem_cons_self (SessionToken.isValidAt?_eq_some_true_iff.1 hvalid).2

theorem Issues.taken {token : SessionToken} (h : Issues d spans gate now actions (some token)) :
    Taken d gate now actions token := by
  cases h with
  | issued haccepted outcome =>
    exact .issued rfl (List.mem_append_left _ (mem_exchange.2 ⟨rfl, rfl⟩)) haccepted rfl rfl

/-- Resolving a token keeps the remembered one or takes another. -/
theorem Resolves.taken {result : Except OutOfRange (Option TokenSecret)}
    (h : Resolves d spans gate now held actions result held') :
    held' = held ∨ ∃ token, held' = some token ∧ Taken d gate now actions token := by
  cases h with
  | reused => exact .inl rfl
  | endless => exact .inl rfl
  | storedEndless => exact .inl rfl
  | refused => exact .inl rfl
  | adopted _ hconsults => exact .inr ⟨_, rfl, hconsults.taken⟩
  | issued _ _ hissues =>
    exact .inr ⟨_, rfl, hissues.taken.mono (List.subset_append_right _ _)⟩

/-- A resolved secret is that of the token remembered afterwards, which was remembered before and is
valid, or has been taken. -/
theorem Resolves.secret_eq {secret : TokenSecret}
    (h : Resolves d spans gate now held actions (.ok (some secret)) held') :
    ∃ token, held' = some token ∧ token.secret = secret ∧
      (held = some token ∧ token.isValidAt? now = some true ∨ Taken d gate now actions token) := by
  cases h with
  | reused hvalid => exact ⟨_, rfl, rfl, .inl ⟨rfl, hvalid⟩⟩
  | adopted _ hconsults => exact ⟨_, rfl, rfl, .inr hconsults.taken⟩
  | issued _ _ hissues =>
    exact ⟨_, rfl, rfl, .inr (hissues.taken.mono (List.subset_append_right _ _))⟩

/-! ## Calls -/

/-- A call keeps the remembered token or replaces it by one that it takes. -/
theorem Performs.taken {call : Call} {result : Except OutOfRange Yield}
    (h : Performs d now call held actions result held') :
    held' = held ∨
      ∃ gate session, d.gate? = some gate ∧ held' = some session ∧
        Taken d gate now actions session := by
  rcases h.resolution with
    ⟨hsame, -⟩ | ⟨gate, spans, resolved, found, hgate, hencloses, hresolves⟩
  · exact .inl hsame
  · rcases hresolves.taken with hsame | ⟨session, hheld, htaken⟩
    · exact .inl hsame
    · exact .inr ⟨gate, session, hgate, hheld, htaken.mono hencloses.subset⟩

/-- A secret that a call returns was resolved in it. -/
theorem Performs.returned {call : Call} {secret : TokenSecret}
    (h : Performs d now call held actions (.ok (.secret (some secret))) held') :
    ∃ gate, d.gate? = some gate ∧
      Resolves d [tokenSpan d] gate now held actions (.ok (some secret)) held' := by
  rcases h.secret with ⟨hnone, -⟩ | hresolved
  · cases hnone
  · exact hresolved

/-- What leads up to an element of two lists, one after the other, ends in the first or takes in all
of it. -/
theorem concat_prefix_append {α : Type} {a : α} {front first second : List α}
    (h : front ++ [a] <+: first ++ second) :
    front ++ [a] <+: first ∨ ∃ q, front = first ++ q ∧ q ++ [a] <+: second := by
  obtain ⟨rest, hrest⟩ := h
  rcases List.append_eq_append_iff.1 hrest with ⟨more, hfirst, -⟩ | ⟨more, hfront, hsecond⟩
  · exact .inl ⟨more, hfirst.symm⟩
  · rcases List.eq_nil_or_concat more with rfl | ⟨q, b, rfl⟩
    · rw [List.append_nil] at hfront
      rw [hfront]
      exact .inl (List.prefix_refl first)
    · rw [List.concat_eq_append, ← List.append_assoc] at hfront
      rw [List.concat_eq_append] at hsecond
      obtain ⟨hq, hb⟩ := List.append_inj' hfront rfl
      rw [hb]
      exact .inr ⟨q, hq, rest, hsecond.symm⟩

/-- A request on the way to the metadata is made without a secret, or with one that was resolved
before it. -/
theorem Unlocks.requested {result : Except OutOfRange (Option String)}
    (h : Unlocks d spans gate now held actions result held') {earlier : List Action}
    {request : Request} {answer : Answer}
    (hfront : earlier ++ [.exchanged request answer] <+: actions) :
    request = d.getRequest d.endpoints.metadata ∨ request = d.issueRequest gate ∨
      ∃ secret resolved, request = d.tokenRequest gate secret ∧ resolved ⊆ earlier ∧
        Resolves d (spans ++ [tokenSpan d]) gate now held resolved (.ok (some secret)) held' := by
  have hmem : Action.exchanged request answer ∈ actions := hfront.subset (by simp)
  cases h with
  | opened => exact .inl (mem_exchange.1 hmem).1
  | failed hrefused hresolves =>
    exact (mem_refusedFirst.1 hmem).imp And.left fun h => .inl (hresolves.exchanged_eq h)
  | locked hrefused hresolves =>
    exact (mem_refusedFirst.1 hmem).imp And.left fun h => .inl (hresolves.exchanged_eq h)
  | @unlocked _ first resolved secret hrefused hresolves second =>
    -- The request stands before the token is resolved, while it is, or after that.
    rw [refusedFirst_append] at hfront
    rcases concat_prefix_append hfront with hfirst | ⟨q, rfl, hsecond⟩
    · have hmem : Action.exchanged request answer ∈ refusedFirst d spans first resolved :=
        hfirst.subset (by simp)
      exact (mem_refusedFirst.1 hmem).imp And.left fun h => .inl (hresolves.exchanged_eq h)
    · have hmem := hsecond.subset (List.mem_append_right q List.mem_cons_self)
      have hrequest := (mem_exchange.1 ((List.mem_append.1 hmem).resolve_right not_mem_remarks)).1
      exact .inr (.inr ⟨secret, resolved, hrequest,
        List.subset_append_of_subset_left _ encloses_refusedFirst_nil.subset, hresolves⟩)

/-- The requests of a call: for a document without a secret, for a token, and for the metadata with
a secret that was resolved before in the same call. -/
theorem Performs.requested {call : Call} {result : Except OutOfRange Yield}
    (h : Performs d now call held actions result held') {earlier : List Action} {request : Request}
    {answer : Answer} (hfront : earlier ++ [.exchanged request answer] <+: actions) :
    (∃ url, request = d.getRequest url) ∨
      ∃ gate, d.gate? = some gate ∧
        (request = d.issueRequest gate ∨
          ∃ secret spans resolved, request = d.tokenRequest gate secret ∧ resolved ⊆ earlier ∧
            Resolves d spans gate now held resolved (.ok (some secret)) held') := by
  have hmem : Action.exchanged request answer ∈ actions := hfront.subset (by simp)
  cases h with
  | single hsingle given =>
    have hmem := List.mem_of_ne_of_mem (by simp) hmem
    have hmem := (List.mem_append.1 hmem).resolve_right not_mem_remarks
    exact .inl ⟨_, (mem_exchange.1 hmem).1⟩
  | bundled => simp at hmem
  | separate hseparate given =>
    have hmem := List.mem_of_ne_of_mem (by simp) hmem
    have hmem := (List.mem_append.1 hmem).resolve_right not_mem_signatureRemarks
    exact .inl ⟨_, (mem_exchange.1 hmem).1⟩
  | ungated => simp at hmem
  | token hgated hresolves => exact .inr ⟨_, hgated, .inl (hresolves.exchanged_eq hmem)⟩
  | gated hgated hunlocks =>
    rcases concat_prefix_append (show _ <+: [_] ++ _ from hfront) with hnote | ⟨q, rfl, hrest⟩
    · have hmem := hnote.subset (List.mem_append_right earlier List.mem_cons_self)
      simp at hmem
    · have hgate := Descriptor.gate?_eq_some_iff.2 hgated
      rcases hunlocks.requested hrest with hget | hput | hattached
      · exact .inl ⟨_, hget⟩
      · exact .inr ⟨_, hgate, .inl hput⟩
      · obtain ⟨secret, resolved, hrequest, hsub, hresolves⟩ := hattached
        exact .inr ⟨_, hgate, .inr ⟨secret, _, resolved, hrequest,
          List.subset_append_of_subset_right _ hsub, hresolves⟩⟩

end InstanceIdentity.Collection
