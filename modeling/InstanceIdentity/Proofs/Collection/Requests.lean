import InstanceIdentity.Proofs.Collection.Exchanges

/-!
# The requests of a collector

What a call sends, with the answers, is one of a few short conversations.  From them it is read off
where requests go and which headers they carry; over visits, this holds of all requests that the
transport was ever given.

Main results:

- Theorem `Visit.converses`: the exchanges of a visit are one of these conversations.
- Theorem `requests_well_formed`: a valid descriptor sends HTTP requests with proper header names only,
  and asks for a token at the gate only, for some time.
-/

namespace InstanceIdentity.Collection

open Http (Request Answer Transport Script)
open Diagnostics (Span)

/-! ## Conversations -/

/-- The exchanges of a call, by the call. -/
inductive Converses (d : Descriptor) (now : Instant) (held : Option SessionToken)
    (loaded : Except StoreError (Option CachedToken)) : Call → List (Request × Answer) → Prop where
  | metadata (first : Answer) :
      Converses d now held loaded .metadata [(d.getRequest d.endpoints.metadata, first)]
  | retried {gate : TokenGate} {issue : Option Answer} {attached : Option (TokenSecret × Answer)}
      (gated : d.gate? = some gate) (first : Answer)
      (follows : Retries gate now held loaded issue attached) :
      Converses d now held loaded .metadata
        ((d.getRequest d.endpoints.metadata, first) :: retries d gate issue attached)
  | bundled : Converses d now held loaded .signature []
  | signature {url : Url} {contentType : String}
      (separate : d.signature = .separate url contentType) (answer : Answer) :
      Converses d now held loaded .signature [(d.getRequest url, answer)]
  | ungated : Converses d now held loaded .token []
  | token {gate : TokenGate} (gated : d.gate? = some gate) (issue : Option Answer) :
      Converses d now held loaded .token (issue.toList.map (d.issueRequest gate, ·))

section Steps

variable {d : Descriptor} {now : Instant} {held held' : Option SessionToken}
  {actions : List Action} {loaded : Except StoreError (Option CachedToken)}

/-- A call is one of the conversations. -/
theorem Performs.converses {call : Call} {result : Except OutOfRange Yield}
    (h : Performs d now call held actions result held')
    (hload : ∀ outcome rest, Encloses actions (.loaded outcome :: rest) → outcome = loaded) :
    Converses d now held loaded call (actions.filterMap Action.exchange?) := by
  cases call with
  | metadata =>
    obtain ⟨first, rest, hsent, hsingle, haccepted, hrefused, -⟩ := h.exchanges hload
    rw [hsent]
    cases hgate : d.gate? with
    | none =>
      rw [hsingle hgate]
      exact .metadata first
    | some gate =>
      by_cases hbody : body? first = none
      · obtain ⟨issue, attached, rfl, hfollows⟩ := hrefused gate hgate hbody
        exact .retried hgate first hfollows
      · rw [(haccepted hbody).1]
        exact .metadata first
  | signature =>
    cases h with
    | bundled => exact .bundled
    | separate hseparate answer =>
      simpa using Converses.signature hseparate answer
  | token =>
    cases h with
    | ungated => exact .ungated
    | token hgated hresolves =>
      have hfirst : ∀ outcome rest, actions = .loaded outcome :: rest → outcome = loaded :=
        fun outcome rest hactions => hload outcome rest (hactions ▸ .refl)
      obtain ⟨issue, hsent, -⟩ := hresolves.exchanges hfirst
      rw [hsent]
      exact .token hgated issue

end Steps

section Visits

variable {σ τ : Type} [TokenStore σ] [Transport τ]

/-- A visit is one of the conversations. -/
theorem Visit.converses (v : Visit) (d : Descriptor) (world : World σ τ) :
    Converses d v.now world.session (TokenStore.load world.store).1 v.call
      (v.exchanges d world) :=
  (v.performs d world).converses fun _ _ hencloses => (v.backed d world).load_eq hencloses

end Visits

/-! ## Well-formed requests -/

/-- A request goes to an HTTP URL with a host, and its headers have proper names.  If it asks for a token,
it goes to the token gate and names a positive number of seconds. -/
structure WellFormed (d : Descriptor) (request : Request) : Prop where
  url : Descriptor.HttpWithHost request.url
  names : ∀ header ∈ request.headers, Descriptor.HeaderSpelling header.1
  issue : request.method = .put → ∃ gate, d.gate? = some gate ∧ request.url = gate.tokenUrl ∧
    ∃ seconds : Nat, 0 < seconds ∧ (gate.ttlHeader, toString seconds) ∈ request.headers

section Steps

variable {d : Descriptor} {gate : TokenGate} {now : Instant} {held : Option SessionToken}
  {loaded : Except StoreError (Option CachedToken)}

/-- The requests for documents of a sound descriptor are well-formed. -/
theorem wellFormed_getRequest {url : Url} (h : d.Sound) (hurl : Descriptor.servesHttp url = true) :
    WellFormed d (d.getRequest url) where
  url := Descriptor.servesHttp_iff.1 hurl
  names := by
    intro header hmem
    exact Descriptor.isHeaderName_iff.1 (h.headers _ (List.mem_map_of_mem hmem))
  issue := by
    rintro ⟨⟩

/-- A header with a proper name may be added to a well-formed request. -/
theorem WellFormed.header {request : Request} {name value : String} (h : WellFormed d request)
    (hname : Descriptor.isHeaderName name = true) : WellFormed d (request.header name value) where
  url := h.url
  names := by
    intro header hmem
    rcases List.mem_append.1 hmem with hmem | hmem
    · exact h.names header hmem
    · rw [List.mem_singleton.1 hmem]
      exact Descriptor.isHeaderName_iff.1 hname
  issue := by
    intro hput
    obtain ⟨gate, hgate, hurl, seconds, hpos, hmem⟩ := h.issue hput
    exact ⟨gate, hgate, hurl, seconds, hpos, List.mem_append_left _ hmem⟩

theorem wellFormed_tokenRequest {secret : TokenSecret} (h : d.Sound) (hgate : d.gate? = some gate) :
    WellFormed d (d.tokenRequest gate secret) :=
  (wellFormed_getRequest h h.metadata).header (h.gate gate hgate).tokenHeader

theorem wellFormed_issueRequest (h : d.Sound) (hgate : d.gate? = some gate) :
    WellFormed d (d.issueRequest gate) := by
  have hsound := h.gate gate hgate
  have hnamed : WellFormed d
      ((d.getRequest gate.tokenUrl).header gate.ttlHeader (toString gate.ttlSeconds.toNat)) :=
    (wellFormed_getRequest h hsound.tokenUrl).header hsound.ttlHeader
  exact ⟨hnamed.url, hnamed.names, fun _ => ⟨gate, hgate, rfl, _, hsound.seconds_pos,
    List.mem_append_right _ List.mem_cons_self⟩⟩

/-- All that is sent in a conversation of a sound descriptor is well-formed. -/
theorem Converses.wellFormed {call : Call} {exchanges : List (Request × Answer)} (h : d.Sound)
    (hconverses : Converses d now held loaded call exchanges) :
    ∀ exchange ∈ exchanges, WellFormed d exchange.1 := by
  cases hconverses with
  | metadata first => simpa using wellFormed_getRequest h h.metadata
  | @retried gate issue attached hgated first hfollows =>
    simp only [retries, List.mem_cons, List.mem_append, List.mem_map]
    rintro _ (rfl | ⟨answer, -, rfl⟩ | ⟨⟨secret, answer⟩, -, rfl⟩)
    · exact wellFormed_getRequest h h.metadata
    · exact wellFormed_issueRequest h hgated
    · exact wellFormed_tokenRequest h hgated
  | bundled => simp
  | @signature url contentType hseparate answer =>
    simpa using wellFormed_getRequest h (h.signature url contentType hseparate)
  | ungated => simp
  | token hgated issue =>
    simp only [List.mem_map]
    rintro _ ⟨answer, -, rfl⟩
    exact wellFormed_issueRequest h hgated

end Steps

/-- The requests in a log are those of its exchanges. -/
theorem World.requests_eq {σ τ : Type} (world : World σ τ) :
    world.requests = (world.log.filterMap Action.exchange?).map Prod.fst := by
  have hview : Action.request? = fun action => action.exchange?.map Prod.fst := by
    funext action
    cases action <;> rfl
  rw [World.requests, List.map_filterMap, ← hview]

section Visits

variable {σ τ : Type} [TokenStore σ] [Transport τ]

/-- A visit adds the requests of its exchanges to those of the past. -/
theorem Visit.requests_after (v : Visit) (d : Descriptor) (world : World σ τ) :
    (v.after d world).requests = world.requests ++ (v.exchanges d world).map Prod.fst := by
  unfold Visit.exchanges
  rw [World.requests_eq, World.requests_eq, (v.trace d world).1.log_eq, List.filterMap_append,
    List.map_append]

/-- A valid descriptor sends well-formed requests only, whatever the store, the transport and the
clock do. -/
theorem requests_well_formed {d : Descriptor} (hvalid : d.validate = .ok ()) (store : σ)
    (transport : τ) (visits : List Visit) :
    ∀ request ∈ (visited d (World.start store transport) visits).requests,
      WellFormed d request := by
  have hsound := Descriptor.validate_eq_ok_iff.1 hvalid
  refine history_induction d
    (I := fun _ world => ∀ request ∈ world.requests, WellFormed d request) ?_ ?_ visits
  · intro request hmem
    cases hmem
  · intro _ world v hpast request hmem
    rw [v.requests_after, List.mem_append] at hmem
    rcases hmem with hmem | hmem
    · exact hpast request hmem
    · obtain ⟨exchange, hexchange, rfl⟩ := List.mem_map.1 hmem
      exact (v.converses d world).wellFormed hsound exchange hexchange

/-- The three requests of a call for the metadata that is refused at first.  The second of them asks
for a token. -/
theorem requests_well_formed_refused :
    let d := Descriptor.linkLocal
    let gate := Descriptor.linkLocalGate
    let world : World MemoryStore Script := visited d
      (World.start {} ⟨[.ok ⟨401, ""⟩, .ok ⟨200, "secret"⟩, .ok ⟨200, "document"⟩]⟩)
      [⟨.minute 0, .metadata⟩]
    d.validate = .ok () ∧
      world.requests = [d.getRequest d.endpoints.metadata, d.issueRequest gate,
        d.tokenRequest gate ⟨"secret"⟩] ∧
      WellFormed d (d.issueRequest gate) := by
  intro d gate world
  have hrequests : world.requests = [d.getRequest d.endpoints.metadata, d.issueRequest gate,
      d.tokenRequest gate ⟨"secret"⟩] := by
    decide +kernel
  have hsent : d.issueRequest gate ∈ world.requests := by simp [hrequests]
  exact ⟨rfl, hrequests, requests_well_formed Descriptor.linkLocal_validate _ _ _ _ hsent⟩

end Visits

end InstanceIdentity.Collection
