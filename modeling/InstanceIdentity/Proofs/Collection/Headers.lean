import InstanceIdentity.Proofs.Collection.Requests

/-!
# The headers of the protocol

Whoever reads a request takes the first header of a name, whatever the case of its letters.  The
headers of a provider stand in front of those of the protocol, and may have any name: one with the
name of a protocol header takes its place.  Apart from that a token is carried by the request that
repeats another one, and by no other, and a request for a token says how long it shall live.

Main results:

- Theorem `Request.headerValue?_header`: an added header is read where no earlier one has its name.
- Theorem `protocol_headers_effective`: what is read under the names of the protocol's headers.
- Theorem `protocol_headers_shadowed`: a provider's own header in place of the protocol's.
-/

namespace InstanceIdentity

open Http (Request Answer Transport Script foldedName)

/-! ## Reading headers -/

namespace Http

variable {request : Request} {name value other : String}

theorem foldedName_eq_iff :
    foldedName name = foldedName other ↔
      name.toList.map Char.toLower = other.toList.map Char.toLower := by
  rw [← String.toList_inj]
  simp [foldedName]

/-- Names compared as lists of characters, which is quicker to run than as texts. -/
theorem Request.headerValue?_eq :
    request.headerValue? name =
      (request.headers.find? fun header =>
        header.1.toList.map Char.toLower = name.toList.map Char.toLower).map (·.2) := by
  simp only [Request.headerValue?, foldedName_eq_iff]

/-- An added header is read where no earlier one has its name. -/
theorem Request.headerValue?_header :
    (request.header name value).headerValue? other =
      (request.headerValue? other).or
        (if foldedName name = foldedName other then some value else none) := by
  simp only [Request.headerValue?, Request.header, List.find?_append, Option.map_or]
  by_cases hsame : foldedName name = foldedName other
  · simp [hsame]
  · simp [hsame]

end Http

/-- What is read of the provider's own headers under a name. -/
def Descriptor.ownHeader? (d : Descriptor) (name : String) : Option String :=
  (d.headers.entries.find? fun header => foldedName header.1 = foldedName name).map (·.2)

namespace Collection

section Reading

variable {d : Descriptor} {gate : TokenGate} {secret : TokenSecret} {name : String} {url : Url}

theorem getRequest_headerValue? : (d.getRequest url).headerValue? name = d.ownHeader? name :=
  rfl

theorem tokenRequest_tokenHeader :
    (d.tokenRequest gate secret).headerValue? gate.tokenHeader =
      some ((d.ownHeader? gate.tokenHeader).getD secret.exposed) := by
  rw [Descriptor.tokenRequest, Http.Request.headerValue?_header, getRequest_headerValue?, if_pos rfl]
  cases d.ownHeader? gate.tokenHeader <;> rfl

theorem issueRequest_headerValue? :
    (d.issueRequest gate).headerValue? name =
      (d.ownHeader? name).or
        (if foldedName gate.ttlHeader = foldedName name then some (toString gate.ttlSeconds.toNat)
        else none) :=
  Http.Request.headerValue?_header

end Reading

/-! ## Requests after others -/

/-- Every element of a list has to do with those before it. -/
def EachAfter {α : Type} (law : List α → α → Prop) (xs : List α) : Prop :=
  ∀ before x after, xs = before ++ x :: after → law before x

section EachAfter

variable {α : Type} {law : List α → α → Prop}

@[simp]
theorem eachAfter_nil : EachAfter law [] := by
  intro before x after h
  simp at h

@[simp]
theorem eachAfter_cons {x : α} {xs : List α} :
    EachAfter law (x :: xs) ↔ law [] x ∧ EachAfter (fun before => law (x :: before)) xs := by
  constructor
  · intro h
    refine ⟨h [] x xs rfl, ?_⟩
    rintro before y after rfl
    exact h (x :: before) y after rfl
  · rintro ⟨hfirst, hrest⟩ before y after h
    cases before with
    | nil =>
      cases h
      exact hfirst
    | cons z before =>
      cases h
      exact hrest before y after rfl

end EachAfter

/-- What the service answered to a request for a token. -/
def issueAnswer? (exchanges : List (Request × Answer)) : Option Answer :=
  (exchanges.find? fun exchange => exchange.1.method = .put).map (·.2)

/-- The headers of the protocol in a request that follows others in its call.  A request for a token
says how long it shall live and carries none; a request for a document carries none either, unless
it repeats another one, and then it carries the secret that was found.  Each of this holds exactly
as far as the provider has no header of its own under the name that is read. -/
structure Effective (d : Descriptor) (gate : TokenGate) (now : Instant)
    (held : Option SessionToken) (loaded : Except StoreError (Option CachedToken))
    (before : List (Request × Answer)) (request : Request) : Prop where
  lifetime : request.method = .put →
    (request.headerValue? gate.ttlHeader = some (toString gate.ttlSeconds.toNat) ↔
      d.ownHeader? gate.ttlHeader = none ∨
        d.ownHeader? gate.ttlHeader = some (toString gate.ttlSeconds.toNat))
  issue : request.method = .put →
    (request.headerValue? gate.tokenHeader = none ↔
      d.ownHeader? gate.tokenHeader = none ∧
        foldedName gate.ttlHeader ≠ foldedName gate.tokenHeader)
  first : request.method = .get → (∀ earlier ∈ before, earlier.1.method ≠ .get) →
    (request.headerValue? gate.tokenHeader = none ↔ d.ownHeader? gate.tokenHeader = none)
  repeated : request.method = .get → (∃ earlier ∈ before, earlier.1.method = .get) →
    ∃ secret, Finds gate now held loaded (issueAnswer? before) secret ∧
      (request.headerValue? gate.tokenHeader = some secret.exposed ↔
        d.ownHeader? gate.tokenHeader = none ∨
          d.ownHeader? gate.tokenHeader = some secret.exposed)

section Steps

variable {d : Descriptor} {gate : TokenGate} {now : Instant} {held : Option SessionToken}
  {loaded : Except StoreError (Option CachedToken)} {before : List (Request × Answer)}

theorem effective_getRequest {url : Url} (h : ∀ earlier ∈ before, earlier.1.method ≠ .get) :
    Effective d gate now held loaded before (d.getRequest url) where
  lifetime := by rintro ⟨⟩
  issue := by rintro ⟨⟩
  first := fun _ _ => by rw [getRequest_headerValue?]
  repeated := by
    rintro - ⟨earlier, hmem, hget⟩
    exact absurd hget (h earlier hmem)

theorem effective_issueRequest :
    Effective d gate now held loaded before (d.issueRequest gate) where
  lifetime := by
    intro _
    rw [issueRequest_headerValue?, if_pos rfl]
    cases d.ownHeader? gate.ttlHeader <;> simp
  issue := by
    intro _
    rw [issueRequest_headerValue?]
    simp
  first := by rintro ⟨⟩
  repeated := by rintro ⟨⟩

theorem effective_tokenRequest {secret : TokenSecret}
    (hget : ∃ earlier ∈ before, earlier.1.method = .get)
    (hfinds : Finds gate now held loaded (issueAnswer? before) secret) :
    Effective d gate now held loaded before (d.tokenRequest gate secret) where
  lifetime := by rintro ⟨⟩
  issue := by rintro ⟨⟩
  first := by
    intro _ hnone
    obtain ⟨earlier, hmem, hearlier⟩ := hget
    exact absurd hearlier (hnone earlier hmem)
  repeated := by
    intro _ _
    refine ⟨secret, hfinds, ?_⟩
    rw [tokenRequest_tokenHeader]
    cases d.ownHeader? gate.tokenHeader <;> simp

/-- The request that repeats another carries the secret that was found. -/
theorem Retries.effective_attached {issue : Option Answer} {secret : TokenSecret}
    {first answer : Answer} (h : Retries gate now held loaded issue (some (secret, answer))) :
    Effective d gate now held loaded
      ((d.getRequest d.endpoints.metadata, first) :: issue.toList.map (d.issueRequest gate, ·))
      (d.tokenRequest gate secret) := by
  have hfinds : Finds gate now held loaded issue secret := (h.attached_iff secret).1 ⟨answer, rfl⟩
  apply effective_tokenRequest
  · exact ⟨_, List.mem_cons_self, rfl⟩
  · cases issue <;> exact hfinds

/-- In every conversation the headers of the protocol are effective. -/
theorem Converses.effective {call : Call} {exchanges : List (Request × Answer)}
    (hgate : d.gate? = some gate) (h : Converses d now held loaded call exchanges) :
    EachAfter (fun before exchange => Effective d gate now held loaded before exchange.1)
      exchanges := by
  cases h with
  | metadata first => simpa using effective_getRequest (by simp)
  | bundled => exact eachAfter_nil
  | signature hseparate answer => simpa using effective_getRequest (by simp)
  | ungated => exact eachAfter_nil
  | @token other hgated issue =>
    cases hgate.symm.trans hgated
    cases issue with
    | none => exact eachAfter_nil
    | some answer => simpa using effective_issueRequest
  | @retried other issue attached hgated first hfollows =>
    cases hgate.symm.trans hgated
    have hfirst : Effective d gate now held loaded [] (d.getRequest d.endpoints.metadata) :=
      effective_getRequest (by simp)
    cases attached with
    | none =>
      cases issue with
      | none => simpa [retries] using hfirst
      | some answer => simpa [retries] using ⟨hfirst, effective_issueRequest⟩
    | some attached =>
      have hattached : Effective d gate now held loaded
          ((d.getRequest d.endpoints.metadata, first) :: issue.toList.map (d.issueRequest gate, ·))
          (d.tokenRequest gate attached.1) := hfollows.effective_attached
      cases issue with
      | none => simpa [retries] using ⟨hfirst, hattached⟩
      | some answer => simpa [retries] using ⟨hfirst, effective_issueRequest, hattached⟩

end Steps

/-! ## Visits -/

section Visits

variable {σ τ : Type} [TokenStore σ] [Transport τ]

/-- The headers of the protocol are effective in every request of a visit, by the exchanges before
it in the visit, as far as the provider has none of its own under their names. -/
theorem protocol_headers_effective {d : Descriptor} {gate : TokenGate} (hgate : d.gate? = some gate)
    (world : World σ τ) (v : Visit) {before after : List (Request × Answer)} {request : Request}
    {answer : Answer} (hsent : v.exchanges d world = before ++ (request, answer) :: after) :
    Effective d gate v.now world.session (TokenStore.load world.store).1 before request :=
  (v.converses d world).effective hgate before (request, answer) after hsent

/-- A request for the metadata that repeats another one carries the secret of the stored token. -/
theorem protocol_headers_effective_stored :
    let d := Descriptor.linkLocal
    let gate := Descriptor.linkLocalGate
    let world : World MemoryStore Script :=
      World.start ⟨some ⟨⟨"stored"⟩, .minute 0⟩⟩ ⟨[.ok ⟨401, ""⟩, .ok ⟨200, "document"⟩]⟩
    let v : Visit := ⟨.minute 5, .metadata⟩
    let before : List (Request × Answer) := [(d.getRequest d.endpoints.metadata, .ok ⟨401, ""⟩)]
    let request := d.tokenRequest gate ⟨"stored"⟩
    d.gate? = some gate ∧
      v.exchanges d world = before ++ [(request, .ok ⟨200, "document"⟩)] ∧
      ∃ secret, Finds gate v.now world.session (TokenStore.load world.store).1
          (issueAnswer? before) secret ∧
        request.headerValue? gate.tokenHeader = some secret.exposed := by
  intro d gate world v before request
  have hsent : v.exchanges d world = before ++ [(request, .ok ⟨200, "document"⟩)] := rfl
  obtain ⟨secret, hfinds, heffective⟩ :=
    (protocol_headers_effective Descriptor.linkLocal_gate? world v hsent).repeated rfl
      ⟨_, List.mem_cons_self, rfl⟩
  exact ⟨rfl, hsent, secret, hfinds, heffective.2 (.inl rfl)⟩

/-- A provider with headers of its own that have the names of the protocol's in lower case. -/
def shadowed : Descriptor :=
  { Descriptor.linkLocal with
    headers := (Dictionary.empty.insert "x-token" "own").insert "x-token-ttl-seconds" "0" }

/-- The provider's own headers take the place of the protocol's: every request is read as if it
carried the same token, and the one for a token as if that should live for no time at all. -/
theorem protocol_headers_shadowed :
    let gate := Descriptor.linkLocalGate
    let world : World MemoryStore Script :=
      World.start {} ⟨[.ok ⟨401, ""⟩, .ok ⟨200, "secret"⟩, .ok ⟨200, "document"⟩]⟩
    let v : Visit := ⟨.minute 0, .metadata⟩
    shadowed.validate = .ok () ∧ shadowed.gate? = some gate ∧
      (v.exchanges shadowed world).map (fun exchange => (exchange.1.method,
          exchange.1.headerValue? gate.ttlHeader, exchange.1.headerValue? gate.tokenHeader)) =
        [(.get, some "0", some "own"), (.put, some "0", some "own"),
          (.get, some "0", some "own")] := by
  refine ⟨rfl, rfl, ?_⟩
  simp only [Http.Request.headerValue?_eq]
  decide +kernel

end Visits

end Collection

end InstanceIdentity
