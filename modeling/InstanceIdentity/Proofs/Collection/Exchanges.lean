import InstanceIdentity.Proofs.Collection.Endless

/-!
# The exchanges of a call for the metadata

Everything that a call for the metadata sends, in its order, with the answers: one request without a
token; when that is refused behind a token gate, a request for a token, if neither memory nor the
store has one that is valid; and the first request once more, with the token that was found, if one
was.  A document comes back exactly when the last of these requests asks for the metadata and is
accepted.

Main results:

- Theorem `Resolves.exchanges`: when a token is asked for, and which secret is found.
- Theorem `Unlocks.exchanges`: the exchanges on the way to the metadata behind a token gate.
- Theorem `brings_retries_iff`: after a refusal, only a request with a token brings the metadata.
- Theorem `metadata_exchanges`: the exchanges of a call for the metadata, and the document.
-/

namespace InstanceIdentity.Collection

open Http (Request Answer Response Transport Script)
open Diagnostics (Span)

/-! ## When a token is found -/

/-- Neither memory nor the store has a token that is valid: what they have has ended.  A token whose
end lies beyond the last instant has not. -/
def Wanting (gate : TokenGate) (now : Instant) (held : Option SessionToken)
    (loaded : Except StoreError (Option CachedToken)) : Prop :=
  Lapsed now held ∧
    ∀ cached, loaded = .ok (some cached) → (gate.sessionOf cached).isValidAt? now = some false

/-- A secret is found: that of the remembered token while it is valid, else that of the stored one
while it is valid, else what the service issues when it is asked. -/
inductive Finds (gate : TokenGate) (now : Instant) (held : Option SessionToken)
    (loaded : Except StoreError (Option CachedToken)) (issue : Option Answer) : TokenSecret → Prop
    where
  | remembered {token : SessionToken} (kept : held = some token)
      (valid : token.isValidAt? now = some true) :
      Finds gate now held loaded issue token.secret
  | stored {cached : CachedToken} (lapsed : Lapsed now held) (brought : loaded = .ok (some cached))
      (valid : (gate.sessionOf cached).isValidAt? now = some true) :
      Finds gate now held loaded issue cached.secret
  | issued {answer : Answer} {body : String} (asked : issue = some answer)
      (accepted : body? answer = some body) :
      Finds gate now held loaded issue ⟨body⟩

section Steps

variable {d : Descriptor} {spans : List Span} {gate : TokenGate} {now : Instant}
  {held held' : Option SessionToken} {actions : List Action}
  {loaded : Except StoreError (Option CachedToken)} {issue : Option Answer} {secret : TokenSecret}

/-- A remembered token that is valid is found, whatever else there is. -/
theorem finds_remembered_iff {token : SessionToken} (hvalid : token.isValidAt? now = some true) :
    Finds gate now (some token) loaded none secret ↔ token.secret = secret := by
  have hnot : ¬ Lapsed now (some token) := by
    rw [lapsed_some_iff, hvalid]
    simp
  constructor
  · rintro (⟨hheld, -⟩ | ⟨hlapsed, -, -⟩ | ⟨hasked, -⟩)
    · cases hheld
      rfl
    · exact absurd hlapsed hnot
    · cases hasked
  · rintro rfl
    exact .remembered rfl hvalid

/-- When the remembered token has lapsed, it depends on the store and the service. -/
theorem Lapsed.finds_iff (h : Lapsed now held) :
    Finds gate now held loaded issue secret ↔
      (∃ cached, loaded = .ok (some cached) ∧
        (gate.sessionOf cached).isValidAt? now = some true ∧ cached.secret = secret) ∨
      ∃ answer, issue = some answer ∧ body? answer = some secret.exposed := by
  constructor
  · rintro (⟨hheld, hvalid⟩ | ⟨-, hloaded, hvalid⟩ | ⟨hasked, haccepted⟩)
    · have hended := h _ hheld
      rw [hvalid] at hended
      cases hended
    · exact .inl ⟨_, hloaded, hvalid, rfl⟩
    · exact .inr ⟨_, hasked, haccepted⟩
  · rintro (⟨cached, hloaded, hvalid, rfl⟩ | ⟨answer, hasked, haccepted⟩)
    · exact .stored h hloaded hvalid
    · exact .issued hasked haccepted

theorem Wanting.finds_iff (h : Wanting gate now held loaded) {answer : Answer} :
    Finds gate now held loaded (some answer) secret ↔ body? answer = some secret.exposed := by
  rw [h.1.finds_iff]
  constructor
  · rintro (⟨cached, hloaded, hvalid, -⟩ | ⟨other, hother, haccepted⟩)
    · have hended := h.2 cached hloaded
      rw [hvalid] at hended
      cases hended
    · cases hother
      exact haccepted
  · intro haccepted
    exact .inr ⟨answer, rfl, haccepted⟩

/-- What a look into the store brings, by what it loads. -/
theorem Consults.loaded_eq {result : Except OutOfRange (Option SessionToken)}
    (h : Consults d spans gate now actions result)
    (hload : ∀ outcome rest, actions = .loaded outcome :: rest → outcome = loaded) :
    match result with
    | .ok none =>
      ∀ cached, loaded = .ok (some cached) → (gate.sessionOf cached).isValidAt? now = some false
    | .ok (some token) =>
      ∃ cached, loaded = .ok (some cached) ∧ token = gate.sessionOf cached ∧
        token.isValidAt? now = some true
    | .error _ =>
      ∃ cached, loaded = .ok (some cached) ∧ (gate.sessionOf cached).isValidAt? now = none := by
  cases h with
  | unreadable => simp [← hload _ _ rfl]
  | empty => simp [← hload _ _ rfl]
  | expired hexpires hended =>
    cases hload _ _ rfl
    rintro _ ⟨⟩
    exact hended
  | valid hexpires hvalid => exact ⟨_, (hload _ _ rfl).symm, rfl, hvalid⟩
  | endless hendless =>
    exact ⟨_, (hload _ _ rfl).symm, SessionToken.isValidAt?_eq_none_iff.2 hendless⟩

/-- A token is asked for when it is wanting, and found when the service issues it. -/
theorem Wanting.of_issues {first second : List Action} {found : Option SessionToken}
    {result : Except OutOfRange (Option TokenSecret)} (hlapsed : Lapsed now held)
    (hconsults : Consults d spans gate now first (.ok none))
    (hissues : Issues d spans gate now second found)
    (hresult : result = .ok (found.map (·.secret)))
    (hload : ∀ outcome rest, first ++ second = .loaded outcome :: rest → outcome = loaded) :
    ∃ issue : Option Answer,
      (first ++ second).filterMap Action.exchange? = issue.toList.map (d.issueRequest gate, ·) ∧
      (issue.isSome ↔ Wanting gate now held loaded) ∧
      ∀ secret, result = .ok (some secret) ↔ Finds gate now held loaded issue secret := by
  obtain ⟨answer, hsent, hfound⟩ := hissues.exchanges
  have hfirstLoad : ∀ outcome rest, first = .loaded outcome :: rest → outcome = loaded := by
    rintro outcome rest rfl
    exact hload outcome (rest ++ second) rfl
  have hended := hconsults.loaded_eq hfirstLoad
  have hwanting : Wanting gate now held loaded := ⟨hlapsed, hended⟩
  refine ⟨some answer, ?_, by simpa using hwanting, ?_⟩
  · rw [List.filterMap_append, hconsults.exchanges, hsent]
    rfl
  · intro secret
    rw [hwanting.finds_iff, hresult, hfound]
    cases hbody : body? answer with
    | none => simp
    | some body =>
      constructor
      · rintro ⟨⟩
        rfl
      · rintro ⟨⟩
        rfl

/-- While a token is resolved, one is asked for exactly when it is wanting, and nothing else is
sent. -/
theorem Resolves.exchanges {result : Except OutOfRange (Option TokenSecret)}
    (h : Resolves d spans gate now held actions result held')
    (hload : ∀ outcome rest, actions = .loaded outcome :: rest → outcome = loaded) :
    ∃ issue : Option Answer,
      actions.filterMap Action.exchange? = issue.toList.map (d.issueRequest gate, ·) ∧
      (issue.isSome ↔ Wanting gate now held loaded) ∧
      ∀ secret, result = .ok (some secret) ↔ Finds gate now held loaded issue secret := by
  cases h with
  | @reused token hvalid =>
    refine ⟨none, rfl, ?_, ?_⟩
    · simp [Wanting, lapsed_some_iff, hvalid]
    · intro secret
      rw [finds_remembered_iff hvalid]
      simp
  | @endless token hendless =>
    have hjudged : token.isValidAt? now = none := SessionToken.isValidAt?_eq_none_iff.2 hendless
    refine ⟨none, rfl, ?_, ?_⟩
    · simp [Wanting, lapsed_some_iff, hjudged]
    · intro secret
      constructor
      · rintro ⟨⟩
      · rintro (⟨hheld, hvalid⟩ | ⟨hlapsed, -, -⟩ | ⟨hasked, -⟩)
        · cases hheld
          rw [hjudged] at hvalid
          cases hvalid
        · rw [lapsed_some_iff, hjudged] at hlapsed
          cases hlapsed
        · cases hasked
  | storedEndless hlapsed hconsults =>
    obtain ⟨cached, rfl, hjudged⟩ := hconsults.loaded_eq hload
    refine ⟨none, hconsults.exchanges, ?_, ?_⟩
    · simp [Wanting, hjudged]
    · intro secret
      rw [hlapsed.finds_iff]
      simp [hjudged]
  | adopted hlapsed hconsults =>
    obtain ⟨cached, rfl, rfl, hvalid⟩ := hconsults.loaded_eq hload
    refine ⟨none, hconsults.exchanges, ?_, ?_⟩
    · simp [Wanting, hvalid]
    · intro secret
      rw [hlapsed.finds_iff]
      simp [hvalid]
  | issued hlapsed hconsults hissues => exact Wanting.of_issues hlapsed hconsults hissues rfl hload
  | refused hlapsed hconsults hissues => exact Wanting.of_issues hlapsed hconsults hissues rfl hload

/-! ## The way to the metadata -/

/-- The exchanges that follow when the metadata was refused: for a token, and with a token. -/
def retries (d : Descriptor) (gate : TokenGate) (issue : Option Answer)
    (attached : Option (TokenSecret × Answer)) : List (Request × Answer) :=
  issue.toList.map (d.issueRequest gate, ·) ++
    attached.toList.map fun (secret, answer) => (d.tokenRequest gate secret, answer)

/-- What the request with a token brings. -/
def delivered? (attached : Option (TokenSecret × Answer)) : Option String :=
  attached.bind fun (_, answer) => body? answer

/-- What follows on a refusal: a request for a token exactly when one is wanting, and one for the
metadata exactly when a secret is found. -/
structure Retries (gate : TokenGate) (now : Instant) (held : Option SessionToken)
    (loaded : Except StoreError (Option CachedToken)) (issue : Option Answer)
    (attached : Option (TokenSecret × Answer)) : Prop where
  asked_iff : issue.isSome ↔ Wanting gate now held loaded
  attached_iff : ∀ secret, (∃ answer, attached = some (secret, answer)) ↔
    Finds gate now held loaded issue secret

theorem Resolves.retries_none {found : Except OutOfRange (Option TokenSecret)}
    (h : Resolves d spans gate now held actions found held')
    (hload : ∀ outcome rest, actions = .loaded outcome :: rest → outcome = loaded)
    (hnone : ∀ secret, found ≠ .ok (some secret)) :
    ∃ issue, actions.filterMap Action.exchange? = retries d gate issue none ∧
      Retries gate now held loaded issue none := by
  obtain ⟨issue, hsent, hasked, hfound⟩ := h.exchanges hload
  refine ⟨issue, by simp [hsent, retries], hasked, ?_⟩
  intro secret
  rw [← hfound]
  simp [hnone secret]

theorem Resolves.retries_some
    (h : Resolves d spans gate now held actions (.ok (some secret)) held')
    (hload : ∀ outcome rest, actions = .loaded outcome :: rest → outcome = loaded)
    (second : Answer) :
    ∃ issue, actions.filterMap Action.exchange? ++ [(d.tokenRequest gate secret, second)] =
        retries d gate issue (some (secret, second)) ∧
      Retries gate now held loaded issue (some (secret, second)) := by
  obtain ⟨issue, hsent, hasked, hfound⟩ := h.exchanges hload
  refine ⟨issue, by simp [hsent, retries], hasked, ?_⟩
  intro other
  rw [← hfound]
  simp

/-- The exchanges on the way to the metadata behind a token gate. -/
theorem Unlocks.exchanges {result : Except OutOfRange (Option String)}
    (h : Unlocks d spans gate now held actions result held')
    (hload : ∀ outcome rest, Encloses actions (.loaded outcome :: rest) → outcome = loaded) :
    (∃ first body, body? first = some body ∧
      actions.filterMap Action.exchange? = [(d.getRequest d.endpoints.metadata, first)] ∧
      AllPlain actions ∧ held' = held ∧ result = .ok (some body)) ∨
    ∃ first issue attached, body? first = none ∧
      actions.filterMap Action.exchange? =
        (d.getRequest d.endpoints.metadata, first) :: retries d gate issue attached ∧
      Retries gate now held loaded issue attached ∧
      ∀ body, result = .ok (some body) ↔ delivered? attached = some body := by
  have hresolvedLoad : ∀ {answer : Answer} {resolved last : List Action},
      actions = refusedFirst d spans answer (resolved ++ last) → AllPlain last →
        ∀ outcome rest, resolved = .loaded outcome :: rest → outcome = loaded := by
    rintro answer resolved last rfl hlast outcome rest rfl
    exact hload outcome rest (encloses_refusedFirst hlast)
  cases h with
  | @opened response haccepted =>
    exact .inl ⟨.ok response, response.body, by simp [body?, accepted?_of_isOk haccepted], rfl,
      by simp, rfl, rfl⟩
  | @failed _ first _ _ hrefused hresolves =>
    obtain ⟨issue, hsent, hretries⟩ := hresolves.retries_none
      (hresolvedLoad (by rw [List.append_nil]) AllPlain.nil) (by simp)
    exact .inr ⟨first, issue, none, by simp [body?, hrefused], by simp [hsent], hretries,
      by simp [delivered?]⟩
  | @locked _ first _ hrefused hresolves =>
    obtain ⟨issue, hsent, hretries⟩ := hresolves.retries_none
      (hresolvedLoad (by rw [List.append_nil]) AllPlain.nil) (by simp)
    exact .inr ⟨first, issue, none, by simp [body?, hrefused], by simp [hsent], hretries,
      by simp [delivered?]⟩
  | @unlocked _ first _ secret hrefused hresolves second =>
    obtain ⟨issue, hsent, hretries⟩ :=
      hresolves.retries_some (hresolvedLoad rfl (by simp)) second
    refine .inr ⟨first, issue, some (secret, second), by simp [body?, hrefused], ?_, hretries, ?_⟩
    · simp [hsent]
    · intro body
      simp [delivered?]

/-! ## The document -/

/-- The last of some exchanges asks for the metadata, and brings a body. -/
def Brings (d : Descriptor) (exchanges : List (Request × Answer)) (body : String) : Prop :=
  ∃ request answer, exchanges.getLast? = some (request, answer) ∧ request.method = .get ∧
    request.url = d.endpoints.metadata ∧ body? answer = some body

theorem brings_get_iff {front : List (Request × Answer)} {request : Request} {answer : Answer}
    {body : String} (hget : request.method = .get) (hurl : request.url = d.endpoints.metadata) :
    Brings d (front ++ [(request, answer)]) body ↔ body? answer = some body := by
  unfold Brings
  rw [List.getLast?_concat]
  constructor
  · rintro ⟨_, _, ⟨⟩, -, -, hbody⟩
    exact hbody
  · intro hbody
    exact ⟨request, answer, rfl, hget, hurl, hbody⟩

theorem not_brings_put {front : List (Request × Answer)} {answer : Answer} {body : String} :
    ¬ Brings d (front ++ [(d.issueRequest gate, answer)]) body := by
  unfold Brings
  rw [List.getLast?_concat]
  rintro ⟨_, _, ⟨⟩, hget, -, -⟩
  cases hget

theorem brings_first_iff {first : Answer} {body : String} :
    Brings d [(d.getRequest d.endpoints.metadata, first)] body ↔ body? first = some body := by
  rw [← List.nil_append [_], brings_get_iff rfl rfl]

/-- After a refusal, only a request with a token brings something. -/
theorem brings_retries_iff {first : Answer} {attached : Option (TokenSecret × Answer)}
    {body : String} (hrefused : body? first = none) :
    Brings d ((d.getRequest d.endpoints.metadata, first) :: retries d gate issue attached) body ↔
      delivered? attached = some body := by
  cases attached with
  | some attached =>
    rw [retries, ← List.cons_append, Option.toList_some, List.map_singleton,
      brings_get_iff rfl rfl]
    rfl
  | none =>
    cases issue with
    | none => simp [retries, brings_first_iff, hrefused, delivered?]
    | some answer =>
      have hput : ¬ Brings d ([(d.getRequest d.endpoints.metadata, first)] ++
          [(d.issueRequest gate, answer)]) body := not_brings_put
      simpa [retries, delivered?] using hput

/-- What comes back of a body is the document with it. -/
theorem document_eq_some_iff {kind : DocumentKind} {contentType : String} {body : Option String}
    {found : Document} :
    document d kind contentType body = some found ↔
      ∃ text, body = some text ∧ found = ⟨d.id, kind, contentType, text⟩ := by
  cases body with
  | none => simp [document]
  | some text => simp [document, eq_comm]

/-- A call for the metadata: what is sent, whether a token is touched, and the document. -/
theorem Performs.exchanges {result : Except OutOfRange Yield}
    (h : Performs d now .metadata held actions result held')
    (hload : ∀ outcome rest, Encloses actions (.loaded outcome :: rest) → outcome = loaded) :
    ∃ first rest,
      actions.filterMap Action.exchange? = (d.getRequest d.endpoints.metadata, first) :: rest ∧
      (d.gate? = none → rest = []) ∧
      (body? first ≠ none → rest = [] ∧ AllPlain actions ∧ held' = held) ∧
      (∀ gate, d.gate? = some gate → body? first = none → ∃ issue attached,
        rest = retries d gate issue attached ∧ Retries gate now held loaded issue attached) ∧
      ∀ found, result = .ok (.document (some found)) ↔
        ∃ body, Brings d ((d.getRequest d.endpoints.metadata, first) :: rest) body ∧
          found = ⟨d.id, .metadata, d.metadataContentType, body⟩ := by
  cases h with
  | single hsingle first =>
    refine ⟨first, [], by simp, fun _ => rfl, fun _ => ⟨rfl, by simp, rfl⟩, ?_, ?_⟩
    · intro gate hgate
      simp [Descriptor.gate?, FetchProtocol.gate?, hsingle] at hgate
    · intro found
      simp [document_eq_some_iff, brings_first_iff]
  | @gated _ _ gate inner brought hgated hunlocks =>
    have hgate : d.gate? = some gate := Descriptor.gate?_eq_some_iff.2 hgated
    have hfound : ∀ found, brought.map (fun body => Yield.document
        (document d .metadata d.metadataContentType body)) = .ok (.document (some found)) ↔
          ∃ body, brought = .ok (some body) ∧
            found = ⟨d.id, .metadata, d.metadataContentType, body⟩ := by
      intro found
      cases brought with
      | error e => simp [Except.map]
      | ok body => simp [Except.map, document_eq_some_iff]
    rcases hunlocks.exchanges fun outcome rest hencloses =>
        hload outcome rest (hencloses.cons (.noted _)) with
      ⟨first, body, hbody, hsent, hplain, hsame, rfl⟩ |
        ⟨first, issue, attached, hrefused, hsent, hretries, hresult⟩
    · refine ⟨first, [], hsent, fun _ => rfl, fun _ => ⟨rfl, by simpa using hplain, hsame⟩, ?_, ?_⟩
      · intro _ _ hnone
        rw [hbody] at hnone
        cases hnone
      · intro found
        rw [hfound]
        simp [brings_first_iff, hbody]
    · refine ⟨first, retries d gate issue attached, hsent, ?_, absurd hrefused, ?_, ?_⟩
      · rw [hgate]
        rintro ⟨⟩
      · intro other hother _
        cases hgate.symm.trans hother
        exact ⟨issue, attached, rfl, hretries⟩
      · intro found
        rw [hfound]
        simp only [hresult, brings_retries_iff hrefused]

end Steps

/-! ## A visit for the metadata -/

section Visits

variable {σ τ : Type} [TokenStore σ] [Transport τ]

/-- The exchanges of a visit. -/
def Visit.exchanges (v : Visit) (d : Descriptor) (world : World σ τ) : List (Request × Answer) :=
  (v.actions d world).filterMap Action.exchange?

/-- Plain actions leave the store alone. -/
theorem Backed.store_eq {s s' : σ} {t t' : τ} {actions : List Action}
    (h : Backed s t actions s' t') (hplain : AllPlain actions) : s' = s := by
  induction h with
  | nil => rfl
  | noted _ ih => exact ih (AllPlain.cons_iff.1 hplain).2
  | counted _ ih => exact ih (AllPlain.cons_iff.1 hplain).2
  | exchanged _ _ ih => exact ih (AllPlain.cons_iff.1 hplain).2
  | loaded => exact absurd (AllPlain.cons_iff.1 hplain).1 Plain.not_loaded
  | saved => exact absurd (AllPlain.cons_iff.1 hplain).1 Plain.not_saved

/-- A visit for the metadata first asks for it with the headers of the provider, in the order of
their names.  Without a token gate that is all; and so it is when the request is accepted, and then
neither the store nor the remembered token is touched.  Behind a gate a refusal is followed by a
request for a token, exactly when neither memory nor the store has a valid one, and by a request for
the metadata with the token that was found, exactly when one was.  A document comes back exactly when
the last request asks for the metadata and is accepted, and it has the body of that answer. -/
theorem metadata_exchanges (d : Descriptor) (world : World σ τ) (now : Instant) :
    let v : Visit := ⟨now, .metadata⟩
    let headers := d.headers.entries
    ∃ first rest,
      v.exchanges d world = (⟨.get, d.endpoints.metadata, headers⟩, first) :: rest ∧
      headers.Pairwise (fun a b => a.1 < b.1) ∧
      (d.gate? = none → rest = []) ∧
      (body? first ≠ none → rest = [] ∧ AllPlain (v.actions d world) ∧
        (v.after d world).session = world.session ∧ (v.after d world).store = world.store) ∧
      (∀ gate, d.gate? = some gate → body? first = none → ∃ issue attached,
        rest =
          issue.toList.map (fun answer => (⟨.put, gate.tokenUrl,
            headers ++ [(gate.ttlHeader, toString gate.ttlSeconds.toNat)]⟩, answer)) ++
          attached.toList.map (fun (secret, answer) => (⟨.get, d.endpoints.metadata,
            headers ++ [(gate.tokenHeader, secret.exposed)]⟩, answer)) ∧
        Retries gate now world.session (TokenStore.load world.store).1 issue attached) ∧
      ∀ found, v.result d world = .ok (.document (some found)) ↔
        ∃ body, Brings d (v.exchanges d world) body ∧
          found = ⟨d.id, .metadata, d.metadataContentType, body⟩ := by
  intro v headers
  have hbacked := v.backed d world
  obtain ⟨first, rest, hsent, hsingle, haccepted, hrefused, hfound⟩ :=
    (v.performs d world).exchanges fun outcome rest hencloses => hbacked.load_eq hencloses
  have hvisit : v.exchanges d world = (d.getRequest d.endpoints.metadata, first) :: rest := hsent
  refine ⟨first, rest, hvisit, d.headers.sorted, hsingle, ?_, hrefused, ?_⟩
  · intro hbody
    obtain ⟨hrest, hplain, hsession⟩ := haccepted hbody
    exact ⟨hrest, hplain, hsession, hbacked.store_eq hplain⟩
  · rw [hvisit]
    exact hfound

/-- Behind a gate, a refusal is followed by a request for a token and one with that token. -/
example :
    let world : World MemoryStore Script :=
      World.start {} ⟨[.ok ⟨401, ""⟩, .ok ⟨200, "secret"⟩, .ok ⟨200, "document"⟩]⟩
    (Visit.exchanges ⟨.minute 0, .metadata⟩ Descriptor.linkLocal world).map
        (fun exchange => (exchange.1.method, exchange.1.headers)) =
      [(.get, []), (.put, [("X-token-ttl-seconds", "360")]), (.get, [("X-token", "secret")])] := by
  decide +kernel

end Visits

end InstanceIdentity.Collection
