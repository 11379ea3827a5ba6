import InstanceIdentity.Proofs.Collection.Trace
import InstanceIdentity.Proofs.Lifetime

/-!
# Resolving a token

How a token is resolved is told here by relations between the token that is remembered, the actions,
the result, and the token that is remembered afterwards.  A rule of a relation is one way through an
operation, with the conditions under which that way is taken.  No store and no transport occurs in
them: their outcomes are read off the actions.

Main results:

- Theorem `fetch_trace`: a request is one exchange with its event and counts.
- Theorem `resolveToken_obeys`: a token is resolved in one of six ways.
-/

namespace InstanceIdentity.Collection

open Http (Request Answer Response Transport)
open Diagnostics (Span)

variable {σ τ : Type} (d : Descriptor) (spans : List Span)

/-! ## Exchanges -/

theorem accepted?_of_isOk {response : Response} (h : response.isOk = true) :
    Http.accepted? (.ok response) = some response :=
  if_pos h

theorem accepted?_of_not_isOk {response : Response} (h : response.isOk = false) :
    Http.accepted? (.ok response) = none :=
  if_neg (by simp [h])

theorem accepted?_eq_some_iff {answer : Answer} {response : Response} :
    Http.accepted? answer = some response ↔ answer = .ok response ∧ response.isOk = true := by
  constructor
  · intro h
    cases answer with
    | error cause => cases h
    | ok other =>
      cases hok : other.isOk with
      | true =>
        rw [accepted?_of_isOk hok] at h
        cases h
        exact ⟨rfl, hok⟩
      | false =>
        rw [accepted?_of_not_isOk hok] at h
        cases h
  · rintro ⟨rfl, hok⟩
    exact accepted?_of_isOk hok

/-- The error of a request whose answer is not accepted. -/
def refusal (target : Target) (request : Request) : Answer → FetchError
  | .error cause => .network request.url.text cause
  | .ok response => .unexpectedStatus d.id target response.status

/-- What a request brings. -/
def fetched (target : Target) (request : Request) (answer : Answer) : Except FetchError String :=
  match Http.accepted? answer with
  | some response => .ok response.body
  | none => .error (refusal d target request answer)

theorem fetched_of_accepted {d : Descriptor} {target : Target} {request : Request} {answer : Answer}
    {response : Response} (h : Http.accepted? answer = some response) :
    fetched d target request answer = .ok response.body := by
  simp [fetched, h]

theorem fetched_of_refused {d : Descriptor} {target : Target} {request : Request} {answer : Answer}
    (h : Http.accepted? answer = none) :
    fetched d target request answer = .error (refusal d target request answer) := by
  simp [fetched, h]

/-- The body of an accepted answer. -/
def body? (answer : Answer) : Option String := (Http.accepted? answer).map (·.body)

/-- The actions of a request with its answer. -/
def exchange (target : Target) (request : Request) (answer : Answer) : List Action :=
  [.noted ⟨.requesting d.id target request.method request.url, spans⟩,
    .counted ⟨d.id, target, .attempt⟩,
    .exchanged request answer,
    .counted ⟨d.id, target, if (Http.accepted? answer).isSome then .success else .failure⟩]

/-- What is reported of a request that nothing follows. -/
def remarks (target : Target) (request : Request) (answer : Answer) : List Action :=
  match Http.accepted? answer with
  | some _ => []
  | none => [.noted ⟨.fetchFailed d.id target (refusal d target request answer), spans⟩]

section Fetching

variable [TokenStore σ] [Transport τ] (target : Target) (request : Request)

theorem fetch_trace (world : World σ τ) :
    ∃ answer after,
      Trace (fetch d spans target request) world (exchange d spans target request answer)
        (.ok (fetched d target request answer)) after ∧
      after.session = world.session := by
  let noted := world.record (.noted ⟨.requesting d.id target request.method request.url, spans⟩)
  let asked := noted.record (.counted ⟨d.id, target, .attempt⟩)
  have hsend : Trace (Work.send request) asked _ _ _ := Trace.send request
  generalize (Transport.send request asked.transport).1 = answer at hsend
  refine ⟨answer, ((Work.send request).exec asked).2.record (.counted ⟨d.id, target,
    if (Http.accepted? answer).isSome then .success else .failure⟩),
    (Trace.note ..).bind <| (Trace.count ..).bind <| hsend.bind ?_, rfl⟩
  cases answer with
  | error cause => exact (Trace.count ..).bind (.pure _)
  | ok response =>
    cases hok : response.isOk with
    | true =>
      simp only [hok, fetched, accepted?_of_isOk]
      exact (Trace.count ..).bind (.pure _)
    | false =>
      simp only [hok, fetched, accepted?_of_not_isOk]
      exact (Trace.count ..).bind (.pure _)

theorem fetchReported_obeys (world : World σ τ) :
    Obeys (fetchReported d spans target request) world fun actions result session =>
      session = world.session ∧ ∃ answer, result = .ok (body? answer) ∧
        actions =
          exchange d spans target request answer ++ remarks d spans target request answer := by
  obtain ⟨answer, after, hfetch, hsession⟩ := fetch_trace d spans target request world
  cases haccepted : Http.accepted? answer with
  | some response =>
    rw [fetched_of_accepted haccepted] at hfetch
    refine .bind hfetch (.pure ⟨hsession, answer, ?_, ?_⟩)
    · simp [body?, haccepted]
    · simp [remarks, haccepted]
  | none =>
    rw [fetched_of_refused haccepted] at hfetch
    refine .bind hfetch (.bind (.note ..) (.pure ⟨hsession, answer, ?_, ?_⟩))
    · simp [body?, haccepted]
    · simp [remarks, haccepted]

end Fetching

/-! ## Resolving a token -/

/-- A token is not remembered, or its life has ended. -/
def Lapsed (now : Instant) (held : Option SessionToken) : Prop :=
  ∀ token ∈ held, token.isValidAt? now = some false

theorem lapsed_none {now : Instant} : Lapsed now none := by
  simp [Lapsed]

theorem lapsed_some_iff {now : Instant} {token : SessionToken} :
    Lapsed now (some token) ↔ token.isValidAt? now = some false := by
  simp [Lapsed]

/-- What is made of the remembered token: it is used while it is valid. -/
inductive Recalls (now : Instant) :
    Option SessionToken → List Action → Except OutOfRange (Option SessionToken) → Prop where
  | valid {token : SessionToken} (valid : token.isValidAt? now = some true) :
      Recalls now (some token) [.noted ⟨.tokenReused token.secret.fingerprint, spans⟩]
        (.ok (some token))
  | endless {token : SessionToken} (endless : token.expiresAt? = none) :
      Recalls now (some token) [] (.error .expiry)
  | lapsed {held : Option SessionToken} (lapsed : Lapsed now held) : Recalls now held [] (.ok none)

/-- What is made of the stored token: it is used while it is valid. -/
inductive Consults (gate : TokenGate) (now : Instant) :
    List Action → Except OutOfRange (Option SessionToken) → Prop where
  | unreadable (error : StoreError) :
      Consults gate now
        [.loaded (.error error), .noted ⟨.storeUnreadable d.id error, spans⟩] (.ok none)
  | empty : Consults gate now [.loaded (.ok none)] (.ok none)
  | expired {cached : CachedToken} {expiry : Instant}
      (expires : (gate.sessionOf cached).expiresAt? = some expiry)
      (ended : (gate.sessionOf cached).isValidAt? now = some false) :
      Consults gate now
        [.loaded (.ok (some cached)), .noted ⟨.storedTokenExpired d.id expiry, spans⟩] (.ok none)
  | valid {cached : CachedToken} {expiry : Instant}
      (expires : (gate.sessionOf cached).expiresAt? = some expiry)
      (valid : (gate.sessionOf cached).isValidAt? now = some true) :
      Consults gate now
        [.loaded (.ok (some cached)),
          .noted ⟨.storedTokenUsed d.id cached.secret.fingerprint expiry, spans⟩]
        (.ok (some (gate.sessionOf cached)))
  | endless {cached : CachedToken} (endless : (gate.sessionOf cached).expiresAt? = none) :
      Consults gate now [.loaded (.ok (some cached))] (.error .expiry)

/-- The actions of saving a token. -/
def saving (token : CachedToken) (outcome : Except StoreError Unit) : List Action :=
  [.saved token outcome,
    match outcome with
    | .ok () => .noted ⟨.tokenStored d.id token.secret.fingerprint, spans⟩
    | .error error => .noted ⟨.tokenNotStored d.id error, spans⟩]

/-- What a request for a token brings: a token that is saved, or a refusal. -/
inductive Issues (gate : TokenGate) (now : Instant) : List Action → Option SessionToken → Prop where
  | issued {response : Response} (accepted : response.isOk = true)
      (outcome : Except StoreError Unit) :
      Issues gate now
        (exchange d spans .token (d.issueRequest gate) (.ok response) ++
          saving d spans ⟨⟨response.body⟩, now⟩ outcome)
        (some (gate.sessionOf ⟨⟨response.body⟩, now⟩))
  | refused {answer : Answer} (refused : Http.accepted? answer = none) :
      Issues gate now
        (exchange d spans .token (d.issueRequest gate) answer ++
          [.noted ⟨.tokenRefused d.id (refusal d .token (d.issueRequest gate) answer), spans⟩])
        none

/-- The ways in which a token is resolved: from memory, from the store, from the service. -/
inductive Resolves (gate : TokenGate) (now : Instant) :
    Option SessionToken → List Action → Except OutOfRange (Option TokenSecret) →
      Option SessionToken → Prop where
  | reused {token : SessionToken} (valid : token.isValidAt? now = some true) :
      Resolves gate now (some token) [.noted ⟨.tokenReused token.secret.fingerprint, spans⟩]
        (.ok (some token.secret)) (some token)
  | endless {token : SessionToken} (endless : token.expiresAt? = none) :
      Resolves gate now (some token) [] (.error .expiry) (some token)
  | storedEndless {held : Option SessionToken} {actions : List Action}
      (lapsed : Lapsed now held) (consults : Consults d spans gate now actions (.error .expiry)) :
      Resolves gate now held actions (.error .expiry) held
  | adopted {held : Option SessionToken} {actions : List Action} {token : SessionToken}
      (lapsed : Lapsed now held) (consults : Consults d spans gate now actions (.ok (some token))) :
      Resolves gate now held actions (.ok (some token.secret)) (some token)
  | issued {held : Option SessionToken} {first second : List Action} {token : SessionToken}
      (lapsed : Lapsed now held) (consults : Consults d spans gate now first (.ok none))
      (issues : Issues d spans gate now second (some token)) :
      Resolves gate now held (first ++ second) (.ok (some token.secret)) (some token)
  | refused {held : Option SessionToken} {first second : List Action}
      (lapsed : Lapsed now held) (consults : Consults d spans gate now first (.ok none))
      (issues : Issues d spans gate now second none) :
      Resolves gate now held (first ++ second) (.ok none) held

section Resolving

variable [TokenStore σ] [Transport τ] (gate : TokenGate) (now : Instant) (world : World σ τ)

theorem expiry_trace {token : SessionToken} {expiry : Instant}
    (h : token.expiresAt? = some expiry) :
    Trace (Work.expiry token) world [] (.ok expiry) world := by
  unfold Work.expiry
  rw [h]
  exact .pure expiry

theorem expiry_trace_error {token : SessionToken} (h : token.expiresAt? = none) :
    Trace (Work.expiry token) world [] (.error .expiry) world := by
  unfold Work.expiry
  rw [h]
  exact ⟨rfl, (List.append_nil _).symm, .nil⟩

theorem storedToken_obeys :
    Obeys (storedToken d spans gate now) world fun actions result session =>
      session = world.session ∧ Consults d spans gate now actions result := by
  have hload : Trace Work.load world _ _ _ := Trace.load
  generalize (TokenStore.load world.store).1 = outcome at hload
  refine .bind hload ?_
  rcases outcome with error | _ | cached
  · exact .bind (.note ..) (.pure ⟨rfl, .unreadable error⟩)
  · exact .pure ⟨rfl, .empty⟩
  · cases hexpires : (gate.sessionOf cached).expiresAt? with
    | none => exact .bind_error (expiry_trace_error _ hexpires) ⟨rfl, .endless hexpires⟩
    | some expiry =>
      refine .bind (expiry_trace _ hexpires) ?_
      have hvalidAt := SessionToken.isValidAt?_of_expiresAt? now hexpires
      cases hbefore : now.before expiry with
      | true =>
        rw [hbefore] at hvalidAt
        simp only [if_true]
        exact .bind (.note ..) (.pure ⟨rfl, .valid hexpires hvalidAt⟩)
      | false =>
        rw [hbefore] at hvalidAt
        simp only [Bool.false_eq_true, if_false]
        exact .bind (.note ..) (.pure ⟨rfl, .expired hexpires hvalidAt⟩)

theorem persist_trace (token : SessionToken) :
    ∃ outcome after,
      Trace (persist d spans token) world (saving d spans ⟨token.secret, token.createdAt⟩ outcome)
        (.ok ()) after ∧
      after.session = world.session := by
  have hsave : Trace (Work.save ⟨token.secret, token.createdAt⟩) world _ _ _ := Trace.save _
  generalize (TokenStore.save ⟨token.secret, token.createdAt⟩ world.store).1 = outcome at hsave
  cases outcome with
  | ok done => exact ⟨_, _, hsave.bind (.note ..), rfl⟩
  | error error => exact ⟨_, _, hsave.bind (.note ..), rfl⟩

theorem issuedToken_obeys :
    Obeys (issuedToken d spans gate now) world fun actions result session =>
      session = world.session ∧
        ∃ found, result = .ok found ∧ Issues d spans gate now actions found := by
  obtain ⟨answer, after, hfetch, hsession⟩ := fetch_trace d spans .token (d.issueRequest gate) world
  cases haccepted : Http.accepted? answer with
  | some response =>
    obtain ⟨rfl, hok⟩ := accepted?_eq_some_iff.1 haccepted
    rw [fetched_of_accepted haccepted] at hfetch
    obtain ⟨outcome, saved, hpersist, hsaved⟩ :=
      persist_trace d spans after (gate.sessionOf ⟨⟨response.body⟩, now⟩)
    exact .bind hfetch (.bind hpersist (.pure ⟨hsaved.trans hsession, _, rfl, .issued hok outcome⟩))
  | none =>
    rw [fetched_of_refused haccepted] at hfetch
    exact .bind hfetch (.bind (.note ..) (.pure ⟨hsession, _, rfl, .refused haccepted⟩))

theorem adoptedToken_obeys (hlapsed : Lapsed now world.session) :
    Obeys (adoptedToken d spans gate now) world fun actions result session =>
      Resolves d spans gate now world.session actions
        (result.map (Option.map SessionToken.secret)) session := by
  obtain ⟨first, result, after, hstored, hsession, hconsults⟩ :=
    storedToken_obeys d spans gate now world
  rcases result with _ | _ | token
  · refine .bind_error hstored ?_
    rw [hsession]
    exact .storedEndless hlapsed hconsults
  · obtain ⟨second, _, asked, hissued, hasked, found, rfl, hissues⟩ :=
      issuedToken_obeys d spans gate now after
    rw [hsession] at hasked
    cases found with
    | none =>
      exact .bind hstored (.bind hissued
        (.pure (by simpa [hasked] using .refused hlapsed hconsults hissues)))
    | some token =>
      exact .bind hstored (.bind hissued (.bind (.remember token)
        (.pure (by simpa using .issued hlapsed hconsults hissues))))
  · exact .bind hstored (.bind (.pure _) (.bind (.remember token)
      (.pure (by simpa using .adopted hlapsed hconsults))))

theorem rememberedToken_obeys :
    Obeys (rememberedToken spans now : Work σ τ _) world fun actions result session =>
      session = world.session ∧ Recalls spans now world.session actions result := by
  refine .bind .get ?_
  cases hheld : world.session with
  | none => exact .pure ⟨hheld, .lapsed lapsed_none⟩
  | some token =>
    cases hexpires : token.expiresAt? with
    | none => exact .bind_error (expiry_trace_error _ hexpires) ⟨hheld, .endless hexpires⟩
    | some expiry =>
      refine .bind (expiry_trace _ hexpires) ?_
      have hvalidAt := SessionToken.isValidAt?_of_expiresAt? now hexpires
      cases hbefore : now.before expiry with
      | true =>
        rw [hbefore] at hvalidAt
        exact .bind (.note ..) (.pure ⟨hheld, .valid hvalidAt⟩)
      | false =>
        rw [hbefore] at hvalidAt
        exact .pure ⟨hheld, .lapsed (lapsed_some_iff.2 hvalidAt)⟩

/-- The span of resolving a token. -/
def tokenSpan : Span := { provider := d.id, target := .token, stage := "get_token" }

/-- A token is resolved in one of six ways. -/
theorem resolveToken_obeys :
    Obeys (resolveToken d spans gate now) world
      (Resolves d (spans ++ [tokenSpan d]) gate now world.session) := by
  obtain ⟨first, result, after, hremembered, hsession, hrecalls⟩ :=
    rememberedToken_obeys (spans ++ [tokenSpan d]) now world
  rw [← hsession] at hrecalls ⊢
  generalize hheld : after.session = held at hrecalls ⊢
  cases hrecalls with
  | valid hvalid =>
    refine .bind hremembered (.pure ?_)
    rw [hheld]
    exact .reused hvalid
  | endless hendless =>
    refine .bind_error hremembered ?_
    rw [hheld]
    exact .endless hendless
  | lapsed hlapsed =>
    subst hheld
    obtain ⟨actions, result, adopted, hadopted, hresolves⟩ :=
      adoptedToken_obeys d (spans ++ [tokenSpan d]) gate now after hlapsed
    exact ⟨_, _, _, hremembered.bind (hadopted.map (Option.map SessionToken.secret)), hresolves⟩

end Resolving

end InstanceIdentity.Collection
