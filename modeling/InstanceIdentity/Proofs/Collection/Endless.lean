import InstanceIdentity.Proofs.Collection.Freshness
import InstanceIdentity.Store.Hosted

/-!
# Tokens without an end

A token whose life would end beyond the last instant has no end that could be compared with a
reading of the clock.  A call that has to judge such a token brings no result.  The store may hold
one: a cache file may record any supported instant as the time of creation, the last ones included.

Main results:

- Theorem `Resolves.error_iff`: resolving a token fails exactly on a token without an end.
- Theorem `result_eq_error_iff`: so does a call in which a token is resolved, and no other call fails.
-/

namespace InstanceIdentity.Collection

open Http (Request Answer Response Transport Script)
open Diagnostics (Span)

/-- A token of a gate that was obtained at an instant has no supported end. -/
def Endless (gate : TokenGate) (createdAt : Instant) : Prop :=
  Instant.last < createdAt.nanosAfter gate.ttl

/-- The remembered token has to be judged and has no end, or it has lapsed and the token that the
store brings has no end. -/
def Unjudgeable (gate : TokenGate) (now : Instant) (held : Option SessionToken)
    (loaded : Except StoreError (Option CachedToken)) : Prop :=
  (∃ token, held = some token ∧ Endless gate token.createdAt) ∨
    Lapsed now held ∧ ∃ cached, loaded = .ok (some cached) ∧ Endless gate cached.createdAt

section Steps

variable {d : Descriptor} {spans : List Span} {gate : TokenGate} {now : Instant}
  {held held' : Option SessionToken} {actions : List Action}

theorem endless_sessionOf_iff {cached : CachedToken} :
    Endless gate cached.createdAt ↔ (gate.sessionOf cached).expiresAt? = none :=
  (TokenGate.expiresAt?_eq_none_iff (gate.sessionOf_ttl cached)).symm

/-- A token that was judged has an end. -/
theorem not_endless_of_isValidAt? {token : SessionToken} {valid : Bool}
    (hlifetime : token.ttl = gate.ttl) (h : token.isValidAt? now = some valid) :
    ¬ Endless gate token.createdAt := by
  intro hendless
  have hexpires : token.expiresAt? = none := (TokenGate.expiresAt?_eq_none_iff hlifetime).2 hendless
  rw [SessionToken.isValidAt?_eq_none_iff.2 hexpires] at h
  cases h

theorem Lapsed.not_endless {token : SessionToken} (h : Lapsed now held)
    (hheld : held = some token) (hlifetime : token.ttl = gate.ttl) :
    ¬ Endless gate token.createdAt :=
  not_endless_of_isValidAt? hlifetime (h token hheld)

/-- The store is asked first of all. -/
theorem Consults.loaded_first {result : Except OutOfRange (Option SessionToken)}
    (h : Consults d spans gate now actions result) :
    ∃ outcome rest, actions = .loaded outcome :: rest := by
  cases h <;> exact ⟨_, _, rfl⟩

theorem Consults.error_iff {result : Except OutOfRange (Option SessionToken)}
    {outcome : Except StoreError (Option CachedToken)} {rest : List Action}
    (h : Consults d spans gate now (.loaded outcome :: rest) result) :
    result = .error .expiry ↔
      ∃ cached, outcome = .ok (some cached) ∧ Endless gate cached.createdAt := by
  cases h with
  | unreadable => simp
  | empty => simp
  | expired hexpires => simp [endless_sessionOf_iff, hexpires]
  | valid hexpires => simp [endless_sessionOf_iff, hexpires]
  | endless hendless => simp [endless_sessionOf_iff, hendless]

/-- Resolving a token fails exactly on a token without an end. -/
theorem Resolves.error_iff {result : Except OutOfRange (Option TokenSecret)}
    {loaded : Except StoreError (Option CachedToken)}
    (hlifetime : ∀ token, held = some token → token.ttl = gate.ttl)
    (h : Resolves d spans gate now held actions result held')
    (hload : ∀ outcome rest, actions = .loaded outcome :: rest → outcome = loaded) :
    result = .error .expiry ↔ Unjudgeable gate now held loaded := by
  -- When the remembered token has lapsed, all depends on what the store brings.
  have hconsulted : ∀ {first second : List Action}
      {found : Except OutOfRange (Option SessionToken)},
      actions = first ++ second → Lapsed now held → Consults d spans gate now first found →
        (found = .error .expiry ↔ Unjudgeable gate now held loaded) := by
    intro first second found hactions hlapsed hconsults
    obtain ⟨outcome, rest, rfl⟩ := hconsults.loaded_first
    cases hload outcome _ hactions
    rw [hconsults.error_iff]
    constructor
    · exact fun hstored => .inr ⟨hlapsed, hstored⟩
    · rintro (⟨token, hheld, hendless⟩ | ⟨-, hstored⟩)
      · exact absurd hendless (hlapsed.not_endless hheld (hlifetime token hheld))
      · exact hstored
  cases h with
  | @reused token hvalid =>
    have hended := not_endless_of_isValidAt? (hlifetime token rfl) hvalid
    simp [Unjudgeable, hended, lapsed_some_iff, hvalid]
  | @endless token hendless =>
    have hendless : Endless gate token.createdAt :=
      (TokenGate.expiresAt?_eq_none_iff (hlifetime token rfl)).1 hendless
    simp [Unjudgeable, hendless]
  | storedEndless hlapsed hconsults =>
    have hfailed := (hconsulted (List.append_nil _).symm hlapsed hconsults).1 rfl
    simp [hfailed]
  | adopted hlapsed hconsults =>
    rw [← hconsulted (List.append_nil _).symm hlapsed hconsults]
    simp
  | issued hlapsed hconsults hissues =>
    rw [← hconsulted rfl hlapsed hconsults]
    simp
  | refused hlapsed hconsults hissues =>
    rw [← hconsulted rfl hlapsed hconsults]
    simp

theorem map_eq_error_iff {α β : Type} {f : α → β} {result : Except OutOfRange α} :
    result.map f = .error .expiry ↔ result = .error .expiry := by
  cases result <;> simp [Except.map]

section Stores

variable {σ τ : Type} [TokenStore σ] [Transport τ] {s s' : σ} {t t' : τ}

/-- The first load after plain actions brings what the store holds. -/
theorem Backed.load_eq {rest : List Action} {outcome : Except StoreError (Option CachedToken)}
    (h : Backed s t actions s' t') (hencloses : Encloses actions (.loaded outcome :: rest)) :
    outcome = (TokenStore.load s).1 := by
  obtain ⟨first, last, rfl, hfirst, -⟩ := hencloses
  induction first generalizing t with
  | nil =>
    cases h with
    | loaded => rfl
  | cons action first ih =>
    obtain ⟨hplain, hrest⟩ := AllPlain.cons_iff.1 hfirst
    cases hplain with
    | noted event =>
      cases h with
      | noted h => exact ih h hrest
    | counted count =>
      cases h with
      | counted h => exact ih h hrest
    | asked hget answer =>
      cases h with
      | exchanged _ h => exact ih h hrest

/-- The answer to the first request is what the transport brings. -/
theorem Backed.answer_eq {target : Target} {request : Request} {answer : Answer}
    {rest : List Action} (h : Backed s t (exchange d spans target request answer ++ rest) s' t') :
    answer = (Transport.send request t).1 := by
  cases h with
  | noted h =>
    cases h with
    | counted h =>
      cases h with
      | exchanged => rfl

/-- The metadata behind a gate fails exactly when it is refused without a token and resolving one
fails. -/
theorem Unlocks.error_iff {result : Except OutOfRange (Option String)}
    (hlifetime : ∀ token, held = some token → token.ttl = gate.ttl)
    (h : Unlocks d spans gate now held actions result held') (hbacked : Backed s t actions s' t') :
    result = .error .expiry ↔
      Http.accepted? (Transport.send (d.getRequest d.endpoints.metadata) t).1 = none ∧
        Unjudgeable gate now held (TokenStore.load s).1 := by
  -- Once the metadata is refused, all depends on resolving a token.
  have hresolved : ∀ {answer : Answer} {resolved last : List Action}
      {found : Except OutOfRange (Option TokenSecret)},
      actions = refusedFirst d spans answer (resolved ++ last) → AllPlain last →
        Http.accepted? answer = none →
          Resolves d (spans ++ [tokenSpan d]) gate now held resolved found held' →
            (found = .error .expiry ↔
              Http.accepted? (Transport.send (d.getRequest d.endpoints.metadata) t).1 = none ∧
                Unjudgeable gate now held (TokenStore.load s).1) := by
    intro answer resolved last found hactions hlast hrefused hresolves
    subst hactions
    have hanswer := hbacked.answer_eq
    have hload : ∀ outcome rest, resolved = .loaded outcome :: rest →
        outcome = (TokenStore.load s).1 := by
      rintro outcome rest rfl
      exact hbacked.load_eq (encloses_refusedFirst hlast)
    rw [hresolves.error_iff hlifetime hload, ← hanswer]
    simp [hrefused]
  cases h with
  | @opened response haccepted =>
    have hanswer :
        Except.ok response = (Transport.send (d.getRequest d.endpoints.metadata) t).1 := by
      rw [← List.append_nil (exchange ..)] at hbacked
      exact hbacked.answer_eq
    rw [← hanswer, accepted?_of_isOk haccepted]
    simp
  | failed hrefused hresolves =>
    rw [← hresolved (by rw [List.append_nil]) .nil hrefused hresolves]
    simp
  | locked hrefused hresolves =>
    rw [← hresolved (by rw [List.append_nil]) .nil hrefused hresolves]
    simp
  | unlocked hrefused hresolves second =>
    rw [← hresolved rfl (by simp) hrefused hresolves]
    simp

/-- A call fails exactly when a token is resolved in it, and resolving that token fails. -/
theorem Performs.error_iff {call : Call} {result : Except OutOfRange Yield}
    (hlifetime : ∀ gate token, d.gate? = some gate → held = some token → token.ttl = gate.ttl)
    (h : Performs d now call held actions result held') (hbacked : Backed s t actions s' t') :
    result = .error .expiry ↔
      ∃ gate, d.gate? = some gate ∧
        (call = .token ∨ call = .metadata ∧
          Http.accepted? (Transport.send (d.getRequest d.endpoints.metadata) t).1 = none) ∧
        Unjudgeable gate now held (TokenStore.load s).1 := by
  cases h with
  | single hsingle => simp [Descriptor.gate?, FetchProtocol.gate?, hsingle]
  | bundled => simp
  | separate => simp
  | ungated hungated => simp [hungated]
  | @gated _ _ gate rest _ hgated hunlocks =>
    have hgate : d.gate? = some gate := Descriptor.gate?_eq_some_iff.2 hgated
    cases hbacked with
    | noted hbacked =>
      rw [map_eq_error_iff, hunlocks.error_iff (fun token => hlifetime gate token hgate) hbacked]
      simp [hgate]
  | @token _ _ gate _ found hgated hresolves =>
    have hload : ∀ outcome rest, actions = .loaded outcome :: rest →
        outcome = (TokenStore.load s).1 := by
      rintro outcome rest rfl
      exact hbacked.load_eq .refl
    rw [map_eq_error_iff, hresolves.error_iff (fun token => hlifetime gate token hgated) hload]
    simp [hgated]

end Stores

end Steps

/-! ## All visits -/

section Visits

variable {σ τ : Type} [TokenStore σ] [Transport τ]

/-- A visit fails exactly when a token has to be judged that has no end.  A token is resolved in a
visit for a token, and in one for the metadata whose first request the service does not accept. -/
theorem result_eq_error_iff (d : Descriptor) (store : σ) (transport : τ) (visits : List Visit)
    (v : Visit) :
    let world := visited d (World.start store transport) visits
    v.result d world = .error .expiry ↔
      ∃ gate, d.gate? = some gate ∧
        (v.call = .token ∨ v.call = .metadata ∧
          Http.accepted? (Transport.send (d.getRequest d.endpoints.metadata) world.transport).1 =
            none) ∧
        Unjudgeable gate v.now world.session (TokenStore.load world.store).1 := by
  intro world
  refine (v.performs d world).error_iff ?_ (v.backed d world)
  intro gate token hgate hheld
  exact (sourced_history hgate store transport visits token hheld).1

/-- A store in a file that records the last second of the year 9999. -/
def lastSecondStore : HostedStore where
  medium := .file { path := "t.json", process := 0 }
  files :=
    let content := "\x7b\"ctime\":\"253402300799\",\"token\":\"t\"\x7d"
    { FileSystem.start with
      entries := (["work", "t.json"], .file 0) :: FileSystem.start.entries
      files := [{ content := content.toUTF8.toList, mode := FileStore.ownerOnly }] }

/-- A file can be read whose token has no end, and a call for a token or for the metadata fails on
it. -/
theorem lastSecond_fails :
    let d := Descriptor.linkLocal
    let world : World HostedStore Script := World.start lastSecondStore ⟨[.ok ⟨401, ""⟩]⟩
    d.validate = .ok () ∧
      (∃ token, (TokenStore.load world.store).1.toOption = some (some token) ∧
        token.secret = ⟨"t"⟩) ∧
      Visit.result ⟨.minute 0, .token⟩ d world = .error .expiry ∧
      Visit.result ⟨.minute 0, .metadata⟩ d world = .error .expiry := by
  have hfails : ∀ {result : Except OutOfRange Yield}, result.toOption = none →
      result = .error .expiry := by
    intro result hnone
    cases result with
    | error e => rfl
    | ok yielded => cases hnone
  refine ⟨rfl, ⟨⟨⟨"t"⟩, ⟨253402300798999986176, by decide⟩⟩, by decide +kernel, rfl⟩, ?_, ?_⟩
  · exact hfails (by decide +kernel)
  · exact hfails (by decide +kernel)

end Visits

end InstanceIdentity.Collection
