import InstanceIdentity.Proofs.Collection.History
import InstanceIdentity.Proofs.Collection.Plain

/-!
# What is written to the store

The store is written to only when the service has issued a token, and then with what it issued.  So
a stored token that somebody else has put there never comes back to the store under a later time.

Main results:

- Theorem `Resolves.booked`: while a token is resolved what is saved is what is issued.
- Theorem `saved_eq_issued`: over all visits the tokens that are saved are the tokens that are issued.
-/

namespace InstanceIdentity.Collection

open Http (Request Answer Response Transport Script)
open Diagnostics (Span)

/-! ## Saved and issued tokens -/

/-- The token that an action saves. -/
def Action.saved? : Action → Option CachedToken
  | .saved token _ => some token
  | _ => none

/-- The token that the service issues in an action at a reading of the clock: the body of a
successful answer to a PUT. -/
def Action.issued? (now : Instant) : Action → Option CachedToken
  | .exchanged request answer =>
    if request.method = .put then (body? answer).map fun body => ⟨⟨body⟩, now⟩ else none
  | _ => none

/-- The token that is saved by what was done. -/
def Deed.saved? (deed : Deed) : Option CachedToken := deed.action.saved?

/-- The token that is issued by what was done. -/
def Deed.issued? (deed : Deed) : Option CachedToken := deed.action.issued? deed.now

/-- In actions at a reading of the clock, the service issues these tokens, and these are saved. -/
structure Booked (now : Instant) (actions : List Action) (tokens : List CachedToken) : Prop where
  saved : actions.filterMap Action.saved? = tokens
  issued : actions.filterMap (Action.issued? now) = tokens

section Steps

variable {d : Descriptor} {spans : List Span} {gate : TokenGate} {now : Instant}
  {held held' : Option SessionToken} {actions : List Action}

theorem Plain.saved?_eq_none {action : Action} (h : Plain action) : action.saved? = none := by
  cases h <;> rfl

theorem Plain.issued?_eq_none {action : Action} (h : Plain action) :
    action.issued? now = none := by
  cases h with
  | noted => rfl
  | counted => rfl
  | asked hget answer => simp [Action.issued?, hget]

namespace Booked

theorem append {first second : List Action} {tokens more : List CachedToken}
    (hfirst : Booked now first tokens) (hsecond : Booked now second more) :
    Booked now (first ++ second) (tokens ++ more) where
  saved := by rw [List.filterMap_append, hfirst.saved, hsecond.saved]
  issued := by rw [List.filterMap_append, hfirst.issued, hsecond.issued]

theorem plain (h : AllPlain actions) : Booked now actions [] where
  saved := List.filterMap_eq_nil_iff.2 fun action hmem => (h action hmem).saved?_eq_none
  issued := List.filterMap_eq_nil_iff.2 fun action hmem => (h action hmem).issued?_eq_none

/-- Plain actions around others change nothing. -/
theorem enclosed {inner : List Action} {tokens : List CachedToken} (h : Booked now inner tokens)
    (hencloses : Encloses actions inner) : Booked now actions tokens where
  saved := (hencloses.filterMap_eq fun _ => Plain.saved?_eq_none).trans h.saved
  issued := (hencloses.filterMap_eq fun _ => Plain.issued?_eq_none).trans h.issued

end Booked

/-- Looking for a token in the store neither issues nor saves one. -/
theorem Consults.booked {result : Except OutOfRange (Option SessionToken)}
    (h : Consults d spans gate now actions result) : Booked now actions [] := by
  cases h <;> exact ⟨rfl, rfl⟩

theorem saved_exchange {target : Target} {request : Request} {answer : Answer} :
    (exchange d spans target request answer).filterMap Action.saved? = [] :=
  rfl

/-- A PUT issues the token that it brings. -/
theorem issued_exchange {target : Target} {request : Request} {answer : Answer}
    (hput : request.method = .put) :
    (exchange d spans target request answer).filterMap (Action.issued? now) =
      ((body? answer).map fun body => ⟨⟨body⟩, now⟩).toList := by
  cases hbody : body? answer <;> simp [exchange, List.filterMap_cons, Action.issued?, hput, hbody]

theorem saved_saving {token : CachedToken} {outcome : Except StoreError Unit} :
    (saving d spans token outcome).filterMap Action.saved? = [token] := by
  cases outcome <;> rfl

theorem issued_saving {token : CachedToken} {outcome : Except StoreError Unit} :
    (saving d spans token outcome).filterMap (Action.issued? now) = [] := by
  cases outcome <;> rfl

/-- A request for a token saves the token that it brings. -/
theorem Issues.booked {found : Option SessionToken} (h : Issues d spans gate now actions found) :
    Booked now actions (found.toList.map fun token => ⟨token.secret, token.createdAt⟩) := by
  cases h with
  | @issued response haccepted outcome =>
    have hbody : body? (.ok response) = some response.body := by
      simp [body?, accepted?_of_isOk haccepted]
    constructor
    · rw [List.filterMap_append, saved_exchange, saved_saving]
      rfl
    · rw [List.filterMap_append, issued_exchange rfl, issued_saving, hbody]
      rfl
  | @refused answer hrefused =>
    have hbody : body? answer = none := by
      simp [body?, hrefused]
    constructor
    · rw [List.filterMap_append, saved_exchange]
      rfl
    · rw [List.filterMap_append, issued_exchange rfl, hbody]
      rfl

theorem Consults.ended {cached : CachedToken} (h : Consults d spans gate now actions (.ok none))
    (hmem : .loaded (.ok (some cached)) ∈ actions) :
    (gate.sessionOf cached).isValidAt? now = some false := by
  cases h with
  | unreadable => simp at hmem
  | empty => simp at hmem
  | expired hexpires hended =>
    simp only [List.mem_cons, Action.loaded.injEq, Except.ok.injEq, Option.some.injEq, reduceCtorEq,
      List.not_mem_nil, or_self, or_false] at hmem
    rw [hmem]
    exact hended

theorem Issues.not_loaded {found : Option SessionToken} (h : Issues d spans gate now actions found)
    {outcome : Except StoreError (Option CachedToken)} : .loaded outcome ∉ actions := by
  cases h with
  | issued haccepted outcome => cases outcome <;> simp [exchange, saving]
  | refused => simp [exchange]

/-- A token that the gate would still find valid is neither remembered nor among what was loaded. -/
structure Needed (d : Descriptor) (now : Instant) (held : Option SessionToken)
    (actions : List Action) : Prop where
  lapsed : Lapsed now held
  ended : ∀ gate cached, d.gate? = some gate → .loaded (.ok (some cached)) ∈ actions →
    (gate.sessionOf cached).isValidAt? now = some false

/-- While a token is resolved what is saved is what is issued, and that is nothing unless a token is
needed. -/
theorem Resolves.booked {result : Except OutOfRange (Option TokenSecret)}
    (hgate : d.gate? = some gate) (h : Resolves d spans gate now held actions result held') :
    Booked now actions [] ∨ Needed d now held actions ∧ ∃ token, Booked now actions [token] := by
  cases h with
  | reused => exact .inl ⟨rfl, rfl⟩
  | endless => exact .inl ⟨rfl, rfl⟩
  | storedEndless _ hconsults => exact .inl hconsults.booked
  | adopted _ hconsults => exact .inl hconsults.booked
  | refused _ hconsults hissues => exact .inl (hconsults.booked.append hissues.booked)
  | issued hlapsed hconsults hissues =>
    refine .inr ⟨⟨hlapsed, ?_⟩, _, hconsults.booked.append hissues.booked⟩
    intro other cached hother hmem
    cases hgate.symm.trans hother
    exact hconsults.ended ((List.mem_append.1 hmem).resolve_right hissues.not_loaded)

/-- Where no token is found, none is saved, and the remembered one stays. -/
theorem Resolves.not_found (h : Resolves d spans gate now held actions (.ok none) held') :
    held' = held ∧ Booked now actions [] := by
  cases h with
  | refused _ hconsults hissues => exact ⟨rfl, hconsults.booked.append hissues.booked⟩

/-- In a call what is saved is what is issued, and that is nothing unless a token is needed. -/
theorem Performs.booked {call : Call} {result : Except OutOfRange Yield}
    (h : Performs d now call held actions result held') :
    Booked now actions [] ∨ Needed d now held actions ∧ ∃ token, Booked now actions [token] := by
  rcases h.resolution with ⟨-, hplain⟩ | ⟨gate, spans, resolved, found, hgate, hencloses, hresolves⟩
  · exact .inl (.plain hplain)
  · rcases hresolves.booked hgate with hnone | ⟨hneeded, token, hbooked⟩
    · exact .inl (hnone.enclosed hencloses)
    · refine .inr ⟨⟨hneeded.lapsed, ?_⟩, token, hbooked.enclosed hencloses⟩
      intro gate cached hgate hmem
      exact hneeded.ended gate cached hgate (hencloses.mem_inner hmem Plain.not_loaded)

/-- Where a call for a token brings none, none is saved, and the remembered one stays. -/
theorem Performs.not_found {call : Call}
    (h : Performs d now call held actions (.ok (.secret none)) held') :
    held' = held ∧ Booked now actions [] := by
  rcases h.secret with ⟨-, rfl, hsame⟩ | ⟨gate, -, hresolves⟩
  · exact ⟨hsame, .plain .nil⟩
  · exact hresolves.not_found

end Steps

/-! ## All visits -/

section Visits

variable {σ τ : Type} [TokenStore σ] [Transport τ] (d : Descriptor)

/-- The deeds of a visit save and issue what its actions do. -/
theorem Booked.deeds {d : Descriptor} {v : Visit} {world : World σ τ} {tokens : List CachedToken}
    (h : Booked v.now (v.actions d world) tokens) :
    (v.deeds d world).filterMap Deed.saved? = tokens ∧
      (v.deeds d world).filterMap Deed.issued? = tokens := by
  unfold Visit.deeds
  rw [List.filterMap_map, List.filterMap_map]
  exact ⟨h.saved, h.issued⟩

/-- In a visit what is saved is what is issued. -/
theorem Visit.saved_issued (v : Visit) (world : World σ τ) :
    (v.deeds d world).filterMap Deed.saved? = (v.deeds d world).filterMap Deed.issued? := by
  rcases (v.performs d world).booked with hnone | ⟨-, token, hone⟩
  · exact hnone.deeds.1.trans hnone.deeds.2.symm
  · exact hone.deeds.1.trans hone.deeds.2.symm

/-- Nothing is saved in a visit in which no token is needed. -/
theorem Visit.saved_of_not_needed {d : Descriptor} {v : Visit} {world : World σ τ}
    (h : ¬ Needed d v.now world.session (v.actions d world)) :
    (v.deeds d world).filterMap Deed.saved? = [] := by
  rcases (v.performs d world).booked with hnone | ⟨hneeded, -⟩
  · exact hnone.deeds.1
  · exact absurd hneeded h

/-- Only what the service issues is saved.  Over all visits the tokens that are saved are the tokens
that are issued, in their order.  Nothing is saved in a visit in which the remembered token is
valid, or the stored one that is loaded; and where no token is found, none is saved and the
remembered one stays, in a visit for a token and in any other. -/
theorem saved_eq_issued (world : World σ τ) :
    (∀ visits, (history d world visits).filterMap Deed.saved? =
      (history d world visits).filterMap Deed.issued?) ∧
    (∀ (v : Visit) token, world.session = some token → token.isValidAt? v.now = some true →
      (v.deeds d world).filterMap Deed.saved? = []) ∧
    (∀ (v : Visit) gate cached, d.gate? = some gate →
      .loaded (.ok (some cached)) ∈ v.actions d world →
      (gate.sessionOf cached).isValidAt? v.now = some true →
      (v.deeds d world).filterMap Deed.saved? = []) ∧
    (∀ v : Visit, v.result d world = .ok (.secret none) →
      (v.deeds d world).filterMap Deed.saved? = [] ∧ (v.after d world).session = world.session) ∧
    (∀ spans gate now, ((resolveToken d spans gate now).exec world).1 = .ok none →
      ∃ actions, ((resolveToken d spans gate now).exec world).2.log = world.log ++ actions ∧
        actions.filterMap Action.saved? = [] ∧
        ((resolveToken d spans gate now).exec world).2.session = world.session) := by
  refine ⟨?_, ?_, ?_, ?_, ?_⟩
  · intro visits
    refine history_induction d (I := fun past _ =>
      past.filterMap Deed.saved? = past.filterMap Deed.issued?) rfl ?_ visits
    intro past world v hpast
    rw [List.filterMap_append, List.filterMap_append, hpast, v.saved_issued d world]
  · intro v token hheld hvalid
    apply Visit.saved_of_not_needed
    intro hneeded
    have hended := hneeded.lapsed token hheld
    rw [hvalid] at hended
    cases hended
  · intro v gate cached hgate hloaded hvalid
    apply Visit.saved_of_not_needed
    intro hneeded
    have hended := hneeded.ended gate cached hgate hloaded
    rw [hvalid] at hended
    cases hended
  · intro v hresult
    have hperforms := v.performs d world
    rw [hresult] at hperforms
    obtain ⟨hsame, hnone⟩ := hperforms.not_found
    exact ⟨hnone.deeds.1, hsame⟩
  · intro spans gate now hresult
    obtain ⟨actions, result, after, htrace, hresolves⟩ := resolveToken_obeys d spans gate now world
    rw [htrace.exec_eq] at hresult ⊢
    cases hresult
    obtain ⟨hsame, hnone⟩ := hresolves.not_found
    exact ⟨actions, htrace.log_eq, hnone.saved, hsame⟩

/-- A stored token is adopted, then found expired while the service refuses another one, and at last
replaced by one that is issued.  That one alone is saved. -/
theorem saved_eq_issued_expired :
    let d := Descriptor.linkLocal
    let world : World MemoryStore Script :=
      World.start ⟨some ⟨⟨"stored"⟩, .minute 0⟩⟩ ⟨[.ok ⟨503, ""⟩, .ok ⟨200, "issued"⟩]⟩
    let visits : List Visit := [⟨.minute 1, .token⟩, ⟨.minute 7, .token⟩, ⟨.minute 8, .token⟩]
    (history d world visits).filterMap Deed.issued? = [⟨⟨"issued"⟩, .minute 8⟩] ∧
      (history d world visits).filterMap Deed.saved? = [⟨⟨"issued"⟩, .minute 8⟩] := by
  refine ⟨rfl, ?_⟩
  exact ((saved_eq_issued _ _).1 _).trans rfl

end Visits

end InstanceIdentity.Collection
