import InstanceIdentity.Proofs.Collection.Exchanges
import InstanceIdentity.Proofs.Collection.StoreWrites

/-!
# The spacing of requests for tokens

A token is asked for only when the remembered one has lapsed, and so has the stored one.  Both tests
are made against one reading of the clock, the reading that is recorded with the token that is taken.
So whatever the store brings and wherever the clock goes, the remembered token is replaced only by a
later one, and the service, once it has issued a token, is left alone for the lifetime of that token.

Main results:

- Theorem `Performs.asks`: a call asks for at most one token, and only when it has to.
- Theorem `Performs.succeeded`: a call keeps the remembered token or takes a later one.
- Theorem `requests_spaced`: over all visits the remembered token only moves forward, and requests for
  tokens are a lifetime apart.
-/

namespace InstanceIdentity.Collection

open Http (Request Answer Response Transport Script)
open Diagnostics (Span)

/-! ## Requests for tokens -/

/-- What a request for a token brings: the body of the answer, if the service accepts the request. -/
def brought? : Request × Answer → Option (Option String)
  | (request, answer) => if request.method = .put then some (body? answer) else none

/-- What a request for a token brings, if the action is one. -/
def Action.asked? (action : Action) : Option (Option String) :=
  action.exchange?.bind brought?

/-- What a request for a token brings, with the reading of the clock at which it was sent. -/
def Deed.asked? (deed : Deed) : Option (Instant × Option String) :=
  deed.action.asked?.map (deed.now, ·)

/-- Two requests for tokens, of which the service accepts the first, are a lifetime apart. -/
def Spaced (ttl : Int) (earlier later : Instant × Option String) : Prop :=
  earlier.2.isSome → earlier.1.nanosAfter ttl ≤ later.1.nanos

section Steps

variable {d : Descriptor} {spans : List Span} {gate : TokenGate} {now : Instant}
  {held held' : Option SessionToken} {actions : List Action}

theorem Plain.asked?_eq_none {action : Action} (h : Plain action) : action.asked? = none := by
  cases h with
  | noted => rfl
  | counted => rfl
  | asked hget answer => simp [Action.asked?, Action.exchange?, brought?, hget]

theorem AllPlain.asked_eq_nil (h : AllPlain actions) : actions.filterMap Action.asked? = [] :=
  List.filterMap_eq_nil_iff.2 fun action hmem => (h action hmem).asked?_eq_none

theorem asked_eq_exchanges :
    actions.filterMap Action.asked? = (actions.filterMap Action.exchange?).filterMap brought? :=
  List.filterMap_filterMap.symm

theorem Consults.asked_eq_nil {result : Except OutOfRange (Option SessionToken)}
    (h : Consults d spans gate now actions result) : actions.filterMap Action.asked? = [] := by
  rw [asked_eq_exchanges, h.exchanges, List.filterMap_nil]

/-- What is known of a call in which a token is asked for. -/
structure Asks (gate : TokenGate) (now : Instant) (held : Option SessionToken)
    (actions : List Action) (held' : Option SessionToken) (brought : Option String) : Prop where
  lapsed : Lapsed now held
  /-- The store was consulted, and brought no token that is valid. -/
  consulted : ∃ outcome rest, Encloses actions (.loaded outcome :: rest) ∧
    ∀ cached, outcome = .ok (some cached) → (gate.sessionOf cached).isValidAt? now = some false
  /-- What the service issues is remembered from now on. -/
  kept : ∀ body, brought = some body → held' = some (gate.sessionOf ⟨⟨body⟩, now⟩)

theorem Issues.asked {found : Option SessionToken} (h : Issues d spans gate now actions found) :
    ∃ brought, actions.filterMap Action.asked? = [brought] ∧
      found = brought.map fun body => gate.sessionOf ⟨⟨body⟩, now⟩ := by
  obtain ⟨answer, hsent, hfound⟩ := h.exchanges
  refine ⟨body? answer, ?_, hfound⟩
  rw [asked_eq_exchanges, hsent]
  rfl

/-- The store was consulted before anything that follows. -/
theorem Consults.consulted (h : Consults d spans gate now actions (.ok none))
    (rest : List Action) :
    ∃ outcome more, actions ++ rest = .loaded outcome :: more ∧
      ∀ cached, outcome = .ok (some cached) →
        (gate.sessionOf cached).isValidAt? now = some false := by
  obtain ⟨outcome, more, rfl⟩ := h.loaded_first
  refine ⟨outcome, more ++ rest, rfl, ?_⟩
  rintro cached rfl
  exact h.ended List.mem_cons_self

theorem Asks.of_issues {first second : List Action} {found : Option SessionToken}
    (hlapsed : Lapsed now held) (hconsults : Consults d spans gate now first (.ok none))
    (hissues : Issues d spans gate now second found)
    (hkept : ∀ token, found = some token → held' = some token) :
    ∃ brought, (first ++ second).filterMap Action.asked? = [brought] ∧
      Asks gate now held (first ++ second) held' brought := by
  obtain ⟨brought, hasked, rfl⟩ := hissues.asked
  obtain ⟨outcome, more, hactions, hended⟩ := hconsults.consulted second
  refine ⟨brought, ?_, hlapsed, ⟨outcome, more, hactions ▸ .refl, hended⟩, ?_⟩
  · rw [List.filterMap_append, hconsults.asked_eq_nil, hasked, List.nil_append]
  · rintro body rfl
    exact hkept _ rfl

theorem Asks.enclosed {more : List Action} {brought : Option String}
    (h : Asks gate now held actions held' brought) (hencloses : Encloses more actions) :
    Asks gate now held more held' brought where
  lapsed := h.lapsed
  consulted := by
    obtain ⟨outcome, rest, hloaded, hended⟩ := h.consulted
    exact ⟨outcome, rest, hencloses.trans hloaded, hended⟩
  kept := h.kept

/-- While a token is resolved at most one is asked for. -/
theorem Resolves.asks {result : Except OutOfRange (Option TokenSecret)}
    (h : Resolves d spans gate now held actions result held') :
    actions.filterMap Action.asked? = [] ∨
      ∃ brought, actions.filterMap Action.asked? = [brought] ∧
        Asks gate now held actions held' brought := by
  cases h with
  | reused => exact .inl rfl
  | endless => exact .inl rfl
  | storedEndless _ hconsults => exact .inl hconsults.asked_eq_nil
  | adopted _ hconsults => exact .inl hconsults.asked_eq_nil
  | issued hlapsed hconsults hissues => exact .inr (Asks.of_issues hlapsed hconsults hissues fun _ => id)
  | refused hlapsed hconsults hissues =>
    refine .inr (Asks.of_issues hlapsed hconsults hissues ?_)
    intro token hnone
    cases hnone

/-- A call asks for at most one token, and only when it has to. -/
theorem Performs.asks {call : Call} {result : Except OutOfRange Yield}
    (h : Performs d now call held actions result held') :
    actions.filterMap Action.asked? = [] ∨
      ∃ gate brought, d.gate? = some gate ∧ actions.filterMap Action.asked? = [brought] ∧
        Asks gate now held actions held' brought := by
  rcases h.resolution with ⟨-, hplain⟩ | ⟨gate, spans, resolved, found, hgate, hencloses, hresolves⟩
  · exact .inl hplain.asked_eq_nil
  · rw [hencloses.filterMap_eq fun _ => Plain.asked?_eq_none]
    rcases hresolves.asks with hnone | ⟨brought, hasked, hasks⟩
    · exact .inl hnone
    · exact .inr ⟨gate, brought, hgate, hasked, hasks.enclosed hencloses⟩

/-! ## The remembered token moves forward -/

/-- The remembered token has the lifetime of the gate. -/
def Lives (gate : TokenGate) (held : Option SessionToken) : Prop :=
  ∀ token, held = some token → token.ttl = gate.ttl

theorem Performs.lives {call : Call} {result : Except OutOfRange Yield}
    (hgate : d.gate? = some gate) (h : Performs d now call held actions result held')
    (hlives : Lives gate held) : Lives gate held' := by
  rcases h.taken with rfl | ⟨other, token, hother, rfl, htaken⟩
  · exact hlives
  · cases hgate.symm.trans hother
    intro other hother
    cases hother
    exact htaken.lifetime

/-- The end of a life that is over lies in the past. -/
theorem Lapsed.nanosAfter_le {token : SessionToken} (h : Lapsed now held)
    (hheld : held = some token) (hlifetime : token.ttl = gate.ttl) :
    token.createdAt.nanosAfter gate.ttl ≤ now.nanos := by
  rw [← hlifetime]
  exact (SessionToken.isValidAt?_eq_some_false_iff.1 (h token hheld)).2

/-- A token is kept, or makes room for one that was created later. -/
def Succeeded (old new : SessionToken) : Prop :=
  new = old ∨ old.createdAt.nanos < new.createdAt.nanos

theorem Succeeded.trans {first second third : SessionToken} (h : Succeeded first second)
    (hnext : Succeeded second third) : Succeeded first third := by
  rcases h with rfl | hlater
  · exact hnext
  · rcases hnext with rfl | hlast
    · exact .inr hlater
    · exact .inr (Int.lt_trans hlater hlast)

theorem Succeeded.le {old new : SessionToken} (h : Succeeded old new) :
    old.createdAt.nanos ≤ new.createdAt.nanos := by
  rcases h with rfl | hlater
  · exact Int.le_refl _
  · exact Int.le_of_lt hlater

/-- A token that is resolved is remembered already, or takes the place of one that has lapsed. -/
theorem Resolves.lapsed_or_kept {result : Except OutOfRange (Option TokenSecret)}
    (h : Resolves d spans gate now held actions result held') : Lapsed now held ∨ held' = held := by
  cases h with
  | reused => exact .inr rfl
  | endless => exact .inr rfl
  | storedEndless hlapsed => exact .inl hlapsed
  | adopted hlapsed => exact .inl hlapsed
  | issued hlapsed => exact .inl hlapsed
  | refused hlapsed => exact .inl hlapsed

theorem Performs.lapsed_or_kept {call : Call} {result : Except OutOfRange Yield}
    (h : Performs d now call held actions result held') : Lapsed now held ∨ held' = held := by
  rcases h.resolution with ⟨hsame, -⟩ | ⟨gate, spans, resolved, found, -, -, hresolves⟩
  · exact .inr hsame
  · exact hresolves.lapsed_or_kept

/-- A call keeps the remembered token or takes a later one. -/
theorem Performs.succeeded {call : Call} {result : Except OutOfRange Yield} {old : SessionToken}
    (hgate : d.gate? = some gate) (hpos : 0 < gate.ttl) (hlifetime : old.ttl = gate.ttl)
    (h : Performs d now call (some old) actions result held') :
    ∃ new, held' = some new ∧ Succeeded old new := by
  rcases h.lapsed_or_kept with hlapsed | hsame
  · rcases h.taken with hsame | ⟨other, new, hother, hheld, htaken⟩
    · exact ⟨old, hsame, .inl rfl⟩
    · cases hgate.symm.trans hother
      refine ⟨new, hheld, .inr ?_⟩
      -- The old token has lapsed at the very reading at which the new one is valid.
      have hold : old.createdAt.nanosAfter gate.ttl ≤ now.nanos := hlapsed.nanosAfter_le rfl hlifetime
      have hnew : now.nanos < new.createdAt.nanosAfter gate.ttl := htaken.valid hpos
      unfold Instant.nanosAfter at hold hnew
      omega
  · exact ⟨old, hsame, .inl rfl⟩

/-! ## One visit after the other -/

/-- Requests for tokens have been spaced so far, and the remembered token was created no earlier than
the last one that the service issued. -/
structure Orderly (gate : TokenGate) (past : List Deed) (held : Option SessionToken) : Prop where
  lives : Lives gate held
  spaced : (past.filterMap Deed.asked?).Pairwise (Spaced gate.ttl)
  remembered : ∀ asked ∈ past.filterMap Deed.asked?, asked.2.isSome →
    ∃ token, held = some token ∧ asked.1.nanos ≤ token.createdAt.nanos

theorem asked_deeds :
    (actions.map (Deed.mk now)).filterMap Deed.asked? =
      (actions.filterMap Action.asked?).map (now, ·) := by
  rw [List.filterMap_map, List.map_filterMap]
  rfl

/-- A call keeps requests for tokens spaced. -/
theorem Performs.orderly {past : List Deed} {call : Call} {result : Except OutOfRange Yield}
    (hgate : d.gate? = some gate) (hpos : 0 < gate.ttl)
    (h : Performs d now call held actions result held') (horderly : Orderly gate past held) :
    Orderly gate (past ++ actions.map (Deed.mk now)) held' := by
  have hlives := h.lives hgate horderly.lives
  have hremembered : ∀ asked ∈ past.filterMap Deed.asked?, asked.2.isSome →
      ∃ token, held' = some token ∧ asked.1.nanos ≤ token.createdAt.nanos := by
    intro asked hasked hissued
    obtain ⟨old, rfl, hold⟩ := horderly.remembered asked hasked hissued
    obtain ⟨new, hnew, hsucceeded⟩ := h.succeeded hgate hpos (horderly.lives old rfl)
    exact ⟨new, hnew, Int.le_trans hold hsucceeded.le⟩
  rcases h.asks with hnone | ⟨other, brought, hother, hone, hasks⟩
  · have hall : (past ++ actions.map (Deed.mk now)).filterMap Deed.asked? =
        past.filterMap Deed.asked? := by
      rw [List.filterMap_append, asked_deeds, hnone, List.map_nil, List.append_nil]
    exact ⟨hlives, hall ▸ horderly.spaced, hall ▸ hremembered⟩
  · cases hgate.symm.trans hother
    have hall : (past ++ actions.map (Deed.mk now)).filterMap Deed.asked? =
        past.filterMap Deed.asked? ++ [(now, brought)] := by
      rw [List.filterMap_append, asked_deeds, hone, List.map_singleton]
    refine ⟨hlives, ?_, ?_⟩
    · rw [hall, List.pairwise_append]
      refine ⟨horderly.spaced, List.pairwise_singleton _ _, ?_⟩
      intro asked hasked last hlast hissued
      cases List.mem_singleton.1 hlast
      -- The token that was remembered since then has lapsed by now.
      obtain ⟨old, hheld, hold⟩ := horderly.remembered asked hasked hissued
      have hended := hasks.lapsed.nanosAfter_le hheld (horderly.lives old hheld)
      exact Int.le_trans (Instant.nanosAfter_mono hold) hended
    · rw [hall]
      intro asked hasked hissued
      rcases List.mem_append.1 hasked with hpast | hlast
      · exact hremembered asked hpast hissued
      · cases List.mem_singleton.1 hlast
        obtain ⟨body, hbody⟩ := Option.isSome_iff_exists.1 hissued
        exact ⟨_, hasks.kept body hbody, Int.le_refl _⟩

end Steps

/-! ## All visits -/

section Visits

variable {σ τ : Type} [TokenStore σ] [Transport τ] {d : Descriptor} {gate : TokenGate}

theorem orderly_history (hgate : d.gate? = some gate) (hpos : 0 < gate.ttl) (store : σ)
    (transport : τ) (visits : List Visit) :
    Orderly gate (history d (World.start store transport) visits)
      (visited d (World.start store transport) visits).session := by
  refine history_induction d (I := fun past world => Orderly gate past world.session) ?_ ?_ visits
  · exact ⟨by simp [Lives, World.start], .nil, by simp⟩
  · intro past world v horderly
    exact (v.performs d world).orderly hgate hpos horderly

/-- Over visits the remembered token is kept or makes room for a later one. -/
theorem visited_succeeded (hgate : d.gate? = some gate) (hpos : 0 < gate.ttl) {world : World σ τ}
    (hlives : Lives gate world.session) {old : SessionToken} (hheld : world.session = some old)
    (visits : List Visit) :
    ∃ new, (visited d world visits).session = some new ∧ Succeeded old new := by
  induction visits generalizing world old with
  | nil => exact ⟨old, hheld, .inl rfl⟩
  | cons v visits ih =>
    have hperforms := v.performs d world
    have hnextLives := hperforms.lives hgate hlives
    rw [hheld] at hperforms
    obtain ⟨next, hnext, hsucceeded⟩ := hperforms.succeeded hgate hpos (hlives old hheld)
    obtain ⟨new, hnew, hlast⟩ := ih hnextLives hnext
    exact ⟨new, hnew, hsucceeded.trans hlast⟩

/-- The remembered token only moves forward: whatever visits follow on others, the token that was
remembered before them is remembered still, or another one that was created later.  And requests for
tokens are spaced: once the service has accepted one, every later one is sent a lifetime after it. -/
theorem requests_spaced (hvalid : d.validate = .ok ()) (hgate : d.gate? = some gate) (store : σ)
    (transport : τ) (visits : List Visit) :
    (∀ earlier later old, visits = earlier ++ later →
      (visited d (World.start store transport) earlier).session = some old →
      ∃ new, (visited d (World.start store transport) visits).session = some new ∧
        (new = old ∨ old.createdAt.nanos < new.createdAt.nanos)) ∧
    ((history d (World.start store transport) visits).filterMap Deed.asked?).Pairwise
      (Spaced gate.ttl) := by
  have hpos := Descriptor.ttl_pos hvalid hgate
  refine ⟨?_, (orderly_history hgate hpos store transport visits).spaced⟩
  rintro earlier later old rfl hheld
  have hlives := (orderly_history hgate hpos store transport earlier).lives
  obtain ⟨new, hnew, hsucceeded⟩ := visited_succeeded hgate hpos hlives hheld later
  refine ⟨new, ?_, hsucceeded⟩
  rw [← hnew, visited, visited, visited, List.foldl_append]

/-- A stored token is remembered and lapses, another is issued in the ninth minute, and the clock is
turned back before a third one is asked for: a lifetime after the ninth minute. -/
theorem requests_spaced_turned_back :
    let d := Descriptor.linkLocal
    let gate := Descriptor.linkLocalGate
    let start : World MemoryStore Script := World.start ⟨some ⟨⟨"stored"⟩, .minute 0⟩⟩
      ⟨[.ok ⟨200, "second"⟩, .ok ⟨200, "third"⟩]⟩
    let visits : List Visit :=
      [⟨.minute 1, .token⟩, ⟨.minute 8, .token⟩, ⟨.minute 2, .token⟩, ⟨.minute 14, .token⟩]
    d.validate = .ok () ∧ d.gate? = some gate ∧
      (history d start visits).filterMap Deed.asked? =
        [(.minute 8, some "second"), (.minute 14, some "third")] ∧
      (Instant.minute 8).nanosAfter gate.ttl ≤ (Instant.minute 14).nanos := by
  intro d gate start visits
  have hasked : (history d start visits).filterMap Deed.asked? =
      [(.minute 8, some "second"), (.minute 14, some "third")] := by
    decide +kernel
  have hgate := Descriptor.linkLocal_gate?
  have hspaced : ((history d start visits).filterMap Deed.asked?).Pairwise (Spaced gate.ttl) :=
    (requests_spaced Descriptor.linkLocal_validate hgate _ _ visits).2
  rw [hasked] at hspaced
  have hlifetime : Spaced gate.ttl (.minute 8, some "second") (.minute 14, some "third") :=
    (List.pairwise_cons.1 hspaced).1 _ List.mem_cons_self
  exact ⟨rfl, rfl, hasked, hlifetime rfl⟩

end Visits

end InstanceIdentity.Collection
