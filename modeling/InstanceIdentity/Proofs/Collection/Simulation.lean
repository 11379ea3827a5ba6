import InstanceIdentity.Proofs.Collection.Pairing
import InstanceIdentity.Proofs.Collection.StoreFailures
import InstanceIdentity.Proofs.Collection.StoreWrites

/-!
# One store in the place of another

A relation between the states of two stores simulates one store by the other when related stores are
loaded with the same outcome and stay related, and saved to with the same outcome and stay related as
long as the saves are sound.  Then collectors over related stores do the same in all respects, as long
as all that they save is sound.  This is a condition on what was done in the end, which is enough, for
a log only grows.

Main results:

- Theorem `perform_simulated`: a call over a store is simulated by the same call over a related one.
- Theorem `visited_tracks`: so are visits.
- Theorem `lives_eq`: so are collectors one after the other.
-/

namespace InstanceIdentity.Collection

open Http (Request Answer Transport)
open Diagnostics (Note Span Outcome)

/-! ## Related stores -/

section Simulation

variable {σ σ' τ α β : Type}

/-- A relation between the states of two stores that are loaded and, as long as saves are sound, saved to
with the same outcomes. -/
structure Simulation [TokenStore σ] [TokenStore σ']
    (sound : CachedToken → Except StoreError Unit → Prop) (R : σ → σ' → Prop) : Prop where
  load : ∀ {s s'}, R s s' → (TokenStore.load s).1 = (TokenStore.load s').1 ∧
    R (TokenStore.load s).2 (TokenStore.load s').2
  save : ∀ {s s'} token, R s s' → sound token (TokenStore.save token s).1 →
    (TokenStore.save token s).1 = (TokenStore.save token s').1 ∧
      R (TokenStore.save token s).2 (TokenStore.save token s').2

/-- All saves in a list of actions are sound. -/
def AllSound (sound : CachedToken → Except StoreError Unit → Prop) (actions : List Action) : Prop :=
  ∀ token outcome, .saved token outcome ∈ actions → sound token outcome

/-- The stores of two worlds are related, and all else is the same. -/
structure Tracks (R : σ → σ' → Prop) (world : World σ τ) (world' : World σ' τ) : Prop where
  stores : R world.store world'.store
  transport : world'.transport = world.transport
  session : world'.session = world.session
  log : world'.log = world.log

variable {sound : CachedToken → Except StoreError Unit → Prop} {R : σ → σ' → Prop}

theorem Tracks.record {world : World σ τ} {world' : World σ' τ} (h : Tracks R world world')
    (action : Action) : Tracks R (world.record action) (world'.record action) :=
  { h with log := by rw [World.record, World.record, h.log] }

/-- Work over one store brings the same as work over a related one, as long as its saves are sound. -/
structure Simulated (sound : CachedToken → Except StoreError Unit → Prop) (R : σ → σ' → Prop)
    (work : Work σ τ α) (work' : Work σ' τ α) : Prop where
  grows : Grows work
  tracks : ∀ {world : World σ τ} {world' : World σ' τ}, Tracks R world world' →
    AllSound sound (work.exec world).2.log →
      (work.exec world).1 = (work'.exec world').1 ∧ Tracks R (work.exec world).2 (work'.exec world').2

namespace Simulated

variable {work : Work σ τ α} {work' : Work σ' τ α} {next : α → Work σ τ β} {next' : α → Work σ' τ β}

theorem pure (a : α) :
    Simulated sound R (Pure.pure a : Work σ τ α) (Pure.pure a : Work σ' τ α) where
  grows _ := List.prefix_refl _
  tracks htracks _ := ⟨rfl, htracks⟩

theorem bind (hwork : Simulated sound R work work')
    (hnext : ∀ a, Simulated sound R (next a) (next' a)) :
    Simulated sound R (work >>= next) (work' >>= next') where
  grows := hwork.grows.bind fun a => (hnext a).grows
  tracks := by
    intro world world' htracks hsound
    -- What is sound in the end is so in the middle, whose log begins the last one.
    have hmiddle := Grows.middle work (fun a => (hnext a).grows) world
    obtain ⟨hresult, hafter⟩ := hwork.tracks htracks fun token outcome hsaved =>
      hsound token outcome (hmiddle.subset hsaved)
    rcases hexec : work.exec world with ⟨result, after⟩
    rcases hexec' : work'.exec world' with ⟨result', after'⟩
    rw [hexec, hexec'] at hresult hafter
    cases hresult
    cases result with
    | error e =>
      rw [Work.exec_bind_error hexec, Work.exec_bind_error hexec']
      exact ⟨rfl, hafter⟩
    | ok a =>
      rw [Work.exec_bind_ok hexec, Work.exec_bind_ok hexec'] at *
      exact (hnext a).tracks hafter hsound

/-! The single steps of work. -/

/-- What follows may depend on the remembered token, which is the same in both worlds. -/
theorem get [Nonempty σ'] {next : World σ τ → Work σ τ β} {next' : World σ' τ → Work σ' τ β}
    (hnext : ∀ world world', world'.session = world.session →
      Simulated sound R (next world) (next' world')) :
    Simulated sound R (MonadState.get >>= next) (MonadState.get >>= next') where
  grows world := by
    obtain ⟨store⟩ := ‹Nonempty σ'›
    exact (hnext world { world with store } rfl).grows world
  tracks htracks := (hnext _ _ htracks.session).tracks htracks

theorem note (spans : List Span) (note : Note) :
    Simulated sound R (Work.note spans note : Work σ τ Unit)
      (Work.note spans note : Work σ' τ Unit) where
  grows _ := List.prefix_append _ _
  tracks htracks _ := ⟨rfl, htracks.record _⟩

theorem count (provider : ProviderId) (target : Target) (outcome : Outcome) :
    Simulated sound R (Work.count provider target outcome : Work σ τ Unit)
      (Work.count provider target outcome : Work σ' τ Unit) where
  grows _ := List.prefix_append _ _
  tracks htracks _ := ⟨rfl, htracks.record _⟩

theorem remember (token : SessionToken) :
    Simulated sound R (Work.remember token : Work σ τ Unit) (Work.remember token : Work σ' τ Unit) where
  grows _ := List.prefix_refl _
  tracks htracks _ := ⟨rfl, { htracks with session := rfl }⟩

theorem expiry (token : SessionToken) :
    Simulated sound R (Work.expiry token : Work σ τ Instant)
      (Work.expiry token : Work σ' τ Instant) := by
  unfold Work.expiry
  cases token.expiresAt? with
  | some expiry => exact .pure expiry
  | none => exact ⟨fun _ => List.prefix_refl _, fun htracks _ => ⟨rfl, htracks⟩⟩

theorem send [Transport τ] (request : Request) :
    Simulated sound R (Work.send request : Work σ τ Answer) (Work.send request : Work σ' τ Answer) where
  grows _ := List.prefix_append _ _
  tracks := by
    intro world world' htracks _
    rw [Work.exec_send, Work.exec_send, htracks.transport]
    have hsent : Tracks R { world with transport := (Transport.send request world.transport).2 }
        { world' with transport := (Transport.send request world.transport).2 } :=
      { htracks with transport := rfl }
    exact ⟨rfl, hsent.record _⟩

theorem load [TokenStore σ] [TokenStore σ'] (hsimulation : Simulation sound R) :
    Simulated sound R (Work.load : Work σ τ _) (Work.load : Work σ' τ _) where
  grows _ := List.prefix_append _ _
  tracks := by
    intro world world' htracks _
    obtain ⟨hload, hstores⟩ := hsimulation.load htracks.stores
    rw [Work.exec_load, Work.exec_load, hload]
    have hloaded : Tracks R { world with store := (TokenStore.load world.store).2 }
        { world' with store := (TokenStore.load world'.store).2 } :=
      { htracks with stores := hstores }
    exact ⟨rfl, hloaded.record _⟩

theorem save [TokenStore σ] [TokenStore σ'] (hsimulation : Simulation sound R) (token : CachedToken) :
    Simulated sound R (Work.save token : Work σ τ _) (Work.save token : Work σ' τ _) where
  grows _ := List.prefix_append _ _
  tracks := by
    intro world world' htracks hsound
    have hsaved : sound token (TokenStore.save token world.store).1 :=
      hsound _ _ (List.mem_append_right _ (List.mem_singleton_self _))
    obtain ⟨hsave, hstores⟩ := hsimulation.save token htracks.stores hsaved
    rw [Work.exec_save, Work.exec_save, hsave]
    have hafter : Tracks R { world with store := (TokenStore.save token world.store).2 }
        { world' with store := (TokenStore.save token world'.store).2 } :=
      { htracks with stores := hstores }
    exact ⟨rfl, hafter.record _⟩

end Simulated

/-! ## Calls -/

variable (d : Descriptor) (spans : List Span) [TokenStore σ] [TokenStore σ']
  (hsimulation : Simulation sound R)

include hsimulation

theorem storedToken_simulated (gate : TokenGate) (now : Instant) :
    Simulated sound R (storedToken d spans gate now : Work σ τ _)
      (storedToken d spans gate now : Work σ' τ _) := by
  refine .bind (.load hsimulation) ?_
  rintro (error | _ | cached)
  · exact .bind (.note ..) fun _ => .pure _
  · exact .pure _
  · refine .bind (.expiry _) fun expiry => ?_
    by_cases hvalid : now.before expiry = true
    · simp only [hvalid, if_true]
      exact .bind (.note ..) fun _ => .pure _
    · simp only [hvalid]
      exact .bind (.note ..) fun _ => .pure _

theorem persist_simulated (token : SessionToken) :
    Simulated sound R (persist d spans token : Work σ τ _) (persist d spans token : Work σ' τ _) := by
  refine .bind (.save hsimulation _) ?_
  rintro (error | done)
  · exact .note ..
  · exact .note ..

variable [Transport τ] [Nonempty σ']

theorem Simulated.correspondence :
    Correspondence d fun {α} (work : Work σ τ α) (work' : Work σ' τ α) =>
      Simulated sound R work work' where
  pure := .pure
  bind := .bind
  get := .get
  note spans {note} _ := .note spans note
  count := .count
  remember := .remember
  expiry := .expiry
  send := .send
  storedToken spans := storedToken_simulated d spans hsimulation
  persist spans := persist_simulated d spans hsimulation

/-- A call over a store is simulated by the same call over a related one. -/
theorem perform_simulated (now : Instant) (call : Call) :
    Simulated sound R (perform d now call : Work σ τ _) (perform d now call : Work σ' τ _) :=
  (Simulated.correspondence d hsimulation).perform now call

/-! ## All visits -/

omit hsimulation [TokenStore σ'] [Nonempty σ'] in
/-- Visits take nothing out of the log. -/
theorem visited_grows (world : World σ τ) (visits : List Visit) :
    world.log <+: (visited d world visits).log := by
  induction visits generalizing world with
  | nil => exact List.prefix_refl _
  | cons v visits ih =>
    refine List.IsPrefix.trans ?_ (ih (v.after d world))
    exact ⟨v.actions d world, (v.trace d world).1.log_eq.symm⟩

/-- Visits over related stores bring the same, as long as their saves are sound. -/
theorem visited_tracks {world : World σ τ} {world' : World σ' τ} (h : Tracks R world world')
    (visits : List Visit) (hsound : AllSound sound (visited d world visits).log) :
    outcomes d world visits = outcomes d world' visits ∧
      Tracks R (visited d world visits) (visited d world' visits) := by
  induction visits generalizing world world' with
  | nil => exact ⟨rfl, h⟩
  | cons v visits ih =>
    have hvisit : AllSound sound (v.after d world).log := fun token outcome hsaved =>
      hsound token outcome ((visited_grows d _ visits).subset hsaved)
    obtain ⟨hresult, hafter⟩ := (perform_simulated d hsimulation v.now v.call).tracks h hvisit
    obtain ⟨houtcomes, hvisited⟩ := ih hafter hsound
    refine ⟨?_, hvisited⟩
    have hsame : v.result d world = v.result d world' := hresult
    have hsession : (v.after d world').session = (v.after d world).session := hafter.session
    rw [outcomes, outcomes, hsame, hsession]
    exact congrArg _ houtcomes

/-! ## Collectors one after the other -/

/-- What is seen of a collector: what every call brings with the token that it leaves remembered, and
everything that the collector does. -/
structure Life where
  outcomes : List (Except OutOfRange Yield × Option SessionToken)
  log : List Action

omit hsimulation [TokenStore σ'] [Nonempty σ'] in
/-- Collectors one after the other, each in its process and with its calls.  A collector finds the store
and the transport as the one before left them, but for what a new process changes in the store. -/
def lives (enter : Nat → σ → σ) (store : σ) (transport : τ) : List (Nat × List Visit) → List Life
  | [] => []
  | (process, visits) :: rest =>
    let start := World.start (enter process store) transport
    let final := visited d start visits
    ⟨outcomes d start visits, final.log⟩ :: lives enter final.store final.transport rest

/-- Collectors over related stores are the same in all that is seen of them, as long as their saves are
sound. -/
theorem lives_eq {enter : Nat → σ → σ} {enter' : Nat → σ' → σ'}
    (henter : ∀ process s s', R s s' → R (enter process s) (enter' process s')) {s : σ} {s' : σ'}
    (hstores : R s s') (transport : τ) (collectors : List (Nat × List Visit))
    (hsound : ∀ life ∈ lives d enter s transport collectors, AllSound sound life.log) :
    lives d enter s transport collectors = lives d enter' s' transport collectors := by
  induction collectors generalizing s s' transport with
  | nil => rfl
  | cons collector rest ih =>
    obtain ⟨process, visits⟩ := collector
    have hstart : Tracks R (World.start (enter process s) transport)
        (World.start (enter' process s') transport) := ⟨henter process s s' hstores, rfl, rfl, rfl⟩
    obtain ⟨houtcomes, hafter⟩ := visited_tracks d hsimulation hstart visits
      (hsound _ List.mem_cons_self)
    have hrest := ih hafter.stores _ fun life hlife => hsound life (List.mem_cons_of_mem _ hlife)
    rw [lives, lives, houtcomes, hafter.log, hafter.transport]
    exact congrArg _ hrest

end Simulation

/-! ## When tokens are saved -/

section Saves

variable {σ τ : Type} [TokenStore σ] [Transport τ] (d : Descriptor)

omit [TokenStore σ] [Transport τ] in
theorem Action.createdAt_of_issued? {now : Instant} {action : Action} {token : CachedToken}
    (h : action.issued? now = some token) : token.createdAt = now := by
  cases action with
  | exchanged request answer =>
    simp only [Action.issued?] at h
    split at h
    · obtain ⟨body, -, rfl⟩ := Option.map_eq_some_iff.1 h
      rfl
    · cases h
  | _ => cases h

/-- What is saved in a visit was created at its reading of the clock. -/
theorem Visit.createdAt_of_saved (v : Visit) (world : World σ τ) {token : CachedToken}
    {outcome : Except StoreError Unit} (h : .saved token outcome ∈ v.actions d world) :
    token.createdAt = v.now := by
  have hsaved : token ∈ (v.deeds d world).filterMap Deed.saved? :=
    List.mem_filterMap.2 ⟨⟨v.now, .saved token outcome⟩, List.mem_map_of_mem h, rfl⟩
  rw [v.saved_issued] at hsaved
  obtain ⟨deed, hdeed, hissued⟩ := List.mem_filterMap.1 hsaved
  obtain ⟨action, -, rfl⟩ := List.mem_map.1 hdeed
  exact Action.createdAt_of_issued? hissued

theorem createdAt_of_saved (world : World σ τ) (visits : List Visit) {token : CachedToken}
    {outcome : Except StoreError Unit} (h : .saved token outcome ∈ (visited d world visits).log) :
    .saved token outcome ∈ world.log ∨ ∃ v ∈ visits, token.createdAt = v.now := by
  induction visits generalizing world with
  | nil => exact .inl h
  | cons v visits ih =>
    rcases ih (v.after d world) h with hearly | ⟨w, hmem, hcreated⟩
    · rw [(v.trace d world).1.log_eq] at hearly
      rcases List.mem_append.1 hearly with hearly | hnow
      · exact .inl hearly
      · exact .inr ⟨v, List.mem_cons_self, v.createdAt_of_saved d world hnow⟩
    · exact .inr ⟨w, List.mem_cons_of_mem _ hmem, hcreated⟩

/-- What collectors save was created at a reading of the clock in a call of theirs. -/
theorem createdAt_of_saved_lives (enter : Nat → σ → σ) (store : σ) (transport : τ)
    (collectors : List (Nat × List Visit)) {life : Life}
    (hlife : life ∈ lives d enter store transport collectors) {token : CachedToken}
    {outcome : Except StoreError Unit} (h : .saved token outcome ∈ life.log) :
    ∃ collector ∈ collectors, ∃ v ∈ collector.2, token.createdAt = v.now := by
  induction collectors generalizing store transport with
  | nil => cases hlife
  | cons collector rest ih =>
    rcases List.mem_cons.1 hlife with rfl | hlater
    · rcases createdAt_of_saved d _ _ h with hnothing | ⟨v, hmem, hcreated⟩
      · cases hnothing
      · exact ⟨collector, List.mem_cons_self, v, hmem, hcreated⟩
    · obtain ⟨other, hmem, hrest⟩ := ih _ _ hlater
      exact ⟨other, List.mem_cons_of_mem _ hmem, hrest⟩

end Saves

end InstanceIdentity.Collection
