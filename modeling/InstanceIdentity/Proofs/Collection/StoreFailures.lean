import InstanceIdentity.Proofs.Collection.Correspondence
import InstanceIdentity.Proofs.Collection.Excuse
import InstanceIdentity.Proofs.Collection.History
import InstanceIdentity.Store.Hosted

/-!
# Failures of the store

A collector does the same whether its store fails or not: a load that fails is taken for an empty
store, and a token that could not be saved is used all the same.  Work over a store is coupled with the
same work over one that excuses it.

Main results:

- Theorem `perform_coupled`: a call over a store is coupled with the same call over one that excuses it.
- Theorem `store_failures_invisible`: over all calls a failure of the store shows in the log only, as
  one error.
-/

namespace InstanceIdentity.Collection

open Http (Transport Script)
open Diagnostics (Span)

variable {σ σ' τ : Type} [TokenStore σ] [TokenStore σ'] (d : Descriptor) (spans : List Span)

/-! ## Uses of the store -/

theorem storedToken_coupled (gate : TokenGate) (now : Instant) :
    Coupled d (storedToken d spans gate now : Work σ τ _)
      (storedToken d spans gate now : Work σ' τ _) := by
  refine .load spans (.pure none) (fun error => rfl) ?_
  rintro (_ | cached)
  · exact .pure _
  · refine .bind (.expiry _) fun expiry => ?_
    by_cases hvalid : now.before expiry = true
    · simp only [hvalid, if_true]
      exact .bind (.note _ nofun) fun _ => .pure _
    · simp only [hvalid]
      exact .bind (.note _ nofun) fun _ => .pure _

theorem persist_coupled (token : SessionToken) :
    Coupled d (persist d spans token : Work σ τ _) (persist d spans token : Work σ' τ _) :=
  .save spans _ (fun _ => rfl) rfl rfl

/-! ## Calls -/

variable [Transport τ]

theorem Coupled.correspondence :
    Correspondence d fun {α} (work : Work σ τ α) (work' : Work σ' τ α) => Coupled d work work' where
  pure := .pure
  bind := .bind
  get := .get
  note := .note
  count := .count
  remember := .remember
  expiry := .expiry
  send := .send
  storedToken := storedToken_coupled d
  persist := persist_coupled d

/-- A call over a store is coupled with the same call over one that excuses it. -/
theorem perform_coupled (now : Instant) (call : Call) :
    Coupled d (perform d now call : Work σ τ _) (perform d now call : Work σ' τ _) :=
  (Coupled.correspondence d).perform now call

/-! ## All visits -/

/-- What every visit brings, and the token that is remembered after it. -/
def outcomes (world : World σ τ) : List Visit → List (Except OutOfRange Yield × Option SessionToken)
  | [] => []
  | v :: visits => (v.result d world, (v.after d world).session) :: outcomes (v.after d world) visits

variable {world : World σ τ} {world' : World σ' τ}

theorem Visit.covers (v : Visit) (h : Covers d world world') :
    v.result d world = v.result d world' ∧ Covers d (v.after d world) (v.after d world') :=
  (perform_coupled d v.now v.call).covers h

/-- Visits bring the same over a store and over one that excuses it. -/
theorem visited_covers (h : Covers d world world') (visits : List Visit) :
    outcomes d world visits = outcomes d world' visits ∧
      Covers d (visited d world visits) (visited d world' visits) := by
  induction visits generalizing world world' with
  | nil => exact ⟨rfl, h⟩
  | cons v visits ih =>
    obtain ⟨hresult, hafter⟩ := v.covers d h
    obtain ⟨houtcomes, hvisited⟩ := ih hafter
    refine ⟨?_, hvisited⟩
    rw [outcomes, outcomes, hresult, hafter.session, houtcomes]

/-- Failures of the store are invisible except in the log.  Over a store, and over one with the same
outcomes where failing loads bring nothing and failing saves succeed, the same calls bring the same,
leave the same token remembered each time, send the same requests, get the same answers and count
the same.  The logs are the same but for what `Excused` says: an error after each load that fails,
and an error in place of the note that the token was stored after each save that fails.  No other
error is ever reported. -/
theorem store_failures_invisible {store : σ} {store' : σ'} (hstores : Excuses store store')
    (transport : τ) (held : Option SessionToken) (visits : List Visit) :
    let start : World σ τ := { store, transport, session := held }
    let start' : World σ' τ := { store := store', transport, session := held }
    let first := visited d start visits
    let second := visited d start' visits
    outcomes d start visits = outcomes d start' visits ∧
      first.requests = second.requests ∧ first.counts = second.counts ∧
      Excused d first.log second.log ∧
      first.errors = first.log.filterMap (Action.failure? d) ∧ second.errors = [] := by
  intro start start' first second
  have hstart : Covers d start start' := ⟨hstores, rfl, rfl, .nil⟩
  obtain ⟨houtcomes, hvisited⟩ := visited_covers d hstart visits
  have hlogs : Excused d first.log second.log := hvisited.logs
  refine ⟨houtcomes, ?_, ?_, hlogs, hlogs.errors.1, hlogs.errors.2⟩
  · exact hlogs.filterMap_eq (fun _ => rfl) (fun _ => rfl) (fun _ _ => rfl)
  · exact hlogs.filterMap_eq (fun _ => rfl) (fun _ => rfl) (fun _ _ => rfl)

/-- Nothing can be loaded or saved.  A token is issued, used from memory and replaced when it has
lapsed, as over a store that hides this. -/
theorem store_failures_invisible_unusable :
    let d := Descriptor.linkLocal
    let store : HostedStore := { medium := .unusable, files := .start }
    let transport : Script := ⟨[.ok ⟨200, "first"⟩, .ok ⟨200, "second"⟩]⟩
    let visits : List Visit := [⟨.minute 0, .token⟩, ⟨.minute 1, .token⟩, ⟨.minute 8, .token⟩]
    let first := visited d { store, transport } visits
    let second := visited d { store := Lenient.mk store, transport } visits
    Excuses store (Lenient.mk store) ∧
      first.errors =
        [.storeUnreadable d.id HostedStore.unreadable, .tokenNotStored d.id HostedStore.unwritable,
          .storeUnreadable d.id HostedStore.unreadable, .tokenNotStored d.id HostedStore.unwritable] ∧
      second.errors = [] ∧ first.requests = second.requests := by
  intro d store transport visits first second
  have hfailures : first.log.filterMap (Action.failure? d) =
      [.storeUnreadable d.id HostedStore.unreadable, .tokenNotStored d.id HostedStore.unwritable,
        .storeUnreadable d.id HostedStore.unreadable,
        .tokenNotStored d.id HostedStore.unwritable] := by
    decide +kernel
  have hexcuses : Excuses store (Lenient.mk store) := .lenient store
  obtain ⟨-, hrequests, -, -, herrors, hnone⟩ :=
    store_failures_invisible d hexcuses transport none visits
  exact ⟨hexcuses, herrors.trans hfailures, hnone, hrequests⟩

end InstanceIdentity.Collection
