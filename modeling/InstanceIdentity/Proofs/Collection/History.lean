import InstanceIdentity.Proofs.Collection.Protocol

/-!
# Histories of a collector

A collector is visited again and again: each visit is one call, at the reading of the clock that the
call sees, and readings may go either way from one visit to the next.  The history of a collector is
everything that it has done, each action with the reading of its call.  A visit in which an instant
went out of range ends early; the collector may be visited again all the same.

Main results:

- Theorem `Visit.performs`: a visit follows the protocol.
- Theorem `history_induction`: what every visit preserves holds after all of them.
-/

namespace InstanceIdentity.Collection

open Http (Transport)

variable {σ τ : Type} [TokenStore σ] [Transport τ]

/-- A call on a collector, with the reading of the clock that it sees. -/
structure Visit where
  now : Instant
  call : Call

/-- Something that was done, with the reading of the clock in whose call it was done. -/
structure Deed where
  now : Instant
  action : Action

/-- A collector that remembers nothing and has done nothing yet. -/
def World.start (store : σ) (transport : τ) : World σ τ := { store, transport }

namespace Visit

variable (v : Visit) (d : Descriptor) (world : World σ τ)

/-- What a visit brings. -/
def result : Except OutOfRange Yield := ((perform d v.now v.call).exec world).1

/-- The world after a visit. -/
def after : World σ τ := ((perform d v.now v.call).exec world).2

/-- The actions of a visit: what it adds to the log. -/
def actions : List Action := (v.after d world).log.drop world.log.length

/-- The actions of a visit, at its reading of the clock. -/
def deeds : List Deed := (v.actions d world).map (Deed.mk v.now)

/-- A visit has a trace. -/
theorem trace :
    Trace (perform d v.now v.call) world (v.actions d world) (v.result d world) (v.after d world) ∧
      Performs d v.now v.call world.session (v.actions d world) (v.result d world)
        (v.after d world).session := by
  obtain ⟨actions, result, after, htrace, hperforms⟩ := perform_obeys d v.now world v.call
  have hafter : v.after d world = after := congrArg Prod.snd htrace.exec_eq
  have hresult : v.result d world = result := congrArg Prod.fst htrace.exec_eq
  have hactions : v.actions d world = actions := by
    rw [Visit.actions, hafter, htrace.log_eq, List.drop_left]
  rw [hafter, hresult, hactions]
  exact ⟨htrace, hperforms⟩

/-- A visit follows the protocol. -/
theorem performs :
    Performs d v.now v.call world.session (v.actions d world) (v.result d world)
      (v.after d world).session :=
  (v.trace d world).2

/-- The outcomes in a visit are those of the store and the transport. -/
theorem backed :
    Backed world.store world.transport (v.actions d world) (v.after d world).store
      (v.after d world).transport :=
  (v.trace d world).1.backed

end Visit

/-! ## One visit after the other -/

variable (d : Descriptor)

/-- The world after visits. -/
def visited (world : World σ τ) (visits : List Visit) : World σ τ :=
  visits.foldl (fun world v => v.after d world) world

/-- Everything that is done in visits. -/
def history (world : World σ τ) : List Visit → List Deed
  | [] => []
  | v :: visits => v.deeds d world ++ history (v.after d world) visits

/-- What every step preserves holds after all of them, where each step adds to a history. -/
theorem chronicle_induction {S E D : Type} {after : S → E → S} {deeds : S → E → List D}
    {history : S → List E → List D} (hnil : ∀ s, history s [] = [])
    (hcons : ∀ s e rest, history s (e :: rest) = deeds s e ++ history (after s e) rest)
    {I : List D → S → Prop} {s : S} (hstart : I [] s)
    (hstep : ∀ past s e, I past s → I (past ++ deeds s e) (after s e)) (events : List E) :
    I (history s events) (events.foldl after s) := by
  -- The past grows at its end and the events are taken from their front, so the past is general.
  have hgeneral : ∀ past s, I past s → I (past ++ history s events) (events.foldl after s) := by
    induction events with
    | nil =>
      intro past s h
      simpa [hnil] using h
    | cons e rest ih =>
      intro past s h
      have hrest := ih (past ++ deeds s e) (after s e) (hstep past s e h)
      rwa [List.append_assoc, ← hcons] at hrest
  exact hgeneral [] s hstart

/-- What every visit preserves holds after all of them. -/
theorem history_induction {I : List Deed → World σ τ → Prop} {world : World σ τ}
    (hstart : I [] world)
    (hstep : ∀ (past : List Deed) (world : World σ τ) (v : Visit), I past world →
      I (past ++ v.deeds d world) (v.after d world))
    (visits : List Visit) : I (history d world visits) (visited d world visits) :=
  chronicle_induction (fun _ => rfl) (fun _ _ _ => rfl) hstart hstep visits

end InstanceIdentity.Collection
