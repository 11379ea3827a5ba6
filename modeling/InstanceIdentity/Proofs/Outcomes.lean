/-!
# Steps that can fail

What it takes for steps that can fail to succeed one after the other.

Main results:

- Theorem `bind_eq_ok_iff`: both steps succeed.
- Theorem `guard_eq_ok_iff`: the guard lets pass, and what follows succeeds.
- Theorem `forM_eq_ok_iff`: a check of every element passes when the check of each does.
-/

namespace InstanceIdentity

variable {ε α β : Type}

@[simp]
theorem pure_eq_ok_iff {a b : α} : (pure a : Except ε α) = .ok b ↔ a = b :=
  ⟨Except.ok.inj, congrArg Except.ok⟩

@[simp]
theorem throw_ne_ok {e : ε} {a : α} : (throw e : Except ε α) ≠ .ok a :=
  nofun

/-- A step after a step succeeds when both do. -/
theorem bind_eq_ok_iff {first : Except ε α} {next : α → Except ε β} {result : β} :
    (first >>= next) = .ok result ↔ ∃ a, first = .ok a ∧ next a = .ok result := by
  cases first with
  | error e => simp [bind, Except.bind]
  | ok a => simp [bind, Except.bind]

/-- What comes behind a guard succeeds when the guard lets it pass. -/
theorem guard_eq_ok_iff {refused : Prop} [Decidable refused] {e : ε} {next : Except ε β} {result : β} :
    (if refused then (throw e : Except ε PUnit) >>= fun _ => next else next) = .ok result ↔
      ¬ refused ∧ next = .ok result := by
  split
  case isTrue h =>
    constructor
    · rintro ⟨⟩
    · intro hpasses
      exact absurd h hpasses.1
  case isFalse h => exact (and_iff_right h).symm

/-- A check after a check passes when both do. -/
theorem andThen_eq_ok_iff {first second : Except ε Unit} :
    (first >>= fun _ => second) = .ok () ↔ first = .ok () ∧ second = .ok () := by
  rw [bind_eq_ok_iff]
  constructor
  · rintro ⟨_, hpassed, hrest⟩
    exact ⟨hpassed, hrest⟩
  · rintro ⟨hpassed, hrest⟩
    exact ⟨(), hpassed, hrest⟩

/-- A check of every element passes when the check of each does. -/
theorem forM_eq_ok_iff {check : α → Except ε Unit} {xs : List α} :
    xs.forM check = .ok () ↔ ∀ x ∈ xs, check x = .ok () := by
  induction xs with
  | nil => simp [List.forM]
  | cons x xs ih =>
    change (check x >>= fun _ => xs.forM check) = _ ↔ _
    rw [andThen_eq_ok_iff, ih]
    simp

end InstanceIdentity
