import InstanceIdentity.Proofs.Binary64.Magnitude
import Mathlib

/-!
# Comparing numbers

Numbers are compared by their values: the infinities stand at the ends, the two zeros are equal, and a
NaN is neither below nor above anything.  Among positive numbers the position in the total order says
the same.

Main results:

- Theorem `Binary64.isPositive_iff`: the positive numbers are those above zero.
- Theorem `Binary64.orderKey_le_iff`: positive numbers compare as their positions do.
-/

namespace InstanceIdentity

namespace Binary64

/-- A value in units, or an infinity. -/
abbrev Extended := WithBot (WithTop Int)

/-- A whole number of units as a value. -/
def Extended.ofUnits (units : Int) : Extended := WithBot.some (WithTop.some units)

/-- The value of a number; the infinities stand at the ends.  A NaN has none. -/
def value? : Binary64 → Option Extended
  | .finite true rank => some (.ofUnits (-magnitude rank))
  | .finite false rank => some (.ofUnits (magnitude rank))
  | .infinite true => some ⊥
  | .infinite false => some ⊤
  | .nan => none

instance instLE : LE Binary64 where
  le x y := ∃ a b, x.value? = some a ∧ y.value? = some b ∧ a ≤ b

instance instLT : LT Binary64 where
  lt x y := ∃ a b, x.value? = some a ∧ y.value? = some b ∧ a < b

theorem Extended.ofUnits_le_ofUnits {a b : Int} : ofUnits a ≤ ofUnits b ↔ a ≤ b := by
  rw [ofUnits, ofUnits, WithBot.coe_le_coe, WithTop.coe_le_coe]

theorem Extended.ofUnits_lt_ofUnits {a b : Int} : ofUnits a < ofUnits b ↔ a < b := by
  rw [ofUnits, ofUnits, WithBot.coe_lt_coe, WithTop.coe_lt_coe]

theorem Extended.ofUnits_lt_top (a : Int) : ofUnits a < ⊤ :=
  WithBot.coe_lt_coe.2 (WithTop.coe_lt_top a)

variable {x y : Binary64} {a b : Extended}

theorem le_iff_of_values (hfirst : x.value? = some a) (hsecond : y.value? = some b) :
    x ≤ y ↔ a ≤ b := by
  constructor
  · rintro ⟨c, d, hleft, hright, h⟩
    cases hfirst.symm.trans hleft
    cases hsecond.symm.trans hright
    exact h
  · exact fun h => ⟨a, b, hfirst, hsecond, h⟩

theorem lt_iff_of_values (hfirst : x.value? = some a) (hsecond : y.value? = some b) :
    x < y ↔ a < b := by
  constructor
  · rintro ⟨c, d, hleft, hright, h⟩
    cases hfirst.symm.trans hleft
    cases hsecond.symm.trans hright
    exact h
  · exact fun h => ⟨a, b, hfirst, hsecond, h⟩

theorem not_lt_nan : ¬ x < .nan := by
  rintro ⟨a, b, -, h, -⟩
  cases h

/-- The positive numbers are those above zero, infinity included. -/
theorem isPositive_iff : x.isPositive = true ↔ zero < x := by
  have horigin : zero.value? = some (.ofUnits 0) := rfl
  rcases x with ⟨negative, rank⟩ | negative | _
  · cases negative with
    | true =>
      rw [lt_iff_of_values horigin rfl, Extended.ofUnits_lt_ofUnits]
      exact iff_of_false (by simp [isPositive]) (by omega)
    | false =>
      rw [lt_iff_of_values horigin rfl, Extended.ofUnits_lt_ofUnits, Int.natCast_pos, magnitude_pos]
      simp [isPositive]
  · cases negative with
    | true =>
      rw [lt_iff_of_values horigin rfl]
      exact iff_of_false (by simp [isPositive]) not_lt_bot
    | false =>
      rw [lt_iff_of_values horigin rfl]
      exact iff_of_true rfl (Extended.ofUnits_lt_top 0)
  · exact iff_of_false Bool.false_ne_true not_lt_nan

/-- A positive number is a magnitude of a positive rank, or infinite. -/
theorem eq_of_isPositive (h : x.isPositive = true) :
    (∃ rank, x = .finite false rank) ∨ x = .infinite false := by
  rcases x with ⟨negative, rank⟩ | negative | _
  · cases negative with
    | true => cases h
    | false => exact .inl ⟨rank, rfl⟩
  · cases negative with
    | true => cases h
    | false => exact .inr rfl
  · cases h

/-- Positive numbers compare as their positions in the total order do. -/
theorem orderKey_le_iff (hfirst : x.isPositive = true) (hsecond : y.isPositive = true) :
    x.orderKey ≤ y.orderKey ↔ x ≤ y := by
  rcases eq_of_isPositive hfirst with ⟨r, rfl⟩ | rfl
  · rcases eq_of_isPositive hsecond with ⟨q, rfl⟩ | rfl
    · rw [le_iff_of_values rfl rfl, Extended.ofUnits_le_ofUnits, Int.ofNat_le,
        magnitude_strictMono.le_iff_le]
      exact Int.ofNat_le
    · rw [le_iff_of_values rfl rfl]
      exact iff_of_true (Int.ofNat_le.2 r.isLt.le) le_top
  · rcases eq_of_isPositive hsecond with ⟨q, rfl⟩ | rfl
    · rw [le_iff_of_values rfl rfl]
      exact iff_of_false (Int.not_le.2 (Int.ofNat_lt.2 q.isLt)) (Extended.ofUnits_lt_top _).not_ge
    · rw [le_iff_of_values rfl rfl]
      exact iff_of_true le_rfl le_rfl

end Binary64

end InstanceIdentity
