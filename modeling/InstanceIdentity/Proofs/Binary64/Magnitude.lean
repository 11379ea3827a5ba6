import InstanceIdentity.Binary64.Basic
import Mathlib.Tactic.Ring
import Mathlib.Order.Monotone.Basic

/-!
# Ranks and magnitudes

The magnitude of a rank is a significand of at most 53 bits times a power of two.  Magnitudes grow
with the rank, so that a number is told by its sign and its magnitude, and every product of a
significand of 53 bits and a power of two is the magnitude of a rank.

Main results:

- Theorem `Binary64.magnitude_scaled`: the magnitude of a significand and an exponent.
- Theorem `Binary64.magnitude_strictMono`: greater ranks have greater magnitudes.
- Theorem `Binary64.exists_magnitude_eq`: products of significands and powers of two are magnitudes.
-/

namespace InstanceIdentity

namespace Binary64

/-! ## Significands and exponents -/

/-- A significand and an exponent that belong to a rank: the significand has at most 53 bits, and it
has all of them unless the exponent is the least. -/
structure Normal (exponent significand : Nat) : Prop where
  full : exponent = 0 ∨ 2 ^ 52 ≤ significand
  bounded : significand ≤ 2 ^ 53

/-- The rank of a significand and an exponent. -/
def rankOf (exponent significand : Nat) : Nat := exponent * 2 ^ 52 + significand

/-- The magnitude of a significand and an exponent. -/
theorem magnitude_scaled {s m : Nat} (h : Normal s m) : magnitude (rankOf s m) = m * 2 ^ s := by
  obtain ⟨hfull, hbounded⟩ := h
  unfold magnitude rankOf
  simp only [Nat.pow_eq]
  rcases Nat.lt_or_ge m (2 ^ 52) with hsmall | hlarge
  · have hleast : s = 0 := hfull.resolve_right (by omega)
    subst hleast
    rw [if_pos (by omega)]
    omega
  · rcases Nat.lt_or_eq_of_le hbounded with hbelow | rfl
    · have hquotient : (s * 2 ^ 52 + m) / 2 ^ 52 = s + 1 := by omega
      have hremainder : (s * 2 ^ 52 + m) % 2 ^ 52 = m - 2 ^ 52 := by omega
      rw [hquotient, hremainder, if_neg (by omega), Nat.add_sub_cancel, Nat.add_sub_cancel' hlarge]
    · have hquotient : (s * 2 ^ 52 + 2 ^ 53) / 2 ^ 52 = s + 2 := by omega
      have hremainder : (s * 2 ^ 52 + 2 ^ 53) % 2 ^ 52 = 0 := by omega
      rw [hquotient, hremainder, if_neg (by omega)]
      have : s + 2 - 1 = s + 1 := by omega
      rw [this]
      ring

/-- Every rank has a significand below `2 ^ 53`. -/
theorem exists_rankOf (rank : Nat) : ∃ s m, rank = rankOf s m ∧ Normal s m ∧ m < 2 ^ 53 := by
  unfold rankOf
  by_cases hsmall : rank < 2 ^ 52
  · exact ⟨0, rank, by omega, ⟨.inl rfl, by omega⟩, by omega⟩
  · exact ⟨rank / 2 ^ 52 - 1, 2 ^ 52 + rank % 2 ^ 52, by omega, ⟨.inr (by omega), by omega⟩, by omega⟩

/-- The next rank has the next significand. -/
theorem magnitude_succ {s m : Nat} (h : Normal s m) (hbelow : m < 2 ^ 53) :
    magnitude (rankOf s m + 1) = (m + 1) * 2 ^ s := by
  have hnext : rankOf s m + 1 = rankOf s (m + 1) := Nat.add_assoc _ _ _
  rw [hnext, magnitude_scaled ⟨h.full.imp_right Nat.le_succ_of_le, hbelow⟩]

/-! ## Order -/

/-- Greater ranks have greater magnitudes. -/
theorem magnitude_strictMono : StrictMono magnitude := by
  refine strictMono_nat_of_lt_succ fun rank => ?_
  obtain ⟨s, m, rfl, hnormal, hbelow⟩ := exists_rankOf rank
  rw [magnitude_scaled hnormal, magnitude_succ hnormal hbelow]
  exact Nat.mul_lt_mul_of_pos_right (Nat.lt_succ_self m) (Nat.two_pow_pos s)

@[simp]
theorem magnitude_zero : magnitude 0 = 0 := rfl

theorem magnitude_inj {a b : Nat} : magnitude a = magnitude b ↔ a = b :=
  magnitude_strictMono.injective.eq_iff

theorem magnitude_pos {rank : Nat} : 0 < magnitude rank ↔ 0 < rank := by
  have hgrows := magnitude_strictMono.lt_iff_lt (a := 0) (b := rank)
  rwa [magnitude_zero] at hgrows

/-! ## Which numbers are magnitudes -/

/-- A significand of 53 bits times a power of two is a magnitude. -/
theorem exists_magnitude_eq {m : Nat} (hbounded : m ≤ 2 ^ 53) (exponent : Nat) :
    ∃ rank, magnitude rank = m * 2 ^ exponent := by
  induction exponent generalizing m with
  | zero => exact ⟨rankOf 0 m, magnitude_scaled ⟨.inl rfl, hbounded⟩⟩
  | succ exponent ih =>
    rcases Nat.lt_or_ge m (2 ^ 52) with hsmall | hlarge
    · obtain ⟨rank, h⟩ := ih (m := 2 * m) (by omega)
      exact ⟨rank, by rw [h]; ring⟩
    · exact ⟨rankOf (exponent + 1) m, magnitude_scaled ⟨.inr hlarge, hbounded⟩⟩

end Binary64

end InstanceIdentity
