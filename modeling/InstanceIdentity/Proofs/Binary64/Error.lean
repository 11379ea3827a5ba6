import InstanceIdentity.Proofs.Binary64.Digits

/-!
# Errors of rounding

A quotient of at least `2 ^ 52` units is rounded with an error of at most one part in `2 ^ 53` of the
result.  The errors of several roundings, one after the other, multiply.

Main results:

- Theorem `Binary64.Rounds.near`: the error of one rounding.
- Theorem `Binary64.Near.trans`: the error of roundings of rounded numbers.
-/

namespace InstanceIdentity

namespace Binary64

/-- A number of units is as near to a quotient as a number of roundings leaves it, each with an error
of at most one part in `2 ^ 53` of its result. -/
structure Near (roundings units num den : Nat) : Prop where
  low : (2 ^ 53) ^ roundings * num ≤ units * den * (2 ^ 53 + 1) ^ roundings
  high : units * den * (2 ^ 53 - 1) ^ roundings ≤ (2 ^ 53) ^ roundings * num

/-- The next rank is at most one part in `2 ^ 52` away. -/
theorem magnitude_succ_le {rank : Nat} (hlarge : 2 ^ 52 ≤ rank) :
    2 ^ 52 * magnitude (rank + 1) ≤ (2 ^ 52 + 1) * magnitude rank := by
  obtain ⟨s, m, rfl, hnormal, hbelow⟩ := exists_rankOf rank
  have hsignificand : 2 ^ 52 ≤ m := by
    rcases hnormal.full with rfl | hfull
    · unfold rankOf at hlarge
      omega
    · exact hfull
  rw [magnitude_succ hnormal hbelow, magnitude_scaled hnormal, ← Nat.mul_assoc, ← Nat.mul_assoc]
  exact Nat.mul_le_mul_right _ (by omega)

/-- The rank before is at most one part in `2 ^ 52` away. -/
theorem magnitude_le_pred {rank : Nat} (hlarge : 2 ^ 52 ≤ rank) :
    (2 ^ 52 - 1) * magnitude rank ≤ 2 ^ 52 * magnitude (rank - 1) := by
  have hfew := (magnitude_spacing (show 0 < rank by omega)).2 hlarge
  have hsides : magnitude (rank - 1) + spacing rank = magnitude rank := magnitude_pred_add_spacing
  omega

/-- What has at least `2 ^ 52` units is rounded with an error of at most one part in `2 ^ 53`. -/
theorem Rounds.near {rank num den : Nat} (h : Rounds rank num den) (hpositive : 0 < den)
    (hlarge : 2 ^ 52 * den ≤ num) : Near 1 (magnitude rank) num den := by
  have hleast : magnitude (2 ^ 52) = 2 ^ 52 := by
    have hscaled := magnitude_scaled (s := 0) (m := 2 ^ 52) ⟨.inl rfl, by omega⟩
    rwa [rankOf, Nat.zero_mul, Nat.zero_add, Nat.pow_zero, Nat.mul_one] at hscaled
  have hlarge : 2 ^ 52 ≤ rank := h.le_of_ge hpositive (by rwa [hleast])
  have habove := magnitude_succ_le hlarge
  have hbelow := magnitude_le_pred hlarge
  constructor
  · rw [Nat.pow_one, Nat.pow_one]
    calc 2 ^ 53 * num = 2 ^ 52 * (2 * num) := by ring
      _ ≤ 2 ^ 52 * ((magnitude rank + magnitude (rank + 1)) * den) := Nat.mul_le_mul_left _ h.high
      _ = (2 ^ 52 * magnitude rank + 2 ^ 52 * magnitude (rank + 1)) * den := by ring
      _ ≤ magnitude rank * (2 ^ 53 + 1) * den := Nat.mul_le_mul_right den (by omega)
      _ = magnitude rank * den * (2 ^ 53 + 1) := by ring
  · rw [Nat.pow_one, Nat.pow_one]
    calc magnitude rank * den * (2 ^ 53 - 1) = magnitude rank * (2 ^ 53 - 1) * den := by ring
      _ ≤ 2 ^ 52 * (magnitude (rank - 1) + magnitude rank) * den :=
        Nat.mul_le_mul_right den (by omega)
      _ = 2 ^ 52 * ((magnitude (rank - 1) + magnitude rank) * den) := by ring
      _ ≤ 2 ^ 52 * (2 * num) := Nat.mul_le_mul_left _ h.low
      _ = 2 ^ 53 * num := by ring

/-- A positive whole number has enough units. -/
theorem le_whole {n : Nat} (hpositive : 0 < n) : 2 ^ 82 ≤ n * one := by
  have hsmall : 2 ^ 82 ≤ one := by
    rw [one_eq]
    apply Nat.pow_le_pow_right <;> omega
  exact hsmall.trans (Nat.le_mul_of_pos_left one hpositive)

/-- What is rounded again is near to the quotient of the first rounding, with both errors. -/
theorem Near.trans {j k first units num den p q : Nat} (hinner : Near j first num den)
    (houter : Near k units (first * p) q) : Near (j + k) units (num * p) (den * q) where
  low :=
    calc (2 ^ 53) ^ (j + k) * (num * p) = (2 ^ 53) ^ k * p * ((2 ^ 53) ^ j * num) := by ring
      _ ≤ (2 ^ 53) ^ k * p * (first * den * (2 ^ 53 + 1) ^ j) := Nat.mul_le_mul_left _ hinner.low
      _ = (2 ^ 53) ^ k * (first * p) * (den * (2 ^ 53 + 1) ^ j) := by ring
      _ ≤ units * q * (2 ^ 53 + 1) ^ k * (den * (2 ^ 53 + 1) ^ j) :=
        Nat.mul_le_mul_right _ houter.low
      _ = units * (den * q) * (2 ^ 53 + 1) ^ (j + k) := by ring
  high :=
    calc units * (den * q) * (2 ^ 53 - 1) ^ (j + k)
        = units * q * (2 ^ 53 - 1) ^ k * (den * (2 ^ 53 - 1) ^ j) := by ring
      _ ≤ (2 ^ 53) ^ k * (first * p) * (den * (2 ^ 53 - 1) ^ j) :=
        Nat.mul_le_mul_right _ houter.high
      _ = (2 ^ 53) ^ k * p * (first * den * (2 ^ 53 - 1) ^ j) := by ring
      _ ≤ (2 ^ 53) ^ k * p * ((2 ^ 53) ^ j * num) := Nat.mul_le_mul_left _ hinner.high
      _ = (2 ^ 53) ^ (j + k) * (num * p) := by ring

/-- A quotient may be reduced. -/
theorem Near.reduce {k units num den factor : Nat} (hpositive : 0 < factor)
    (h : Near k units (num * factor) (den * factor)) : Near k units num den where
  low := by
    refine Nat.le_of_mul_le_mul_right (c := factor) ?_ hpositive
    calc (2 ^ 53) ^ k * num * factor = (2 ^ 53) ^ k * (num * factor) := by ring
      _ ≤ units * (den * factor) * (2 ^ 53 + 1) ^ k := h.low
      _ = units * den * (2 ^ 53 + 1) ^ k * factor := by ring
  high := by
    refine Nat.le_of_mul_le_mul_right (c := factor) ?_ hpositive
    calc units * den * (2 ^ 53 - 1) ^ k * factor = units * (den * factor) * (2 ^ 53 - 1) ^ k := by ring
      _ ≤ (2 ^ 53) ^ k * (num * factor) := h.high
      _ = (2 ^ 53) ^ k * num * factor := by ring

/-- Three errors make less than four parts in `2 ^ 53` of the quotient. -/
theorem Near.three {units num den : Nat} (h : Near 3 units num den) :
    (2 ^ 53 - 4) * num ≤ units * den * 2 ^ 53 ∧ units * den * 2 ^ 53 ≤ (2 ^ 53 + 4) * num := by
  have habove : (2 ^ 53) ^ 4 ≤ (2 ^ 53 + 4) * (2 ^ 53 - 1) ^ 3 := by decide
  have hbelow : (2 ^ 53 - 4) * (2 ^ 53 + 1) ^ 3 ≤ (2 ^ 53) ^ 4 := by decide
  have hpositive : 0 < (2 ^ 53 + 1) ^ 3 := by decide
  have hpositive' : 0 < (2 ^ 53 - 1) ^ 3 := by decide
  obtain ⟨hlow, hhigh⟩ := h
  generalize (2 ^ 53 - 1) ^ 3 = lower at *
  generalize (2 ^ 53 + 1) ^ 3 = upper at *
  constructor
  · refine Nat.le_of_mul_le_mul_right (c := upper) ?_ hpositive
    calc (2 ^ 53 - 4) * num * upper = (2 ^ 53 - 4) * upper * num := by ring
      _ ≤ (2 ^ 53) ^ 4 * num := Nat.mul_le_mul_right num hbelow
      _ = (2 ^ 53) ^ 3 * num * 2 ^ 53 := by ring
      _ ≤ units * den * upper * 2 ^ 53 := Nat.mul_le_mul_right _ hlow
      _ = units * den * 2 ^ 53 * upper := by ring
  · refine Nat.le_of_mul_le_mul_right (c := lower) ?_ hpositive'
    calc units * den * 2 ^ 53 * lower = units * den * lower * 2 ^ 53 := by ring
      _ ≤ (2 ^ 53) ^ 3 * num * 2 ^ 53 := Nat.mul_le_mul_right _ hhigh
      _ = (2 ^ 53) ^ 4 * num := by ring
      _ ≤ (2 ^ 53 + 4) * lower * num := Nat.mul_le_mul_right num habove
      _ = (2 ^ 53 + 4) * num * lower := by ring

end Binary64

end InstanceIdentity
