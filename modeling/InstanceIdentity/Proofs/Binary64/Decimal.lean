import InstanceIdentity.Binary64.Decimal
import InstanceIdentity.Proofs.Binary64.Rounding

/-!
# Decimal numbers

A decimal number is read as the binary64 number that it rounds to.  The shortest digits of a number
round to that number, whichever grid of powers of ten they are found on.

Main results:

- Theorem `Binary64.ofDecimal_of_rounds`: a decimal number is read as the number that it rounds to.
- Theorem `Binary64.rounds_shortest`: the shortest digits of a number round to it.
-/

namespace InstanceIdentity

namespace Binary64

/-! ## Decimal numbers -/

/-- The numerator in units of a decimal number. -/
def decimalNum (digits : Nat) (exponent : Int) : Nat := digits * Nat.pow 10 exponent.toNat * one

/-- The denominator of a decimal number. -/
def decimalDen (exponent : Int) : Nat := Nat.pow 10 (-exponent).toNat

theorem decimalDen_pos (exponent : Int) : 0 < decimalDen exponent := Nat.pow_pos (by decide)

theorem decimalDen_of_nonneg {k : Int} (h : 0 ≤ k) : decimalDen k = 1 := by
  rw [decimalDen, Int.toNat_of_nonpos (by omega), Nat.pow_eq, Nat.pow_zero]

theorem decimalNum_of_nonpos {c : Nat} {k : Int} (h : k ≤ 0) : decimalNum c k = c * one := by
  rw [decimalNum, Int.toNat_of_nonpos h, Nat.pow_eq, Nat.pow_zero, Nat.mul_one]

theorem roundsTo_iff {rank c : Nat} {k : Int} :
    roundsTo rank c k = true ↔ Rounds rank (decimalNum c k) (decimalDen k) := by
  have hdoubled : c * Nat.pow 10 k.toNat * (2 * one) = 2 * decimalNum c k := by
    unfold decimalNum
    ring
  unfold roundsTo
  rw [hdoubled]
  unfold decimalDen
  rcases Nat.mod_two_eq_zero_or_one rank with heven | hodd
  · simp only [heven, if_true, Bool.and_eq_true, decide_eq_true_eq]
    exact ⟨fun h => ⟨h.1, h.2, by omega⟩, fun h => ⟨h.low, h.high⟩⟩
  · simp only [hodd, if_neg (by decide : ¬ 1 = 0), Bool.and_eq_true, decide_eq_true_eq]
    exact ⟨fun h => ⟨h.1.le, h.2.le, fun _ => h⟩, fun h => h.odd hodd⟩

/-! ## Reading decimal numbers -/

/-- Powers of ten grow faster than every third power of two. -/
theorem two_pow_le_ten_pow (n : Nat) : 2 ^ (3 * n) ≤ 10 ^ n := by
  rw [Nat.pow_mul]
  exact Nat.pow_le_pow_left (by decide) n

theorem two_pow_lt_ten_pow {a n : Nat} (h : a < 3 * n) : 2 ^ a < 10 ^ n :=
  (Nat.pow_lt_pow_right (by decide) h).trans_le (two_pow_le_ten_pow n)

/-- What rounds to a finite number is less than `10 ^ 401`. -/
theorem Rounds.exponent_le {rank c : Nat} {k : Int}
    (h : Rounds rank (decimalNum c k) (decimalDen k)) (hnonzero : c ≠ 0) (hfinite : rank < rankBound) :
    k ≤ 400 := by
  by_contra hlarge
  have hown : magnitude rank ≤ 2 ^ 1024 * one := (lt_rankBound_iff.1 hfinite).le
  have hnext : magnitude (rank + 1) ≤ 2 ^ 1024 * one := by
    rw [← magnitude_rankBound]
    exact magnitude_strictMono.monotone hfinite
  have hhigh := h.high
  rw [decimalDen_of_nonneg (by omega), Nat.mul_one] at hhigh
  have hpower : 2 ^ 1024 < 10 ^ k.toNat := two_pow_lt_ten_pow (by omega)
  have hmany : 10 ^ k.toNat ≤ c * 10 ^ k.toNat := Nat.le_mul_of_pos_left _ (Nat.pos_of_ne_zero hnonzero)
  have hexceeds : 2 ^ 1024 * one < decimalNum c k :=
    Nat.mul_lt_mul_of_pos_right (hpower.trans_le hmany) one_pos
  omega

/-- What rounds to a positive number is more than `10 ^ (-401)`. -/
theorem Rounds.le_exponent {rank c : Nat} {k : Int}
    (h : Rounds rank (decimalNum c k) (decimalDen k)) (hpositive : 0 < rank) :
    -400 ≤ k + (Nat.log2 c / 3 : Nat) := by
  by_contra hsmall
  have hunit : 1 ≤ magnitude rank := magnitude_pos.2 hpositive
  have hlow := h.low
  rw [decimalNum_of_nonpos (by omega)] at hlow
  have henough : decimalDen k ≤ 2 * (c * one) :=
    (Nat.le_mul_of_pos_left _ (by omega)).trans hlow
  have hfew : c < 10 ^ (Nat.log2 c / 3 + 1) := by
    calc c < 2 ^ (Nat.log2 c + 1) := Nat.lt_log2_self
      _ ≤ 2 ^ (3 * (Nat.log2 c / 3 + 1)) := Nat.pow_le_pow_right (by decide) (by omega)
      _ ≤ _ := two_pow_le_ten_pow _
  have hfar : 10 ^ (Nat.log2 c / 3 + 1) * 10 ^ 400 ≤ decimalDen k := by
    rw [← Nat.pow_add]
    exact Nat.pow_le_pow_right (by decide) (by omega)
  have htiny : 2 * one < 10 ^ 400 := by
    have hdouble : 2 * one = 2 ^ 1075 := by
      rw [one_eq, ← two_pow_mul (a := 1) (b := 1074) (c := 1075) rfl, Nat.pow_one]
    rw [hdouble]
    apply two_pow_lt_ten_pow
    omega
  have : 2 * (c * one) < 10 ^ (Nat.log2 c / 3 + 1) * 10 ^ 400 := by
    calc 2 * (c * one) = c * (2 * one) := by ring
      _ ≤ c * 10 ^ 400 := by
        apply Nat.mul_le_mul_left
        exact htiny.le
      _ < _ := by
        apply Nat.mul_lt_mul_of_pos_right hfew
        apply Nat.pow_pos
        decide
  omega

theorem Rounds.eq_zero {rank den : Nat} (hpositive : 0 < den) (h : Rounds rank 0 den) : rank = 0 :=
  h.unique hpositive ⟨by simp, by simp, by simp⟩

/-- A decimal number is read as the number that it rounds to. -/
theorem ofDecimal_of_rounds {negative : Bool} {c : Nat} {k : Int} {rank : Fin (2047 * Nat.pow 2 52)}
    (h : Rounds rank (decimalNum c k) (decimalDen k)) :
    ofDecimal negative c k = .finite negative rank := by
  have hvanished (hnothing : rank.val = 0) :
      Binary64.finite negative ⟨0, by decide⟩ = .finite negative rank := by
    congr 1
    exact Fin.ext hnothing.symm
  unfold ofDecimal
  split
  · rename_i hzero
    subst hzero
    rw [decimalNum, Nat.zero_mul, Nat.zero_mul] at h
    exact hvanished (h.eq_zero (decimalDen_pos k))
  · rename_i hnonzero
    rw [if_neg (Int.not_lt.2 (h.exponent_le hnonzero rank.isLt))]
    split
    · rename_i hsmall
      refine hvanished (Nat.eq_zero_of_not_pos fun hpositive => ?_)
      exact absurd (h.le_exponent hpositive) (Int.not_le.2 hsmall)
    · split
      · rw [decimalDen_of_nonneg (by omega)] at h
        exact ofQuotient_of_rounds Nat.one_pos h
      · rw [decimalNum_of_nonpos (by omega)] at h
        exact ofQuotient_of_rounds (decimalDen_pos k) h

/-! ## The shortest digits -/

theorem rounds_of_onGrid? {rank c : Nat} {k : Int} (h : onGrid? rank k = some c) :
    Rounds rank (decimalNum c k) (decimalDen k) := by
  rw [← roundsTo_iff]
  unfold onGrid? at h
  dsimp only at h
  generalize magnitude rank * Nat.pow 10 (-k).toNat / (one * Nat.pow 10 k.toNat) = below at h
  cases hfirst : roundsTo rank below k with
  | true =>
    cases hsecond : roundsTo rank (below + 1) k with
    | true =>
      rw [hfirst, hsecond] at h
      dsimp only at h
      split at h
      · exact Option.some.inj h ▸ hfirst
      · exact Option.some.inj h ▸ hsecond
    | false =>
      rw [hfirst, hsecond] at h
      exact Option.some.inj h ▸ hfirst
  | false =>
    cases hsecond : roundsTo rank (below + 1) k with
    | true =>
      rw [hfirst, hsecond] at h
      exact Option.some.inj h ▸ hsecond
    | false =>
      rw [hfirst, hsecond] at h
      cases h

/-- A magnitude is a decimal number with as many places as a unit has. -/
theorem rounds_magnitude_decimal (rank : Nat) {places : Nat} (hunit : one = 2 ^ places) {k : Int}
    (hexponent : k = -(places : Int)) :
    Rounds rank (decimalNum (magnitude rank * Nat.pow 5 places) k) (decimalDen k) := by
  subst hexponent
  have hparts : decimalNum (magnitude rank * Nat.pow 5 places) (-places) =
      magnitude rank * decimalDen (-places) := by
    rw [decimalNum_of_nonpos (by omega), decimalDen, Int.neg_neg, Int.toNat_natCast, hunit,
      Nat.mul_assoc, Nat.pow_eq, Nat.pow_eq, ← Nat.mul_pow]
  rw [hparts]
  exact rounds_magnitude (decimalDen_pos _)

/-- Whichever grid the search ends on, what it finds rounds to the rank. -/
theorem rounds_searchGrids (rank : Nat) (k : Int) (steps : Nat) :
    Rounds rank (decimalNum (searchGrids rank k steps).digits (searchGrids rank k steps).exponent)
      (decimalDen (searchGrids rank k steps).exponent) := by
  induction steps generalizing k with
  | zero =>
    have hexhausted := rounds_magnitude_decimal rank one_eq (k := -1074) rfl
    simp only [searchGrids]
    exact hexhausted
  | succ steps ih =>
    rw [searchGrids]
    cases hfound : onGrid? rank k with
    | none => exact ih (k - 1)
    | some c => exact rounds_of_onGrid? hfound

/-- The shortest digits of a number round to it. -/
theorem rounds_shortest (rank : Nat) :
    Rounds rank (decimalNum (shortest rank).digits (shortest rank).exponent)
      (decimalDen (shortest rank).exponent) :=
  rounds_searchGrids rank _ _

end Binary64

end InstanceIdentity
