import InstanceIdentity.Json.Scalar
import InstanceIdentity.Proofs.Binary64.Error

/-!
# What becomes of a number that is written and read

A number is written in JSON with its shortest digits, and read by rounding the digits, a power of ten and
their product or quotient.  Each rounding adds an error of at most one part in `2 ^ 53`, so that the number
that is read may be another one.  It is finite when the written one is, and the same when the digits and
the power of ten are numbers themselves.

Main results:

- Theorem `approximate_isFinite`: the digits of a finite number are read as a finite number.
- Theorem `approximate_of_exact`: digits of 53 bits and small powers of ten are read as the number that
  they round to.
- Theorems `Binary64.reread_isFinite`, `Binary64.reread_of_plain`: this of numbers that are written.
-/

namespace InstanceIdentity

open Binary64

namespace Json.Reader

/-! ## Powers of ten -/

theorem rounds_powerUnits (k : Nat) :
    Rounds (nearestRank (Nat.pow 10 k * one) 1) (Nat.pow 10 k * one) 1 :=
  rounds_nearestRank Nat.one_pos

/-- One is a magnitude. -/
theorem exists_magnitude_one : ∃ rank : Fin (2047 * Nat.pow 2 52), magnitude rank = one := by
  obtain ⟨rank, h⟩ := exists_finite_magnitude (m := 1) (e := 0) (by omega) (by omega)
  exact ⟨rank, by rw [h]; ring⟩

theorem one_le_powerUnits (k : Nat) : one ≤ powerUnits k := by
  obtain ⟨rank, hunit⟩ := exists_magnitude_one
  have hsome : 1 ≤ Nat.pow 10 k := Nat.pow_pos (by decide)
  have hlarger : magnitude rank * 1 ≤ Nat.pow 10 k * one := by
    rw [hunit, Nat.mul_one]
    exact Nat.le_mul_of_pos_left one hsome
  calc one = magnitude rank := hunit.symm
    _ ≤ powerUnits k :=
      magnitude_strictMono.monotone ((rounds_powerUnits k).le_of_ge Nat.one_pos hlarger)

/-- Powers of ten up to `10 ^ 22` are numbers. -/
theorem powerUnits_of_le {k : Nat} (hsmall : k ≤ 22) : powerUnits k = Nat.pow 10 k * one := by
  have hdigits : 5 ^ k ≤ 2 ^ 53 := (Nat.pow_le_pow_right (by decide) hsmall).trans (by decide)
  obtain ⟨rank, h⟩ := exists_finite_magnitude (e := k) hdigits (by omega)
  have hpower : magnitude rank = Nat.pow 10 k * one := by
    rw [h, Nat.pow_eq, ← Nat.mul_pow]
  have hkept : nearestRank (magnitude rank * 1) 1 = rank := nearestRank_magnitude Nat.one_pos
  rw [Nat.mul_one, hpower] at hkept
  unfold powerUnits
  rw [hkept, hpower]

/-! ## Errors -/

/-- Rounding a positive whole number up adds less than one part in `2 ^ 53`. -/
theorem magnitude_le_of_whole {rank n : Nat} (h : Rounds rank (n * one) 1) (hpositive : 0 < n) :
    magnitude rank * (2 ^ 53 - 1) ≤ 2 ^ 53 * (n * one) := by
  have herror := (h.near Nat.one_pos ((Nat.mul_one _).trans_le
    ((Nat.pow_le_pow_right (by decide) (by decide)).trans (le_whole hpositive)))).high
  rwa [Nat.mul_one, Nat.pow_one, Nat.pow_one] at herror

/-- The numbers at the end of the range are one distance apart. -/
theorem exists_magnitude_rankBound_sub :
    ∃ top, 0 < top ∧ ∀ j ≤ 2 ^ 52, magnitude (rankBound - j) = (2 ^ 53 - j) * top := by
  refine ⟨2 ^ 2045, Nat.two_pow_pos 2045, fun j h => ?_⟩
  have hparts : rankBound - j = rankOf 2045 (2 ^ 53 - j) := by
    unfold rankBound rankOf
    simp only [Nat.pow_eq]
    omega
  rw [hparts, magnitude_scaled ⟨.inr (by omega), by omega⟩]

/-- Two errors of one part in `2 ^ 53` do not bridge four numbers. -/
theorem two_errors {x : Nat} (hlarge : 5 ≤ x) :
    x ^ 2 * (2 * x - 5) < (2 * x - 1) * (x - 1) ^ 2 := by
  obtain ⟨y, rfl⟩ := Nat.exists_eq_add_of_le hlarge
  have hleft : 2 * (5 + y) - 5 = 2 * y + 5 := by omega
  have hright : 2 * (5 + y) - 1 = 2 * y + 9 := by omega
  have hfactor : 5 + y - 1 = y + 4 := by omega
  rw [hleft, hright, hfactor]
  nlinarith [Nat.zero_le y]

/-! ## Finite results -/

/-- The digits of a number are rounded to a finite one. -/
theorem exists_significand (negative : Bool) {digits : Nat} (hfew : digits < 2 ^ 64) :
    ∃ rank : Fin (2047 * Nat.pow 2 52),
      ofQuotient negative (digits * one) 1 = .finite negative rank ∧ Rounds rank (digits * one) 1 := by
  obtain ⟨bound, h⟩ := exists_finite_magnitude (m := 1) (e := 64) (by omega) (by omega)
  refine exists_ofQuotient_of_le negative Nat.one_pos bound ?_
  rw [h, Nat.mul_one, Nat.one_mul]
  exact Nat.mul_le_mul_right one hfew.le

/-- A quotient by a divisor that is no smaller is finite. -/
theorem scale_isFinite_of_le {x : Binary64} {num den : Nat} (hfinite : x.isFinite = true)
    (hpositive : 0 < den) (hsmaller : num ≤ den) : (x.scale num den).isFinite = true := by
  cases x with
  | finite negative rank =>
    obtain ⟨result, h, -⟩ := exists_ofQuotient_of_le negative hpositive rank
      (Nat.mul_le_mul_left (magnitude rank) hsmaller)
    unfold scale
    dsimp only
    rw [h]
    rfl
  | infinite negative => cases hfinite
  | nan => cases hfinite

/-- Four numbers below the end of the range a product of digits and a power of ten is finite. -/
theorem nearestRank_product_lt {rank s k : Nat} {r : Nat} (hbelow : rank + 2 < rankBound)
    (hpositive : 0 < s) (hrounds : Rounds rank (s * Nat.pow 10 k * one) 1)
    (hdigits : Rounds r (s * one) 1) :
    nearestRank (magnitude r * powerUnits k) one < rankBound := by
  by_contra hbeyond
  obtain ⟨top, hsome, hends⟩ := exists_magnitude_rankBound_sub
  have hnearest : Rounds (nearestRank (magnitude r * powerUnits k) one)
    (magnitude r * powerUnits k) one :=
    rounds_nearestRank Binary64.one_pos
  have hproduct := hnearest.low
  have hfirst := magnitude_le_of_whole hdigits hpositive
  have hsecond := magnitude_le_of_whole (rounds_powerUnits k) (Nat.pow_pos (by decide))
  change powerUnits k * (2 ^ 53 - 1) ≤ _ at hsecond
  have hhigh := hrounds.high
  rw [Nat.mul_one] at hhigh
  have hlower : magnitude rank + magnitude (rank + 1) ≤ (2 * 2 ^ 53 - 5) * top := by
    have hlast := magnitude_strictMono.monotone (by omega : rank ≤ rankBound - 3)
    have hnext := magnitude_strictMono.monotone (by omega : rank + 1 ≤ rankBound - 2)
    rw [hends _ (by omega)] at hlast hnext
    omega
  have hupper : (2 * 2 ^ 53 - 1) * top * one ≤ 2 * (magnitude r * powerUnits k) := by
    refine (Nat.mul_le_mul_right one ?_).trans hproduct
    have hlast := magnitude_strictMono.monotone
      (by omega : rankBound - 1 ≤ nearestRank (magnitude r * powerUnits k) one - 1)
    have hnext := magnitude_strictMono.monotone
      (by omega : rankBound - 0 ≤ nearestRank (magnitude r * powerUnits k) one)
    rw [hends _ (by omega)] at hlast hnext
    omega
  generalize magnitude r = significand at *
  generalize powerUnits k = power at *
  generalize Nat.pow 10 k = ten at *
  have hapart := two_errors (x := 2 ^ 53) (by omega)
  generalize (2 : Nat) ^ 53 = x at *
  -- twice the product lies above one middle, and twice what it is made of below another
  have hsqueezed : (2 * x - 1) * (x - 1) ^ 2 * (top * one) ≤ x ^ 2 * (2 * x - 5) * (top * one) :=
    calc (2 * x - 1) * (x - 1) ^ 2 * (top * one) = (2 * x - 1) * top * one * (x - 1) ^ 2 := by ring
      _ ≤ 2 * (significand * power) * (x - 1) ^ 2 := Nat.mul_le_mul_right _ hupper
      _ = 2 * ((significand * (x - 1)) * (power * (x - 1))) := by ring
      _ ≤ 2 * (x * (s * one) * (x * (ten * one))) := Nat.mul_le_mul_left _
        (Nat.mul_le_mul hfirst hsecond)
      _ = x ^ 2 * (2 * (s * ten * one)) * one := by ring
      _ ≤ x ^ 2 * ((2 * x - 5) * top) * one :=
        Nat.mul_le_mul_right _ (Nat.mul_le_mul_left _ (hhigh.trans hlower))
      _ = x ^ 2 * (2 * x - 5) * (top * one) := by ring
  exact absurd (Nat.le_of_mul_le_mul_right hsqueezed (Nat.mul_pos hsome Binary64.one_pos))
    (Nat.not_le.2 hapart)

/-- The last two finite numbers. -/
theorem rank_cases {rank : Nat} (hfinite : rank < rankBound) :
    rank + 2 < rankBound ∨ rank = 2047 * 2 ^ 52 - 2 ∨ rank = 2047 * 2 ^ 52 - 1 := by
  have hbound : rankBound = 2047 * 2 ^ 52 := rfl
  omega

theorem isFinite_ofQuotient {negative : Bool} {num den : Nat}
    (hfinite : nearestRank num den < rankBound) :
    (ofQuotient negative num den).isFinite = true := by
  have hparts : ofQuotient negative num den = .finite negative ⟨_, hfinite⟩ := dif_pos hfinite
  rw [hparts]
  rfl

/-- The digits of a finite number are read as a finite number, unless it is one of the last two. -/
theorem approximate_isFinite {negative : Bool} {rank s : Nat} {k : Int} (hpositive : 0 < s)
    (hfew : s < 2 ^ 64) (hsmall : k ≤ 308) (hbelow : rank + 2 < rankBound)
    (hrounds : Rounds rank (decimalNum s k) (decimalDen k)) :
    (approximate negative s k).isFinite = true := by
  obtain ⟨significand, hdigits, hnear⟩ := exists_significand negative hfew
  have hfinite : (Binary64.finite negative significand).isFinite = true := rfl
  have hdivided {x : Binary64} (hfinite : x.isFinite = true) (n : Nat) :
      (x.scale one (powerUnits n)).isFinite = true :=
    scale_isFinite_of_le hfinite (Binary64.one_pos.trans_le (one_le_powerUnits n)) (one_le_powerUnits n)
  unfold approximate
  rw [hdigits]
  dsimp only
  rw [if_neg (by omega)]
  split
  · rename_i hwhole
    rw [decimalDen_of_nonneg hwhole] at hrounds
    exact isFinite_ofQuotient (nearestRank_product_lt hbelow hpositive hrounds hnear)
  · split
    · exact hdivided hfinite _
    · split
      · exact hdivided (hdivided hfinite _) _
      · exact scale_isFinite_of_le hfinite (by decide) (by decide)

/-! ## Exact results -/

/-- Digits of 53 bits and small powers of ten are numbers, so that only the product or the quotient is
rounded. -/
theorem approximate_of_exact {negative : Bool} {rank : Fin (2047 * Nat.pow 2 52)} {s : Nat} {k : Int}
    (hshort : s ≤ 2 ^ 53) (hlow : -22 ≤ k) (hhigh : k ≤ 22)
    (hrounds : Rounds rank (decimalNum s k) (decimalDen k)) :
    approximate negative s k = .finite negative rank := by
  obtain ⟨significand, hdigits⟩ := exists_finite_magnitude (e := 0) hshort (by omega)
  rw [Nat.pow_zero, Nat.mul_one] at hdigits
  have hkept := ofQuotient_magnitude negative Nat.one_pos significand.isLt
  rw [Nat.mul_one, hdigits] at hkept
  unfold approximate
  rw [hkept]
  dsimp only
  rw [if_neg (by omega)]
  split
  · rename_i hwhole
    rw [decimalDen_of_nonneg hwhole] at hrounds
    have hproduct : magnitude significand * powerUnits k.toNat = decimalNum s k * one := by
      rw [powerUnits_of_le (by omega), hdigits, decimalNum]
      ring
    unfold scale
    dsimp only
    rw [hproduct]
    refine ofQuotient_of_rounds Binary64.one_pos ?_
    have hscaled := (rounds_mul_right Binary64.one_pos).2 hrounds
    rwa [Nat.one_mul] at hscaled
  · rename_i hfraction
    rw [decimalNum_of_nonpos (by omega)] at hrounds
    rw [if_pos (by omega)]
    unfold scale
    dsimp only
    rw [powerUnits_of_le (by omega), hdigits]
    refine ofQuotient_of_rounds (Nat.mul_pos (decimalDen_pos k) Binary64.one_pos) ?_
    exact (rounds_mul_right Binary64.one_pos).2 hrounds

end Json.Reader

/-! ## Numbers that are written -/

namespace Decimal

/-- The decimal number in pointed notation, with all digits that are written. -/
def spelled (d : Decimal) : Decimal :=
  if -5 ≤ d.leadingExponent ∧ d.leadingExponent ≤ 15 ∧ 0 ≤ d.exponent then
    ⟨d.digits * 10 ^ (d.exponent.toNat + 1), -1⟩
  else d

theorem rounds_spelled {d : Decimal} {rank : Nat} :
    Rounds rank (decimalNum d.spelled.digits d.spelled.exponent) (decimalDen d.spelled.exponent) ↔
      Rounds rank (decimalNum d.digits d.exponent) (decimalDen d.exponent) := by
  unfold spelled
  split
  · rename_i h
    rw [decimalDen_of_nonneg h.2.2]
    have htenth : decimalDen (-1) = 1 * 10 := rfl
    have hdigits : decimalNum (d.digits * 10 ^ (d.exponent.toNat + 1)) (-1) =
        decimalNum d.digits d.exponent * 10 := by
      rw [decimalNum_of_nonpos (by omega), decimalNum, Nat.pow_eq]
      ring
    rw [htenth, hdigits]
    exact rounds_mul_right (by decide)
  · rfl

theorem digits_spelled_pos {d : Decimal} (h : 0 < d.digits) : 0 < d.spelled.digits := by
  unfold spelled
  split
  · exact Nat.mul_pos h (Nat.pow_pos (by decide))
  · exact h

theorem exponent_spelled_le {d : Decimal} (h : d.exponent ≤ 308) : d.spelled.exponent ≤ 308 := by
  unfold spelled
  split
  · exact show (-1 : Int) ≤ 308 by decide
  · exact h

/-- The digits that are written fit into a word of 64 bits. -/
theorem digits_spelled_lt {d : Decimal} (h : d.digits ≤ 10 * 2 ^ 54) : d.spelled.digits < 2 ^ 64 := by
  unfold spelled
  split
  · rename_i hpositional
    unfold leadingExponent at hpositional
    have hlength := Nat.length_toDigits_pos (b := 10) (n := d.digits)
    have hdigits := (Nat.length_toDigits_le_iff (by decide) hlength).1 (Nat.le_refl _)
    calc d.digits * 10 ^ (d.exponent.toNat + 1)
        < 10 ^ (Nat.toDigits 10 d.digits).length * 10 ^ (d.exponent.toNat + 1) :=
          Nat.mul_lt_mul_of_pos_right hdigits (Nat.pow_pos (by decide))
      _ = 10 ^ ((Nat.toDigits 10 d.digits).length + (d.exponent.toNat + 1)) := (Nat.pow_add ..).symm
      _ ≤ 10 ^ 17 := Nat.pow_le_pow_right (by decide) (by omega)
      _ < 2 ^ 64 := by decide
  · exact Nat.lt_of_le_of_lt h (by decide)

end Decimal

namespace Binary64

/-- What a number becomes when it is written in JSON and read again. -/
def reread : Binary64 → Binary64
  | .finite negative rank =>
    if rank.val = 0 then .finite negative rank
    else Json.Reader.approximate negative (shortest rank).spelled.digits (shortest rank).spelled.exponent
  | x => x

theorem reread_finite (negative : Bool) (rank : Fin (2047 * Nat.pow 2 52)) :
    (Binary64.finite negative rank).reread = if rank.val = 0 then .finite negative rank
      else Json.Reader.approximate negative (shortest rank).spelled.digits
        (shortest rank).spelled.exponent :=
  rfl

/-- What is read for a finite number is finite. -/
theorem reread_isFinite {x : Binary64} (hfinite : x.isFinite = true) : x.reread.isFinite = true := by
  cases x with
  | finite negative rank =>
    rw [reread_finite]
    split
    · rfl
    · rename_i hnonzero
      have hpositive := Nat.pos_of_ne_zero hnonzero
      rcases Json.Reader.rank_cases rank.isLt with hbelow | hlast | hlast
      · exact Json.Reader.approximate_isFinite
          (Decimal.digits_spelled_pos (digits_shortest_pos hpositive))
          (Decimal.digits_spelled_lt (digits_shortest_le hpositive))
          (Decimal.exponent_spelled_le (exponent_shortest_le hpositive rank.isLt)) hbelow
          (Decimal.rounds_spelled.2 (rounds_shortest rank))
      · rw [hlast]
        cases negative <;> decide +kernel
      · rw [hlast]
        cases negative <;> decide +kernel
  | infinite negative => cases hfinite
  | nan => cases hfinite

/-- A number of 53 bits, and of a power of ten that is a number itself, in its shortest digits. -/
def Plain (x : Binary64) : Prop :=
  match x with
  | .finite _ rank => rank.val = 0 ∨ (shortest rank).spelled.digits ≤ 2 ^ 53 ∧
      -22 ≤ (shortest rank).spelled.exponent ∧ (shortest rank).spelled.exponent ≤ 22
  | _ => True

instance instDecidablePlain : (x : Binary64) → Decidable x.Plain
  | .finite _ _ => inferInstanceAs (Decidable (_ ∨ _ ∧ _ ∧ _))
  | .infinite _ => isTrue trivial
  | .nan => isTrue trivial

/-- A plain number is read as it was. -/
theorem reread_of_plain {x : Binary64} (hplain : x.Plain) : x.reread = x := by
  cases x with
  | finite negative rank =>
    rw [reread_finite]
    split
    · rfl
    · rename_i hnonzero
      obtain ⟨hshort, hlow, hhigh⟩ := hplain.resolve_left hnonzero
      exact Json.Reader.approximate_of_exact hshort hlow hhigh
        (Decimal.rounds_spelled.2 (rounds_shortest rank))
  | infinite negative => rfl
  | nan => rfl

end Binary64

end InstanceIdentity
