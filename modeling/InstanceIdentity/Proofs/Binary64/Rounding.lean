import InstanceIdentity.Proofs.Binary64.Magnitude
import Mathlib.Tactic.Linarith

/-!
# Rounding to the nearest

A quotient of units rounds to a rank when it lies between the middles to the neighbouring magnitudes,
and on a middle only when the rank is even.  This holds of exactly one rank, the one that rounding
computes, so that a magnitude rounds to its own rank and a number is told by any quotient near it.

Main results:

- Theorem `Binary64.rounds_nearestRank`: rounding finds a rank that the quotient rounds to.
- Theorem `Binary64.Rounds.unique`: there is only one.
- Theorem `Binary64.nearestRank_magnitude`: magnitudes are kept.
- Theorem `Binary64.ofQuotient_of_rounds`: a quotient becomes the number with that rank.
-/

namespace InstanceIdentity

namespace Binary64

/-! ## Rounding to a whole number -/

theorem roundHalfEven_cases (num den : Nat) :
    (roundHalfEven num den = num / den ∧
      (2 * (num % den) < den ∨ 2 * (num % den) = den ∧ num / den % 2 = 0)) ∨
    (roundHalfEven num den = num / den + 1 ∧
      (den < 2 * (num % den) ∨ 2 * (num % den) = den ∧ num / den % 2 = 1)) := by
  unfold roundHalfEven
  split
  · rename_i h
    exact .inl ⟨rfl, h⟩
  · rename_i h
    exact .inr ⟨rfl, by omega⟩

theorem div_le_roundHalfEven (num den : Nat) : num / den ≤ roundHalfEven num den := by
  rcases roundHalfEven_cases num den with ⟨h, -⟩ | ⟨h, -⟩ <;> omega

theorem roundHalfEven_le (num den : Nat) : roundHalfEven num den ≤ num / den + 1 := by
  rcases roundHalfEven_cases num den with ⟨h, -⟩ | ⟨h, -⟩ <;> omega

/-- The rounded quotient is at most one half away, and less than that when it is odd. -/
theorem roundHalfEven_near (num : Nat) {den : Nat} (hpositive : 0 < den) :
    2 * (roundHalfEven num den * den) ≤ 2 * num + den ∧
    2 * num ≤ 2 * (roundHalfEven num den * den) + den ∧
    (roundHalfEven num den % 2 = 1 →
      2 * (roundHalfEven num den * den) < 2 * num + den ∧
      2 * num < 2 * (roundHalfEven num den * den) + den) := by
  have hparts : num / den * den + num % den = num := Nat.div_add_mod' num den
  have hsmall : num % den < den := Nat.mod_lt _ hpositive
  rcases roundHalfEven_cases num den with ⟨h, hnearer⟩ | ⟨h, hnearer⟩
  · rw [h]
    omega
  · rw [h, Nat.succ_mul (num / den) den]
    omega

/-! ## Rounding to a rank -/

/-- A quotient of units rounds to a rank: it lies between the middles to the neighbours, and on a middle
only when the rank is even. -/
structure Rounds (rank num den : Nat) : Prop where
  low : (magnitude (rank - 1) + magnitude rank) * den ≤ 2 * num
  high : 2 * num ≤ (magnitude rank + magnitude (rank + 1)) * den
  odd : rank % 2 = 1 →
    (magnitude (rank - 1) + magnitude rank) * den < 2 * num ∧
      2 * num < (magnitude rank + magnitude (rank + 1)) * den

/-- The distance to the next rank is at least that of the exponent. -/
theorem le_magnitude_succ {s m : Nat} (h : Normal s m) :
    (m + 1) * 2 ^ s ≤ magnitude (rankOf s m + 1) := by
  rcases Nat.lt_or_eq_of_le h.bounded with hbelow | rfl
  · exact (magnitude_succ h hbelow).ge
  · have hlarger : rankOf s (2 ^ 53) + 1 = rankOf (s + 1) (2 ^ 52 + 1) := by
      unfold rankOf
      omega
    rw [hlarger, magnitude_scaled ⟨.inr (by omega), by omega⟩]
    have : (2 ^ 52 + 1) * 2 ^ (s + 1) = (2 ^ 53 + 2) * 2 ^ s := by ring
    rw [this]
    exact Nat.mul_le_mul_right _ (by omega)

/-- Below a significand that is not the least of its exponent the distance is that of the exponent. -/
theorem magnitude_pred {s m : Nat} (h : Normal s (m + 1)) (hinner : s = 0 ∨ 2 ^ 52 ≤ m) :
    magnitude (rankOf s (m + 1) - 1) = m * 2 ^ s := by
  have hprevious : rankOf s (m + 1) - 1 = rankOf s m := by
    unfold rankOf
    omega
  rw [hprevious, magnitude_scaled ⟨hinner, Nat.le_of_succ_le h.bounded⟩]

/-- A quotient rounds to a significand when it is near that many powers of two, and not below them when
the next lower numbers are closer. -/
theorem Rounds.of_near {s m num den : Nat} (h : Normal s m)
    (habove : 2 * (m * (den * 2 ^ s)) ≤ 2 * num + den * 2 ^ s)
    (hbelow : 2 * num ≤ 2 * (m * (den * 2 ^ s)) + den * 2 ^ s)
    (hodd : m % 2 = 1 → 2 * (m * (den * 2 ^ s)) < 2 * num + den * 2 ^ s ∧
      2 * num < 2 * (m * (den * 2 ^ s)) + den * 2 ^ s)
    (hleast : 0 < s → m = 2 ^ 52 → m * (den * 2 ^ s) ≤ num) : Rounds (rankOf s m) num den := by
  have hparity : rankOf s m % 2 = m % 2 := by
    unfold rankOf
    omega
  have hown : magnitude (rankOf s m) * den = m * (den * 2 ^ s) := by
    rw [magnitude_scaled h]
    ring
  have hnext : (m + 1) * (den * 2 ^ s) ≤ magnitude (rankOf s m + 1) * den := by
    have := Nat.mul_le_mul_right den (le_magnitude_succ h)
    calc (m + 1) * (den * 2 ^ s) = (m + 1) * 2 ^ s * den := by ring
      _ ≤ _ := this
  rw [Nat.succ_mul m (den * 2 ^ s)] at hnext
  have hlower : (magnitude (rankOf s m - 1) + magnitude (rankOf s m)) * den ≤ 2 * num ∧
      (m % 2 = 1 → (magnitude (rankOf s m - 1) + magnitude (rankOf s m)) * den < 2 * num) := by
    rw [Nat.add_mul, hown]
    by_cases hinner : 0 < m ∧ (s = 0 ∨ 2 ^ 52 < m)
    · obtain ⟨hpositive, hinner⟩ := hinner
      obtain ⟨m, rfl⟩ := Nat.exists_eq_add_one.2 hpositive
      have hprevious : magnitude (rankOf s (m + 1) - 1) * den = m * (den * 2 ^ s) := by
        rw [magnitude_pred h (hinner.imp_right Nat.le_of_lt_succ)]
        ring
      rw [hprevious]
      rw [Nat.succ_mul m (den * 2 ^ s)] at habove hodd ⊢
      omega
    · have hsorted : magnitude (rankOf s m - 1) * den ≤ m * (den * 2 ^ s) := by
        rw [← hown]
        exact Nat.mul_le_mul_right den (magnitude_strictMono.monotone (Nat.sub_le _ _))
      have hbounded := h.full
      rcases Nat.eq_zero_or_pos m with rfl | hpositive
      · have hnothing : 0 * (den * 2 ^ s) = 0 := Nat.zero_mul _
        omega
      · have := hleast (by omega) (by omega)
        omega
  rw [← hparity] at hodd hlower
  refine ⟨hlower.1, ?_, fun h => ⟨hlower.2 h, ?_⟩⟩
  · rw [Nat.add_mul, hown]
    omega
  · rw [Nat.add_mul, hown]
    have := (hodd h).2
    omega

/-- Rounding finds a rank that the quotient rounds to. -/
theorem rounds_nearestRank {num den : Nat} (hpositive : 0 < den) :
    Rounds (nearestRank num den) num den := by
  have hfound : nearestRank num den = rankOf ((num / den).log2 - 52)
      (roundHalfEven num (den * 2 ^ ((num / den).log2 - 52))) := rfl
  rw [hfound]
  generalize hexponent : (num / den).log2 - 52 = s
  have hspread : 0 < den * 2 ^ s := Nat.mul_pos hpositive (Nat.two_pow_pos s)
  have hquotient : num / (den * 2 ^ s) = num / den / 2 ^ s := (Nat.div_div_eq_div_mul _ _ _).symm
  have hbounded : num / (den * 2 ^ s) < 2 ^ 53 := by
    rw [hquotient, Nat.div_lt_iff_lt_mul (Nat.two_pow_pos s), ← Nat.pow_add]
    calc num / den < 2 ^ ((num / den).log2 + 1) := Nat.lt_log2_self
      _ ≤ 2 ^ (53 + s) := Nat.pow_le_pow_right (by omega) (by omega)
  have hfull : 0 < s → 2 ^ 52 ≤ num / (den * 2 ^ s) := by
    intro hlarge
    have hnonzero : num / den ≠ 0 := by
      intro h
      rw [h, Nat.log2_zero] at hexponent
      omega
    rw [hquotient, Nat.le_div_iff_mul_le (Nat.two_pow_pos s), ← Nat.pow_add]
    calc 2 ^ (52 + s) = 2 ^ (num / den).log2 := by congr 1; omega
      _ ≤ num / den := Nat.log2_self_le hnonzero
  have hlowest := div_le_roundHalfEven num (den * 2 ^ s)
  have hhighest := roundHalfEven_le num (den * 2 ^ s)
  obtain ⟨habove, hbelow, hodd⟩ := roundHalfEven_near num hspread
  refine .of_near ⟨?_, by omega⟩ habove hbelow hodd fun hlarge hleast => ?_
  · rcases Nat.eq_zero_or_pos s with hzero | hlarge
    · exact .inl hzero
    · exact .inr ((hfull hlarge).trans hlowest)
  · rw [hleast]
    exact (Nat.mul_le_mul_right _ (hfull hlarge)).trans (Nat.div_mul_le_self _ _)

/-- A quotient rounds to one rank only. -/
theorem Rounds.unique {r q num den : Nat} (hpositive : 0 < den) (hfirst : Rounds r num den)
    (hsecond : Rounds q num den) : r = q := by
  have hordered {r q : Nat} (hfirst : Rounds r num den) (hsecond : Rounds q num den) : ¬ r < q := by
    intro hless
    -- the middle above the lower rank is at most the middle below the higher one
    have hleft : magnitude r ≤ magnitude (q - 1) := magnitude_strictMono.monotone (by omega)
    have hright : magnitude (r + 1) ≤ magnitude q := magnitude_strictMono.monotone hless
    have hmiddles : (magnitude r + magnitude (r + 1)) * den ≤ (magnitude (q - 1) + magnitude q) * den :=
      Nat.mul_le_mul_right den (Nat.add_le_add hleft hright)
    have hhigh := hfirst.high
    have hlow := hsecond.low
    have hmet : magnitude r + magnitude (r + 1) = magnitude (q - 1) + magnitude q :=
      Nat.eq_of_mul_eq_mul_right hpositive (by omega)
    have hnext : r + 1 = q := magnitude_inj.1 (by omega)
    rcases Nat.mod_two_eq_zero_or_one r with heven | hodd
    · have := (hsecond.odd (by omega)).1
      omega
    · have := (hfirst.odd hodd).2
      omega
  exact Nat.le_antisymm (Nat.not_lt.1 (hordered hsecond hfirst)) (Nat.not_lt.1 (hordered hfirst hsecond))

theorem nearestRank_eq_iff {rank num den : Nat} (hpositive : 0 < den) :
    nearestRank num den = rank ↔ Rounds rank num den := by
  constructor
  · rintro rfl
    exact rounds_nearestRank hpositive
  · exact fun h => (rounds_nearestRank hpositive).unique hpositive h

/-- What is no more than a magnitude rounds to no higher rank. -/
theorem Rounds.le_of_le {q r num den : Nat} (hpositive : 0 < den) (h : Rounds q num den)
    (hbounded : num ≤ magnitude r * den) : q ≤ r := by
  by_contra hhigher
  have hleft : magnitude r ≤ magnitude (q - 1) := magnitude_strictMono.monotone (by omega)
  have hright : magnitude r < magnitude q := magnitude_strictMono (by omega)
  have hmiddle := Nat.mul_lt_mul_of_pos_right (Nat.add_lt_add_of_le_of_lt hleft hright) hpositive
  have hlow := h.low
  rw [Nat.add_mul] at hmiddle
  omega

/-- What is no less than a magnitude rounds to no lower rank. -/
theorem Rounds.le_of_ge {q r num den : Nat} (hpositive : 0 < den) (h : Rounds q num den)
    (hbounded : magnitude r * den ≤ num) : r ≤ q := by
  by_contra hlower
  have hleft : magnitude q < magnitude r := magnitude_strictMono (by omega)
  have hright : magnitude (q + 1) ≤ magnitude r := magnitude_strictMono.monotone (by omega)
  have hmiddle := Nat.mul_lt_mul_of_pos_right (Nat.add_lt_add_of_lt_of_le hleft hright) hpositive
  have hhigh := h.high
  rw [Nat.add_mul (magnitude r)] at hmiddle
  omega

/-- Magnitudes round to their own rank. -/
theorem rounds_magnitude {rank den : Nat} (hpositive : 0 < den) :
    Rounds rank (magnitude rank * den) den := by
  have hbelow : magnitude (rank - 1) ≤ magnitude rank := magnitude_strictMono.monotone (Nat.sub_le _ _)
  have habove : magnitude rank < magnitude (rank + 1) := magnitude_strictMono (Nat.lt_succ_self rank)
  have htwice : 2 * (magnitude rank * den) = (magnitude rank + magnitude rank) * den := by ring
  refine ⟨?_, ?_, fun hodd => ⟨?_, ?_⟩⟩ <;> rw [htwice]
  · exact Nat.mul_le_mul_right den (Nat.add_le_add_right hbelow _)
  · exact Nat.mul_le_mul_right den (Nat.add_le_add_left habove.le _)
  · have hstrict : magnitude (rank - 1) < magnitude rank := magnitude_strictMono (by omega)
    exact Nat.mul_lt_mul_of_pos_right (Nat.add_lt_add_right hstrict _) hpositive
  · exact Nat.mul_lt_mul_of_pos_right (Nat.add_lt_add_left habove _) hpositive

theorem nearestRank_magnitude {rank den : Nat} (hpositive : 0 < den) :
    nearestRank (magnitude rank * den) den = rank :=
  (nearestRank_eq_iff hpositive).2 (rounds_magnitude hpositive)

/-- Rounding depends on the quotient alone. -/
theorem rounds_mul_right {rank num den factor : Nat} (hpositive : 0 < factor) :
    Rounds rank (num * factor) (den * factor) ↔ Rounds rank num den := by
  have hscaled (units : Nat) : units * (den * factor) = units * den * factor := by ring
  have hdoubled : 2 * (num * factor) = 2 * num * factor := by ring
  constructor
  · rintro ⟨hlow, hhigh, hodd⟩
    rw [hscaled, hdoubled] at hlow hhigh
    simp only [hscaled, hdoubled, Nat.mul_lt_mul_right hpositive] at hodd
    exact ⟨Nat.le_of_mul_le_mul_right hlow hpositive, Nat.le_of_mul_le_mul_right hhigh hpositive, hodd⟩
  · rintro ⟨hlow, hhigh, hodd⟩
    refine ⟨?_, ?_, fun h => ⟨?_, ?_⟩⟩
    · rw [hscaled, hdoubled]
      exact Nat.mul_le_mul_right factor hlow
    · rw [hscaled, hdoubled]
      exact Nat.mul_le_mul_right factor hhigh
    · rw [hscaled, hdoubled]
      exact Nat.mul_lt_mul_of_pos_right (hodd h).1 hpositive
    · rw [hscaled, hdoubled]
      exact Nat.mul_lt_mul_of_pos_right (hodd h).2 hpositive

/-! ## Numbers -/

theorem two_pow_mul {a b c : Nat} (h : a + b = c) : 2 ^ a * 2 ^ b = 2 ^ c := by
  rw [← h, Nat.pow_add]

theorem pow_eq_two_pow {a b : Nat} (h : a = b) : Nat.pow 2 a = 2 ^ b := by
  subst h
  rfl

theorem one_eq : one = 2 ^ 1074 := by
  unfold one
  apply pow_eq_two_pow
  rfl

theorem one_pos : 0 < one := by
  rw [one_eq]
  apply Nat.two_pow_pos

/-- The first rank out of bounds has the magnitude `2 ^ 1024`. -/
theorem magnitude_rankBound : magnitude rankBound = 2 ^ 1024 * one := by
  have hparts : rankBound = rankOf 2046 (2 ^ 52) := by
    unfold rankBound rankOf
    simp only [Nat.pow_eq]
    omega
  rw [hparts, magnitude_scaled ⟨.inr (by omega), by omega⟩, one_eq, two_pow_mul (c := 2098) rfl,
    two_pow_mul (c := 2098) rfl]

theorem lt_rankBound_iff {rank : Nat} : rank < rankBound ↔ magnitude rank < 2 ^ 1024 * one := by
  rw [← magnitude_rankBound, magnitude_strictMono.lt_iff_lt]

/-- A number of 53 bits times a power of two that is not too large is the magnitude of a finite
number. -/
theorem exists_finite_magnitude {m e : Nat} (hbounded : m ≤ 2 ^ 53) (hsmall : e ≤ 970) :
    ∃ rank : Fin (2047 * Nat.pow 2 52), magnitude rank = m * 2 ^ e * one := by
  obtain ⟨places, hunit⟩ : ∃ places, one = 2 ^ places := ⟨1074, one_eq⟩
  obtain ⟨rank, h⟩ := exists_magnitude_eq hbounded (e + places)
  have hunits : magnitude rank = m * 2 ^ e * one := by
    rw [h, hunit, Nat.pow_add, Nat.mul_assoc]
  refine ⟨⟨rank, lt_rankBound_iff.2 ?_⟩, hunits⟩
  rw [hunits]
  refine Nat.mul_lt_mul_of_pos_right ?_ one_pos
  calc m * 2 ^ e ≤ 2 ^ 53 * 2 ^ e := Nat.mul_le_mul_right _ hbounded
    _ = 2 ^ (53 + e) := (Nat.pow_add ..).symm
    _ < 2 ^ 1024 := by
      apply Nat.pow_lt_pow_right (by decide)
      omega

/-- A quotient is rounded to the number with the rank that it rounds to. -/
theorem ofQuotient_of_rounds {negative : Bool} {num den : Nat} {rank : Fin (2047 * Nat.pow 2 52)}
    (hpositive : 0 < den) (h : Rounds rank num den) :
    ofQuotient negative num den = .finite negative rank := by
  unfold ofQuotient
  have hfound := (nearestRank_eq_iff hpositive).2 h
  rw [dif_pos (hfound ▸ rank.isLt)]
  congr 1
  exact Fin.ext hfound

/-- What is no more than a finite number is rounded to one. -/
theorem exists_ofQuotient_of_le (negative : Bool) {num den : Nat} (hpositive : 0 < den)
    (bound : Fin (2047 * Nat.pow 2 52)) (hbounded : num ≤ magnitude bound * den) :
    ∃ rank : Fin (2047 * Nat.pow 2 52),
      ofQuotient negative num den = .finite negative rank ∧ Rounds rank num den := by
  have hrounds : Rounds (nearestRank num den) num den := rounds_nearestRank hpositive
  have hfinite := Nat.lt_of_le_of_lt (hrounds.le_of_le hpositive hbounded) bound.isLt
  exact ⟨⟨_, hfinite⟩, ofQuotient_of_rounds hpositive hrounds, hrounds⟩

/-- Magnitudes in range are kept. -/
theorem ofQuotient_magnitude (negative : Bool) {rank den : Nat} (hpositive : 0 < den)
    (hfinite : rank < 2047 * Nat.pow 2 52) :
    ofQuotient negative (magnitude rank * den) den = .finite negative ⟨rank, hfinite⟩ :=
  ofQuotient_of_rounds hpositive (rounds_magnitude hpositive)

/-- A whole number that is a magnitude is kept. -/
theorem ofInt_of_magnitude {n : Nat} {rank : Fin (2047 * Nat.pow 2 52)}
    (h : magnitude rank = n * one) : ofInt n = .finite false rank := by
  have hkept := ofQuotient_magnitude false Nat.one_pos rank.isLt
  rw [Nat.mul_one, h] at hkept
  unfold ofInt
  rw [Int.natAbs_natCast, decide_eq_false (by omega)]
  exact hkept

/-- A product that is a magnitude is not rounded. -/
theorem scale_of_magnitude {negative : Bool} {num den : Nat} {rank product : Fin (2047 * Nat.pow 2 52)}
    (hpositive : 0 < den) (h : magnitude rank * num = magnitude product * den) :
    (Binary64.finite negative rank).scale num den = .finite negative product := by
  unfold scale
  dsimp only
  rw [h]
  exact ofQuotient_magnitude negative hpositive product.isLt

theorem truncate?_of_magnitude {n : Nat} {rank : Fin (2047 * Nat.pow 2 52)}
    (h : magnitude rank = n * one) : (Binary64.finite false rank).truncate? = some (n : Int) := by
  have hunits : (Binary64.finite false rank).truncate? = some (Int.tdiv (magnitude rank) one) := rfl
  rw [hunits, h, ← Int.ofNat_tdiv, Nat.mul_div_cancel _ one_pos]

end Binary64

end InstanceIdentity
