import InstanceIdentity.Proofs.Binary64.Decimal

/-!
# How many digits a number needs

The search for the shortest digits goes from coarse grids of powers of ten to finer ones.  A grid that is
no coarser than half the distance to the next lower number has a multiple that rounds to the number, so
the search ends on the first such grid at the latest.  The digits are then bounded by the ratio between a
number and that distance, which is `2 ^ 53` at most, and fit into a word of 64 bits.

Main results:

- Theorem `Binary64.onGrid?_ne_none`: a fine grid has a multiple that rounds to the number.
- Theorem `Binary64.digits_shortest_le`: the shortest digits are below `10 * 2 ^ 54`.
- Theorems `Binary64.le_exponent_shortest`, `Binary64.exponent_shortest_le`: the power of ten of a
  finite number is from `10 ^ (-1074)` to `10 ^ 308`.
-/

namespace InstanceIdentity

namespace Binary64

/-! ## Distances -/

/-- The distance to the next lower number. -/
def spacing (rank : Nat) : Nat := magnitude rank - magnitude (rank - 1)

/-- A positive rank and its predecessor have one exponent. -/
theorem exists_rankOf_succ {rank : Nat} (hpositive : 0 < rank) :
    ∃ s m, rank = rankOf s (m + 1) ∧ Normal s (m + 1) ∧ (s = 0 ∨ 2 ^ 52 ≤ m) := by
  obtain ⟨s, m, hparts, ⟨hfull, -⟩, hbelow⟩ := exists_rankOf rank
  unfold rankOf at *
  by_cases hleast : s = 0
  · subst hleast
    refine ⟨0, m - 1, ?_, ⟨.inl rfl, ?_⟩, .inl rfl⟩ <;> omega
  · rcases Nat.lt_or_eq_of_le (hfull.resolve_left hleast) with hinner | hlowest
    · refine ⟨s, m - 1, ?_, ⟨.inr ?_, ?_⟩, .inr ?_⟩ <;> omega
    · -- the least significand of an exponent is the greatest of the one before
      obtain ⟨last, hgreatest⟩ := Nat.exists_eq_add_one.2 (Nat.two_pow_pos 53)
      obtain ⟨s, rfl⟩ := Nat.exists_eq_add_one_of_ne_zero hleast
      refine ⟨s, last, ?_, ⟨.inr ?_, ?_⟩, .inr ?_⟩
      · rw [hparts, ← hlowest, ← hgreatest]
        ring
      · omega
      · omega
      · omega

/-- A number is at most `2 ^ 53` distances, and at least `2 ^ 52` unless it is very small. -/
theorem magnitude_spacing {rank : Nat} (hpositive : 0 < rank) :
    magnitude rank ≤ 2 ^ 53 * spacing rank ∧ (2 ^ 52 ≤ rank →
      2 ^ 52 * spacing rank ≤ magnitude rank) := by
  obtain ⟨s, m, rfl, hnormal, hinner⟩ := exists_rankOf_succ hpositive
  have hapart : spacing (rankOf s (m + 1)) = 2 ^ s := by
    unfold spacing
    rw [magnitude_pred hnormal hinner, magnitude_scaled hnormal, Nat.succ_mul m (2 ^ s),
      Nat.add_sub_cancel_left]
  rw [hapart, magnitude_scaled hnormal]
  refine ⟨Nat.mul_le_mul_right _ hnormal.bounded, fun hlarge => ?_⟩
  have hfull : 2 ^ 52 ≤ m + 1 := by
    rcases hinner with rfl | hinner
    · rwa [rankOf, Nat.zero_mul, Nat.zero_add] at hlarge
    · exact Nat.le_succ_of_le hinner
  exact Nat.mul_le_mul_right _ hfull

theorem spacing_pos {rank : Nat} (hpositive : 0 < rank) : 0 < spacing rank :=
  Nat.sub_pos_of_lt (magnitude_strictMono (by omega))

theorem magnitude_pred_add_spacing {rank : Nat} :
    magnitude (rank - 1) + spacing rank = magnitude rank :=
  Nat.add_sub_cancel' (magnitude_strictMono.monotone (Nat.sub_le _ _))

/-! ## Grids -/

theorem decimalNum_eq (c : Nat) (k : Int) : decimalNum c k = c * decimalNum 1 k := by
  unfold decimalNum
  ring

theorem decimalNum_pos (k : Int) : 0 < decimalNum 1 k := by
  unfold decimalNum
  rw [Nat.one_mul]
  exact Nat.mul_pos (Nat.pow_pos (by decide)) one_pos

/-- One grid is ten times as coarse as the next. -/
theorem decimal_succ (k : Int) :
    decimalNum 1 (k + 1) * decimalDen k = 10 * (decimalNum 1 k * decimalDen (k + 1)) := by
  have hpowers : 10 ^ (k + 1).toNat * 10 ^ (-k).toNat = 10 * (10 ^ k.toNat * 10 ^ (-(k + 1)).toNat) := by
    rcases Int.lt_or_le k 0 with hnegative | hnonneg
    · have this : (-k).toNat = (-(k + 1)).toNat + 1 := by omega
      rw [this, Int.toNat_of_nonpos (by omega : k + 1 ≤ 0), Int.toNat_of_nonpos (by omega : k ≤ 0)]
      ring
    · have this : (k + 1).toNat = k.toNat + 1 := by omega
      rw [this, Int.toNat_of_nonpos (by omega : -k ≤ 0), Int.toNat_of_nonpos (by omega : -(k + 1) ≤ 0)]
      ring
  unfold decimalNum decimalDen
  simp only [Nat.pow_eq]
  calc 1 * 10 ^ (k + 1).toNat * one * 10 ^ (-k).toNat
      = 10 ^ (k + 1).toNat * 10 ^ (-k).toNat * one := by ring
    _ = _ := by
      rw [hpowers]
      ring

/-- The multiples of `10 ^ k` are further apart than half the distance to the next lower number. -/
def Coarse (rank : Nat) (k : Int) : Prop := spacing rank * decimalDen k < 2 * decimalNum 1 k

/-- A fine grid has a multiple that rounds to the number. -/
theorem onGrid?_ne_none {rank : Nat} {k : Int} (hfine : ¬ Coarse rank k) : onGrid? rank k ≠ none := by
  have hstep := decimalNum_pos k
  have hparts : one * Nat.pow 10 k.toNat = decimalNum 1 k := by
    unfold decimalNum
    ring
  have hsides : (magnitude (rank - 1) + spacing rank) * decimalDen k =
    magnitude rank * decimalDen k := by
    rw [magnitude_pred_add_spacing]
  have hlarger : magnitude rank * decimalDen k < magnitude (rank + 1) * decimalDen k :=
    Nat.mul_lt_mul_of_pos_right (magnitude_strictMono (Nat.lt_succ_self rank)) (decimalDen_pos k)
  have hbelow := Nat.div_add_mod' (magnitude rank * decimalDen k) (decimalNum 1 k)
  have hrest := Nat.mod_lt (magnitude rank * decimalDen k) hstep
  unfold Coarse at hfine
  rw [Nat.add_mul] at hsides
  have hnearest : roundsTo rank (magnitude rank * decimalDen k / decimalNum 1 k) k = true := by
    rw [roundsTo_iff, decimalNum_eq]
    refine ⟨?_, ?_, fun _ => ⟨?_, ?_⟩⟩ <;> rw [Nat.add_mul] <;> omega
  unfold onGrid?
  dsimp only
  rw [hparts]
  change roundsTo rank (magnitude rank * Nat.pow 10 (-k).toNat / decimalNum 1 k) k = true at hnearest
  rw [hnearest]
  split
  · split <;> exact Option.some_ne_none _
  · exact Option.some_ne_none _
  · rename_i hnever _
    cases hnever
  · rename_i hnever _
    cases hnever

theorem onGrid?_le {rank c : Nat} {k : Int} (h : onGrid? rank k = some c) :
    c ≤ magnitude rank * decimalDen k / decimalNum 1 k + 1 := by
  have hparts : one * Nat.pow 10 k.toNat = decimalNum 1 k := by
    unfold decimalNum
    ring
  unfold onGrid? at h
  dsimp only at h
  rw [hparts] at h
  change _ ≤ magnitude rank * Nat.pow 10 (-k).toNat / decimalNum 1 k + 1
  split at h
  · split at h <;> cases h <;> omega
  · cases h
    omega
  · cases h
    omega
  · cases h

/-- On the grid below a coarse one a number has at most 18 digits. -/
theorem digits_le_of_coarse {rank c : Nat} {k : Int} (hpositive : 0 < rank)
    (hcoarse : Coarse rank (k + 1))
    (h : onGrid? rank k = some c) : c ≤ 10 * 2 ^ 54 := by
  have hfew : magnitude rank * decimalDen k / decimalNum 1 k < 10 * 2 ^ 54 := by
    rw [Nat.div_lt_iff_lt_mul (decimalNum_pos k)]
    refine Nat.lt_of_mul_lt_mul_right (a := decimalDen (k + 1)) ?_
    calc magnitude rank * decimalDen k * decimalDen (k + 1)
        ≤ 2 ^ 53 * spacing rank * decimalDen k * decimalDen (k + 1) :=
          Nat.mul_le_mul_right _ (Nat.mul_le_mul_right _ (magnitude_spacing hpositive).1)
      _ = 2 ^ 53 * decimalDen k * (spacing rank * decimalDen (k + 1)) := by ring
      _ < 2 ^ 53 * decimalDen k * (2 * decimalNum 1 (k + 1)) :=
          Nat.mul_lt_mul_of_pos_left hcoarse (Nat.mul_pos (by omega) (decimalDen_pos k))
      _ = 2 ^ 54 * (decimalNum 1 (k + 1) * decimalDen k) := by ring
      _ = 10 * 2 ^ 54 * decimalNum 1 k * decimalDen (k + 1) := by
          rw [decimal_succ]
          ring
  have := onGrid?_le h
  omega

/-! ## The search -/

/-- The finest grid of the search is not coarse. -/
theorem not_coarse_finest {rank : Nat} (hpositive : 0 < rank) {k : Int} (hfinest : k ≤ -1073) :
    ¬ Coarse rank k := by
  intro hcoarse
  unfold Coarse at hcoarse
  rw [decimalNum_of_nonpos (by omega), Nat.one_mul] at hcoarse
  have hapart := spacing_pos hpositive
  have hmany : 2 * one < decimalDen k := by
    have hdouble : 2 * one = 2 ^ 1075 := by
      rw [one_eq, ← two_pow_mul (a := 1) (b := 1074) (c := 1075) rfl, Nat.pow_one]
    rw [hdouble]
    apply two_pow_lt_ten_pow
    omega
  have := Nat.le_mul_of_pos_left (decimalDen k) hapart
  omega

/-- The search that starts below a coarse grid ends with few digits. -/
theorem digits_searchGrids_le {rank : Nat} (hpositive : 0 < rank) {k : Int} {steps : Nat}
    (hall : k = steps - 1074) (hcoarse : Coarse rank (k + 1)) :
    (searchGrids rank k steps).digits ≤ 10 * 2 ^ 54 := by
  induction steps generalizing k with
  | zero => exact absurd hcoarse (not_coarse_finest hpositive (by omega))
  | succ steps ih =>
    rw [searchGrids]
    cases hfound : onGrid? rank k with
    | some c => exact digits_le_of_coarse hpositive hcoarse hfound
    | none =>
      refine ih (by omega) ?_
      rw [Int.sub_add_cancel]
      exact Classical.not_not.1 fun hfine => onGrid?_ne_none hfine hfound

/-- The search does not go beyond its finest grid. -/
theorem le_exponent_searchGrids {rank : Nat} {k : Int} {steps : Nat} (hall : k = steps - 1074) :
    -1074 ≤ (searchGrids rank k steps).exponent := by
  induction steps generalizing k with
  | zero => exact Int.le_refl _
  | succ steps ih =>
    rw [searchGrids]
    cases hfound : onGrid? rank k with
    | some c => exact show -1074 ≤ k by omega
    | none => exact ih (by omega)

/-- A power of ten that exceeds a power of two, from an approximation of their ratio. -/
theorem two_pow_lt_of_ratio {a b : Nat} (hpositive : 0 < a) (hratio : Nat.pow 2 a ≤ Nat.pow 10 b)
    (n : Nat) :
    2 ^ n < 10 ^ (n * b / a + 1) := by
  refine lt_of_pow_lt_pow_left₀ a (Nat.zero_le _) ?_
  have hless : b * n < (n * b / a + 1) * a := by
    rw [Nat.mul_comm b n]
    exact Nat.lt_mul_of_div_lt (Nat.lt_succ_self _) hpositive
  calc (2 ^ n) ^ a = (2 ^ a) ^ n := Nat.pow_right_comm 2 n a
    _ ≤ (10 ^ b) ^ n := Nat.pow_le_pow_left hratio n
    _ = 10 ^ (b * n) := (Nat.pow_mul ..).symm
    _ < 10 ^ ((n * b / a + 1) * a) := Nat.pow_lt_pow_right (by decide) hless
    _ = _ := Nat.pow_mul ..

/-- The logarithm of two is less than `0.30103`. -/
theorem two_pow_lt_ten_pow_of_log {n m : Nat} (h : n * 30103 / 100000 < m) : 2 ^ n < 10 ^ m := by
  have hpower : 2 ^ n < 10 ^ (n * 30103 / 100000 + 1) := by
    refine two_pow_lt_of_ratio (by omega) (Nat.le_of_ble_eq_true ?_) n
    decide +kernel
  exact hpower.trans_le (Nat.pow_le_pow_right (by decide) h)

theorem ten_pow_le_one {places : Nat} (h : places = 323) : 10 ^ places ≤ one := by
  refine Nat.le_of_ble_eq_true ?_
  subst h
  decide +kernel

/-- A power of ten in units, which are less than `10 ^ (-323)`. -/
theorem ten_pow_mul_decimalDen_le {n : Nat} {k : Int} (h : k = n - 323) :
    10 ^ n * decimalDen k ≤ decimalNum 1 k := by
  obtain ⟨places, hunit⟩ : ∃ places : Nat, places = 323 := ⟨323, rfl⟩
  have hpowers : 10 ^ n * 10 ^ (-k).toNat = 10 ^ k.toNat * 10 ^ places := by
    rw [← Nat.pow_add, ← Nat.pow_add]
    congr 1
    omega
  unfold decimalNum decimalDen
  simp only [Nat.pow_eq]
  rw [hpowers, Nat.one_mul]
  exact Nat.mul_le_mul_left _ (ten_pow_le_one hunit)

/-- The search starts on a coarse grid. -/
theorem coarse_start {rank n : Nat} {k : Int} (hbits : magnitude rank < 2 ^ n)
    (hstart : k = (n * 30103 / 100000 : Nat) + 1 - 323) : Coarse rank (k + 1) := by
  have hapart : spacing rank ≤ magnitude rank := Nat.sub_le _ _
  have hpower : 2 ^ n < 10 ^ (n * 30103 / 100000 + 2) := two_pow_lt_ten_pow_of_log (by omega)
  have hunits := ten_pow_mul_decimalDen_le (n := n * 30103 / 100000 + 2) (k := k + 1) (by omega)
  calc spacing rank * decimalDen (k + 1)
      < 10 ^ (n * 30103 / 100000 + 2) * decimalDen (k + 1) :=
        Nat.mul_lt_mul_of_pos_right (hapart.trans_lt (hbits.trans hpower)) (decimalDen_pos _)
    _ ≤ decimalNum 1 (k + 1) := hunits
    _ ≤ 2 * decimalNum 1 (k + 1) := Nat.le_mul_of_pos_left _ (by decide)

/-- The shortest digits are few. -/
theorem digits_shortest_le {rank : Nat} (hpositive : 0 < rank) :
    (shortest rank).digits ≤ 10 * 2 ^ 54 := by
  unfold shortest
  dsimp only
  generalize hstart : ((((magnitude rank).log2 + 1) * 30103 / 100000 : Nat) : Int) + 1 - 323 = k
  refine digits_searchGrids_le hpositive (by omega) ?_
  exact coarse_start Nat.lt_log2_self hstart.symm

theorem le_exponent_shortest (rank : Nat) : -1074 ≤ (shortest rank).exponent := by
  unfold shortest
  dsimp only
  generalize ((((magnitude rank).log2 + 1) * 30103 / 100000 : Nat) : Int) + 1 - 323 = k
  rcases Int.lt_or_le k (-1074) with hbelow | hwithin
  · rw [Int.toNat_of_nonpos (by omega), searchGrids]
  · exact le_exponent_searchGrids (by omega)

/-- The shortest digits are not zero. -/
theorem digits_shortest_pos {rank : Nat} (hpositive : 0 < rank) : 0 < (shortest rank).digits := by
  refine Nat.pos_of_ne_zero fun hzero => ?_
  have hrounds := rounds_shortest rank
  rw [hzero, decimalNum_eq, Nat.zero_mul] at hrounds
  exact absurd (hrounds.eq_zero (decimalDen_pos _)) (by omega)

/-- The power of ten of a finite number is bounded. -/
theorem exponent_shortest_le {rank : Nat} (hpositive : 0 < rank) (hfinite : rank < rankBound) :
    (shortest rank).exponent ≤ 308 := by
  by_contra hlarge
  have hhigh := (rounds_shortest rank).high
  have hsome := digits_shortest_pos hpositive
  generalize (shortest rank).exponent = k at *
  generalize (shortest rank).digits = c at *
  have hown : magnitude rank < 2 ^ 1024 * one := lt_rankBound_iff.1 hfinite
  have hnext : magnitude (rank + 1) ≤ 2 ^ 1024 * one := by
    rw [← magnitude_rankBound]
    exact magnitude_strictMono.monotone hfinite
  have hpower : 2 ^ 1024 < 10 ^ k.toNat := two_pow_lt_ten_pow_of_log (by omega)
  have hexceeds : 2 ^ 1024 * one ≤ decimalNum c k :=
    Nat.mul_le_mul_right one (hpower.le.trans (Nat.le_mul_of_pos_left _ hsome))
  rw [decimalDen_of_nonneg (by omega), Nat.mul_one] at hhigh
  omega

end Binary64

end InstanceIdentity
