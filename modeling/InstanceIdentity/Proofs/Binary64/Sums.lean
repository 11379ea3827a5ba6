import InstanceIdentity.Proofs.Binary64.Order
import InstanceIdentity.Proofs.Binary64.Rounding

/-!
# Sums of weights

Weights that are not negative add up to something that is not, and rounding does not lose them: a sum is
positive when one of its terms is, however small.

Main results:

- Theorem `Binary64.isPositive_add`: a sum is positive when one of its parts is.
- Theorem `Binary64.isPositive_sum`: so is a sum of many weights.
-/

namespace InstanceIdentity

namespace Binary64

variable {x y : Binary64}

/-- Every finite number of units rounds to a positive rank, unless there are none. -/
theorem nearestRank_pos {num : Nat} : 0 < nearestRank num 1 ↔ 0 < num := by
  have hrounds : Rounds (nearestRank num 1) num 1 := rounds_nearestRank Nat.one_pos
  constructor
  · intro hpositive
    have hlow := hrounds.low
    have hown : 0 < magnitude (nearestRank num 1) := magnitude_pos.2 hpositive
    omega
  · intro hpositive
    by_contra hnone
    have hhigh := hrounds.high
    have hleast : nearestRank num 1 = 0 := by omega
    rw [hleast] at hhigh
    have hnext : magnitude 1 = 1 := rfl
    rw [Nat.zero_add, magnitude_zero, hnext] at hhigh
    omega

theorem isPositive_ofQuotient {num : Nat} : (ofQuotient false num 1).isPositive = true ↔ 0 < num := by
  unfold ofQuotient
  split
  · simp [isPositive, nearestRank_pos]
  · rename_i hlarge
    have hsome : 0 < nearestRank num 1 := Nat.lt_of_lt_of_le (by decide) (Nat.not_lt.1 hlarge)
    exact iff_of_true rfl (nearestRank_pos.1 hsome)

theorem isPositive_ranked {rank : Fin (2047 * Nat.pow 2 52)} :
    (Binary64.finite false rank).isPositive = true ↔ 0 < rank.val :=
  decide_eq_true_iff

/-- Not negative: a magnitude, the negative zero, or infinity. -/
inductive Nonneg : Binary64 → Prop where
  | ranked (rank : Fin (2047 * Nat.pow 2 52)) : Nonneg (.finite false rank)
  | negativeZero : Nonneg (.finite true ⟨0, by decide⟩)
  | infinite : Nonneg (.infinite false)

/-- The numbers that are not negative are those from zero on. -/
theorem zero_le_iff : zero ≤ x ↔ x.Nonneg := by
  have horigin : zero.value? = some (.ofUnits 0) := rfl
  rcases x with ⟨negative, rank⟩ | negative | _
  · cases negative with
    | true =>
      rw [le_iff_of_values horigin rfl, Extended.ofUnits_le_ofUnits]
      constructor
      · intro hnonneg
        have hleast : rank.val = 0 := by
          by_contra hsome
          have := magnitude_pos.2 (Nat.pos_of_ne_zero hsome)
          omega
        obtain rfl : rank = ⟨0, by decide⟩ := Fin.ext hleast
        exact .negativeZero
      · rintro ⟨⟩
        exact Int.le_refl 0
    | false =>
      rw [le_iff_of_values horigin rfl, Extended.ofUnits_le_ofUnits]
      exact iff_of_true (Int.natCast_nonneg _) (.ranked rank)
  · cases negative with
    | true =>
      rw [le_iff_of_values horigin rfl]
      refine iff_of_false ?_ (by nofun)
      exact (WithBot.bot_lt_coe _).not_ge
    | false =>
      rw [le_iff_of_values horigin rfl]
      exact iff_of_true (Extended.ofUnits_lt_top 0).le .infinite
  · refine iff_of_false ?_ (by nofun)
    rintro ⟨a, b, -, h, -⟩
    cases h

/-- A finite number whose position is not below that of zero is not negative. -/
theorem zero_le_of_orderKey (hfinite : x.isFinite = true) (hkey : 0 ≤ x.orderKey) : zero ≤ x := by
  rcases x with ⟨_ | _, rank⟩ | negative | _
  · exact zero_le_iff.2 (.ranked rank)
  · have : (Binary64.finite true rank).orderKey = -(rank.val : Int) - 1 := rfl
    omega
  · cases hfinite
  · cases hfinite

theorem nonneg_ofQuotient (num : Nat) : (ofQuotient false num 1).Nonneg := by
  unfold ofQuotient
  split
  · exact .ranked _
  · exact .infinite

/-- Finite numbers are added by their magnitudes. -/
theorem finite_add (s t : Bool) (a b : Fin (2047 * Nat.pow 2 52)) :
    Binary64.finite s a + .finite t b = addFinite s (magnitude a) t (magnitude b) :=
  rfl

/-- Nothing is added by the negative zero. -/
theorem Nonneg.add_negativeZero (hnonneg : x.Nonneg) : x + .finite true ⟨0, by decide⟩ = x := by
  cases hnonneg with
  | negativeZero => rfl
  | infinite => rfl
  | ranked rank =>
    rw [finite_add, addFinite, if_neg Bool.false_ne_true, magnitude_zero]
    rcases Nat.eq_zero_or_pos rank.val with hleast | hpositive
    · obtain rfl : rank = ⟨0, by decide⟩ := Fin.ext hleast
      rfl
    · have hsome : 0 < magnitude rank := magnitude_pos.2 hpositive
      have hkept := ofQuotient_magnitude false Nat.one_pos rank.isLt
      rw [Nat.mul_one] at hkept
      rw [if_neg hsome.ne', if_pos hsome, Nat.sub_zero, hkept]

theorem infinite_add (hnonneg : x.Nonneg) : .infinite false + x = .infinite false := by
  cases hnonneg <;> rfl

protected theorem add_comm (x y : Binary64) : x + y = y + x := by
  change add x y = add y x
  have hfinite (s t : Bool) (a b : Nat) : addFinite s a t b = addFinite t b s a := by
    unfold addFinite
    grind
  rcases x with ⟨s, a⟩ | s | _ <;> rcases y with ⟨t, b⟩ | t | _ <;> simp only [add, hfinite]
  grind

/-- A sum of numbers that are not negative is not negative, and it is positive when one of them is. -/
theorem Nonneg.add (hfirst : x.Nonneg) (hsecond : y.Nonneg) :
    (x + y).Nonneg ∧ ((x + y).isPositive = true ↔ x.isPositive = true ∨ y.isPositive = true) := by
  cases hfirst with
  | negativeZero =>
    rw [Binary64.add_comm, hsecond.add_negativeZero]
    exact ⟨hsecond, (or_iff_right Bool.false_ne_true).symm⟩
  | infinite =>
    rw [infinite_add hsecond]
    exact ⟨.infinite, iff_of_true rfl (.inl rfl)⟩
  | ranked a =>
    cases hsecond with
    | negativeZero =>
      rw [(Nonneg.ranked a).add_negativeZero]
      exact ⟨.ranked a, (or_iff_left Bool.false_ne_true).symm⟩
    | infinite =>
      rw [Binary64.add_comm, infinite_add (.ranked a)]
      exact ⟨.infinite, iff_of_true rfl (.inr rfl)⟩
    | ranked b =>
      have hsum : Binary64.finite false a + .finite false b =
          ofQuotient false (magnitude a + magnitude b) 1 := by
        rw [finite_add, addFinite, if_pos rfl]
      rw [hsum, isPositive_ofQuotient, Nat.add_pos_iff_pos_or_pos, magnitude_pos, magnitude_pos,
        isPositive_ranked, isPositive_ranked]
      exact ⟨nonneg_ofQuotient _, Iff.rfl⟩

/-- A sum of weights, none of which is negative, is positive when one of them is. -/
theorem isPositive_foldl {weights : List Binary64} (hnonneg : ∀ weight ∈ weights, weight.Nonneg)
    {start : Binary64} (hbegins : start.Nonneg) :
    (weights.foldl (· + ·) start).isPositive = true ↔
      start.isPositive = true ∨ ∃ weight ∈ weights, weight.isPositive = true := by
  induction weights generalizing start with
  | nil => simp
  | cons weight rest ih =>
    have hsum := hbegins.add (hnonneg weight List.mem_cons_self)
    rw [List.foldl_cons, ih (fun other hmem => hnonneg other (List.mem_cons_of_mem _ hmem)) hsum.1,
      hsum.2,
      or_assoc, List.exists_mem_cons_iff]

theorem isPositive_sum {weights : List Binary64} (hnonneg : ∀ weight ∈ weights, weight.Nonneg) :
    (weights.foldl (· + ·) zero).isPositive = true ↔ ∃ weight ∈ weights, weight.isPositive = true := by
  have horigin : zero.Nonneg := .ranked _
  rw [isPositive_foldl hnonneg horigin]
  exact or_iff_right (by decide)

end Binary64

end InstanceIdentity
