import InstanceIdentity.Proofs.Binary64.Error
import InstanceIdentity.Proofs.Store.Seconds

/-!
# The drift of a time in a cache file

A number of nanoseconds is rounded to a number, divided by `10 ^ 9`, written in decimal digits, read,
multiplied by `10 ^ 9` and cut to an integer.  The digits are read as the number that they were written
for, so three roundings and a cut remain.  What comes back differs by at most one part in `2 ^ 51` and
one nanosecond, and that is far less than a millisecond for every instant.

Main results:

- Theorem `Binary64.truncate?_seconds`: what the roundings leave of a count of nanoseconds.
- Theorem `FileStore.decode_payload_near`: a token is read back with its secret and a close time.
-/

namespace InstanceIdentity

namespace Binary64

/-- The counts of nanoseconds that may come back for a count: three roundings and a cut away. -/
structure Comparable (count back : Nat) : Prop where
  low : (2 ^ 53 - 4) * count < (back + 1) * 2 ^ 53
  high : back * 2 ^ 53 ≤ (2 ^ 53 + 4) * count

/-- The whole part of what three roundings leave of a whole number. -/
theorem Near.comparable {units count : Nat} (h : Near 3 units (count * one) 1) :
    Comparable count (units / one) := by
  obtain ⟨hlow, hhigh⟩ := h.three
  rw [Nat.mul_one] at hlow hhigh
  have hwhole : units / one * one ≤ units := Nat.div_mul_le_self units one
  have hnext : units < (units / one + 1) * one := Nat.lt_mul_of_div_lt (Nat.lt_succ_self _) one_pos
  constructor
  · refine Nat.lt_of_mul_lt_mul_right (a := one) ?_
    calc (2 ^ 53 - 4) * count * one = (2 ^ 53 - 4) * (count * one) := Nat.mul_assoc _ _ _
      _ ≤ units * 2 ^ 53 := hlow
      _ < (units / one + 1) * one * 2 ^ 53 := Nat.mul_lt_mul_of_pos_right hnext (by decide)
      _ = (units / one + 1) * 2 ^ 53 * one := Nat.mul_right_comm _ _ _
  · refine Nat.le_of_mul_le_mul_right (c := one) ?_ one_pos
    calc units / one * 2 ^ 53 * one = units / one * one * 2 ^ 53 := Nat.mul_right_comm _ _ _
      _ ≤ units * 2 ^ 53 := Nat.mul_le_mul_right _ hwhole
      _ ≤ (2 ^ 53 + 4) * (count * one) := hhigh
      _ = (2 ^ 53 + 4) * count * one := (Nat.mul_assoc _ _ _).symm

/-- A whole number that is divided and multiplied again is rounded three times. -/
theorem exists_near_of_whole (negative : Bool) {count : Nat} (hpositive : 0 < count)
    (hbounded : count ≤ 2 ^ 69) :
    ∃ first second third : Fin (2047 * Nat.pow 2 52),
      ofQuotient negative (count * one) 1 = .finite negative first ∧
      (Binary64.finite negative first).scale 1 1000000000 = .finite negative second ∧
      (Binary64.finite negative second).scale 1000000000 1 = .finite negative third ∧
      Near 3 (magnitude third) (count * one) 1 := by
  have hlarge := le_whole hpositive
  obtain ⟨bound, hlimit⟩ := exists_finite_magnitude (m := 1) (e := 69) (by decide) (by decide)
  obtain ⟨top, hfar⟩ := exists_finite_magnitude (m := 1) (e := 99) (by decide) (by decide)
  rw [Nat.one_mul] at hlimit hfar
  have hinside : count * one ≤ magnitude bound * 1 := by
    rw [hlimit, Nat.mul_one]
    exact Nat.mul_le_mul_right one hbounded
  obtain ⟨first, hconverted, hrounds⟩ := exists_ofQuotient_of_le negative Nat.one_pos bound hinside
  have hnear := hrounds.near Nat.one_pos (by omega)
  have hsmall : magnitude first ≤ 2 ^ 69 * one := by
    rw [← hlimit]
    exact magnitude_strictMono.monotone (hrounds.le_of_le Nat.one_pos hinside)
  have hbillion : 0 < 1000000000 := by decide
  have hdown : magnitude first * 1 ≤ magnitude first * 1000000000 := Nat.mul_le_mul_left _ hbillion
  obtain ⟨second, hdivided, hrounds'⟩ := exists_ofQuotient_of_le negative hbillion first hdown
  have hnear' := hrounds'.near hbillion (by have := hnear.low; omega)
  have hsmaller : magnitude second ≤ magnitude first :=
    magnitude_strictMono.monotone (hrounds'.le_of_le hbillion hdown)
  have hup : magnitude second * 1000000000 ≤ magnitude top * 1 := by
    rw [hfar]
    omega
  obtain ⟨third, hmultiplied, hrounds''⟩ := exists_ofQuotient_of_le negative Nat.one_pos top hup
  have hnear'' := hrounds''.near Nat.one_pos (by have := hnear.low; have := hnear'.low; omega)
  refine ⟨first, second, third, hconverted, hdivided, hmultiplied, ?_⟩
  have hall := (hnear.trans hnear').trans hnear''
  refine Near.reduce hbillion ?_
  rwa [Nat.mul_one, Nat.mul_one] at hall

/-- What the roundings leave of a count of nanoseconds: seconds that are finite, and a count of the same
sign, three roundings and a cut away. -/
theorem truncate?_seconds {nanos : Int} (hnonzero : nanos ≠ 0) (hbounded : nanos.natAbs ≤ 2 ^ 69) :
    ((ofInt nanos).scale 1 1000000000).isFinite = true ∧
      ∃ back : Nat, (((ofInt nanos).scale 1 1000000000).scale 1000000000 1).truncate? =
          some (nanos.sign * back) ∧ Comparable nanos.natAbs back := by
  obtain ⟨first, second, third, hconverted, hdivided, hmultiplied, hnear⟩ :=
    exists_near_of_whole (decide (nanos < 0)) (Int.natAbs_pos.2 hnonzero) hbounded
  have hconverted : ofInt nanos = .finite (decide (nanos < 0)) first := hconverted
  rw [hconverted, hdivided, hmultiplied]
  refine ⟨rfl, magnitude third / one, ?_, hnear.comparable⟩
  rcases Int.lt_or_gt_of_ne hnonzero with hbelow | habove
  · rw [decide_eq_true hbelow, Int.sign_eq_neg_one_of_neg hbelow]
    change some (Int.tdiv (-(magnitude third : Int)) one) = _
    rw [Int.neg_tdiv, ← Int.ofNat_tdiv, Int.neg_one_mul]
  · rw [decide_eq_false (by omega), Int.sign_eq_one_of_pos habove, Int.one_mul]
    change some (Int.tdiv (magnitude third : Int) one) = _
    rw [← Int.ofNat_tdiv]

/-- The difference of a count that comes back. -/
theorem Comparable.distance_le {nanos : Int} {back : Nat} (hnonzero : nanos ≠ 0)
    (h : Comparable nanos.natAbs back) :
    (nanos.sign * back - nanos).natAbs ≤ nanos.natAbs / 2 ^ 51 + 1 := by
  obtain ⟨hlow, hhigh⟩ := h
  rcases Int.lt_or_gt_of_ne hnonzero with hbelow | habove
  · rw [Int.sign_eq_neg_one_of_neg hbelow]
    omega
  · rw [Int.sign_eq_one_of_pos habove]
    omega

end Binary64

namespace FileStore

/-- The bytes that a save writes for a token are read back as a token with the same secret, and with a
time that differs by at most one part in `2 ^ 51` and one nanosecond. -/
theorem decode_payload_near (store : FileStore) (token : CachedToken)
    (hinner : Instant.first + 1000000 ≤ token.createdAt.nanos ∧
      token.createdAt.nanos ≤ Instant.last - 1000000) :
    ∃ t : Instant, store.decode (payload token) = .ok ⟨token.secret, t⟩ ∧
      (t.nanos - token.createdAt.nanos).natAbs ≤ token.createdAt.nanos.natAbs / 2 ^ 51 + 1 := by
  rw [decode_payload]
  rcases eq_or_ne token.createdAt.nanos 0 with hzero | hnonzero
  · refine ⟨token.createdAt, CacheFile.recalled_of_whole ⟨0, by decide, by rw [hzero]; rfl⟩, ?_⟩
    rw [hzero]
    decide
  · unfold Instant.first Instant.last at hinner
    obtain ⟨hfinite, back, hcount, hcomparable⟩ :=
      Binary64.truncate?_seconds hnonzero (by omega)
    have hclose := hcomparable.distance_le hnonzero
    have hsupported : Instant.first ≤ token.createdAt.nanos.sign * back ∧
        token.createdAt.nanos.sign * back ≤ Instant.last := by
      unfold Instant.first Instant.last
      omega
    refine ⟨⟨_, hsupported⟩, ?_, hclose⟩
    have hnamed : (CacheFile.Time.text (CacheFile.timeText token.createdAt)).instant? =
        some ⟨_, hsupported⟩ :=
      CacheFile.instant?_eq_some_iff.2
        ⟨_, CacheFile.seconds?_eq_some_iff.1 (CacheFile.seconds?_text _), hfinite, hcount⟩
    unfold CacheFile.recalled
    rw [hnamed]
    rfl

/-- The last instant a millisecond inside the supported range. -/
def lastInside : Instant where
  nanos := Instant.last - 1000000
  supported := by
    unfold Instant.first Instant.last
    omega

/-- At that instant, with a secret that has to be escaped. -/
theorem decode_payload_near_last :
    let token : CachedToken := ⟨⟨"é\"\n"⟩, lastInside⟩
    (Instant.first + 1000000 ≤ token.createdAt.nanos ∧
        token.createdAt.nanos ≤ Instant.last - 1000000) ∧
      ∃ t : Instant, FileStore.decode ⟨"t.json", 7⟩ (payload token) = .ok ⟨token.secret, t⟩ ∧
        (t.nanos - token.createdAt.nanos).natAbs ≤ token.createdAt.nanos.natAbs / 2 ^ 51 + 1 := by
  intro token
  have hinside : Instant.first + 1000000 ≤ token.createdAt.nanos ∧
      token.createdAt.nanos ≤ Instant.last - 1000000 := by
    change Instant.first + 1000000 ≤ Instant.last - 1000000 ∧
      Instant.last - 1000000 ≤ Instant.last - 1000000
    unfold Instant.first Instant.last
    omega
  exact ⟨hinside, decode_payload_near ⟨"t.json", 7⟩ token hinside⟩

end FileStore

end InstanceIdentity
