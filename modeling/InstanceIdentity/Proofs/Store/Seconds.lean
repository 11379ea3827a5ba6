import InstanceIdentity.Proofs.Store.Payload
import InstanceIdentity.Proofs.Store.Timestamps

/-!
# Whole seconds in a cache file

The time of a cache file is a decimal number of seconds, which is the quotient of a number of nanoseconds
that was rounded twice, and it is multiplied again when it is read.  For whole seconds up to `4611686018`
nothing is lost on the way: `s * 10 ^ 9` is `s * 5 ^ 9` times a power of two, and `s * 5 ^ 9` has 53 bits.

Main results:

- Theorem `CacheFile.seconds?_text`: the text of a number is read as the number.
- Theorem `CacheFile.recalled_of_whole`: a token of a whole second is read back as it was.
-/

namespace InstanceIdentity

/-! ## Texts without blanks -/

namespace Text

/-- No character is blank. -/
def printed (cs : List Char) : Bool := cs.all fun c => !isBlank c

theorem dropWhile_isBlank {cs : List Char} (h : printed cs = true) : cs.dropWhile isBlank = cs := by
  cases cs with
  | nil => rfl
  | cons c rest =>
    have hfirst : isBlank c = false := by simpa using List.all_eq_true.1 h c List.mem_cons_self
    rw [List.dropWhile_cons, if_neg (by simp [hfirst])]

/-- A text without blanks has none at its ends. -/
theorem trimmed_eq {s : String} (h : printed s.toList = true) : trimmed s = s := by
  have hreversed : printed s.toList.reverse = true := List.all_reverse.trans h
  unfold trimmed
  rw [dropWhile_isBlank h, dropWhile_isBlank hreversed, List.reverse_reverse, String.ofList_toList]

theorem isBlank_of_isDigit {c : Char} (hdigit : c.isDigit = true) : isBlank c = false := by
  unfold Char.isDigit at hdigit
  rw [Bool.and_eq_true, decide_eq_true_eq, decide_eq_true_eq, ge_iff_le, UInt32.le_iff_toNat_le,
    UInt32.le_iff_toNat_le] at hdigit
  obtain ⟨hlow, hhigh⟩ := hdigit
  change 48 ≤ c.toNat at hlow
  change c.toNat ≤ 57 at hhigh
  unfold isBlank
  simp
  omega

end Text

namespace Binary64

theorem mem_positional {d : Decimal} {c : Char} (h : c ∈ d.positional) :
    c.isDigit = true ∨ c = '.' := by
  have hdigits : Digits (Nat.toDigits 10 d.digits) := digits_toDigits d.digits
  have hzeros (n : Nat) : Digits (List.replicate n '0') := digits_zeros n
  unfold Decimal.positional at h
  dsimp only at h
  split at h
  · exact .inl ((hdigits.append (hzeros _)) c h)
  · split at h
    · rcases List.mem_append.1 h with h | h
      · exact .inl (hdigits c (List.mem_of_mem_take h))
      · rcases List.mem_cons.1 h with h | h
        · exact .inr h
        · exact .inl (hdigits c (List.mem_of_mem_drop h))
    · rcases List.mem_cons.1 h with rfl | h
      · exact .inl rfl
      · rcases List.mem_cons.1 h with h | h
        · exact .inr h
        · exact .inl ((hzeros _).append hdigits c h)

theorem printed_positional (d : Decimal) : Text.printed d.positional = true := by
  refine List.all_eq_true.2 fun c h => ?_
  rcases mem_positional h with hdigit | rfl
  · rw [Text.isBlank_of_isDigit hdigit]
    rfl
  · rfl

/-- The text of a number has no blanks. -/
theorem printed_text (x : Binary64) : Text.printed x.text.toList = true := by
  cases x with
  | nan => rfl
  | infinite negative => cases negative <;> rfl
  | finite negative rank =>
    have hsign : Text.printed (if negative then ['-'] else []) = true := by cases negative <;> rfl
    rw [text, textBy_finite, String.toList_ofList, Text.printed, List.all_append, Bool.and_eq_true]
    refine ⟨hsign, ?_⟩
    split
    · rfl
    · exact printed_positional _

end Binary64

namespace CacheFile

/-! ## Times -/

/-- The text of a number is read as the number. -/
theorem seconds?_text (x : Binary64) : (Time.text x.text).seconds? = some x := by
  change Binary64.ofText? (Text.trimmed x.text) = some x
  rw [Text.trimmed_eq x.printed_text, Binary64.ofText?_text]

/-- A whole second that the time of a cache file can tell. -/
def WholeSecond (t : Instant) : Prop := ∃ s : Nat, s ≤ 4611686018 ∧ t.nanos = s * 1000000000

/-- The time of a whole second is read as it was. -/
theorem instant?_timeText {t : Instant} (hwhole : WholeSecond t) :
    (Time.text (timeText t)).instant? = some t := by
  obtain ⟨s, hbounded, hcount⟩ := id hwhole
  -- the nanoseconds and the seconds are both numbers, so neither the quotient nor the product is rounded
  obtain ⟨nanos, hofNanos⟩ := Binary64.exists_finite_magnitude (m := s * 5 ^ 9) (e := 9) (by omega)
    (by omega)
  obtain ⟨seconds, hofSeconds⟩ := Binary64.exists_finite_magnitude (m := s) (e := 0) (by omega)
    (by omega)
  have hpowers : s * 5 ^ 9 * 2 ^ 9 = s * 1000000000 := by ring
  rw [hpowers] at hofNanos
  rw [Nat.pow_zero, Nat.mul_one] at hofSeconds
  have hproduct : Binary64.magnitude nanos * 1 = Binary64.magnitude seconds * 1000000000 := by
    rw [hofNanos, hofSeconds, Nat.mul_one, Nat.mul_right_comm]
  have hwritten : timeText t = (Binary64.finite false seconds).text := by
    unfold timeText
    rw [hcount]
    have hconverted := Binary64.ofInt_of_magnitude hofNanos
    rw [Nat.cast_mul] at hconverted
    rw [← Binary64.scale_of_magnitude (by decide) hproduct, ← hconverted]
    rfl
  rw [hwritten, instant?_eq_some_iff]
  refine ⟨_, seconds?_eq_some_iff.1 (seconds?_text _), rfl, ?_⟩
  rw [Binary64.scale_of_magnitude (by decide) hproduct.symm,
    Binary64.truncate?_of_magnitude hofNanos, hcount,
    Nat.cast_mul]
  rfl

/-- A token of a whole second is read back as it was. -/
theorem recalled_of_whole {token : CachedToken} (hwhole : WholeSecond token.createdAt) :
    recalled token = .ok token := by
  unfold recalled
  rw [instant?_timeText hwhole]
  rfl

end CacheFile

end InstanceIdentity
