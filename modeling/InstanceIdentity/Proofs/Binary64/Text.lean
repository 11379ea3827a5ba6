import InstanceIdentity.Proofs.Binary64.Decimal
import InstanceIdentity.Text.Characters

/-!
# The text of a number is read back

In positional notation a number is a run of digits, or two runs with a point between them.  Whichever of
them it is, the digits that are read stand for the decimal number that was written, and this rounds to
the number.

Main results:

- Theorem `Binary64.readUnsigned?_positional`: what is read of a decimal number in positional notation.
- Theorem `Binary64.ofText?_text`: every number is read back from its text.
-/

namespace InstanceIdentity

namespace Binary64

/-! ## Reading digits -/

theorem isDigit_toDigits {n : Nat} {c : Char} (h : c ∈ Nat.toDigits 10 n) : c.isDigit = true :=
  Nat.isDigit_of_mem_toDigits (by decide) (by decide) h

/-- A run of digits is read up to what follows it. -/
theorem readDigits_append {ds : List Char} (rest : List Char)
    (hdigits : ∀ c ∈ ds, c.isDigit = true) (hstop : ∀ c ∈ rest.head?, c.isDigit = false)
    (acc count : Nat) :
    readDigits (ds ++ rest) acc count = (Nat.ofDigitChars 10 ds acc, count + ds.length, rest) := by
  induction ds generalizing acc count with
  | nil =>
    cases rest with
    | nil => rfl
    | cons c rest =>
      have : c.isDigit = false := hstop c rfl
      simp [readDigits, this]
  | cons d ds ih =>
    have hfirst : d.isDigit = true := hdigits d List.mem_cons_self
    rw [List.cons_append, readDigits, if_pos hfirst, ih fun c h => hdigits c (List.mem_cons_of_mem _ h),
      Nat.ofDigitChars_cons, List.length_cons, Nat.mul_comm acc 10]
    have hplace : '0'.toNat = 48 := rfl
    rw [hplace]
    congr 2
    omega

theorem ofDigitChars_zeros (ds : List Char) (acc zeros : Nat) :
    Nat.ofDigitChars 10 (ds ++ List.replicate zeros '0') acc =
      Nat.ofDigitChars 10 ds acc * 10 ^ zeros := by
  rw [Nat.ofDigitChars_append, Nat.ofDigitChars_replicate_zero, Nat.mul_comm]

theorem ofDigitChars_leading_zeros (ds : List Char) (zeros : Nat) :
    Nat.ofDigitChars 10 (List.replicate zeros '0' ++ ds) 0 = Nat.ofDigitChars 10 ds 0 := by
  rw [Nat.ofDigitChars_append, Nat.ofDigitChars_replicate_zero, Nat.mul_zero]

/-- All characters are decimal digits. -/
def Digits (ds : List Char) : Prop := ∀ c ∈ ds, c.isDigit = true

theorem digits_toDigits (n : Nat) : Digits (Nat.toDigits 10 n) := fun _ => isDigit_toDigits

theorem digits_zeros (zeros : Nat) : Digits (List.replicate zeros '0') := by
  intro c h
  rw [List.eq_of_mem_replicate h]
  rfl

theorem Digits.append {ds es : List Char} (hfirst : Digits ds) (hsecond : Digits es) :
    Digits (ds ++ es) := fun c h => (List.mem_append.1 h).elim (hfirst c) (hsecond c)

/-- What is read is a run of digits, as long as it can be. -/
theorem exists_readDigits (cs : List Char) (acc count : Nat) :
    ∃ ds rest, Digits ds ∧ (∀ c ∈ rest.head?, c.isDigit = false) ∧ cs = ds ++ rest ∧
      readDigits cs acc count = (Nat.ofDigitChars 10 ds acc, count + ds.length, rest) := by
  have hdigits : Digits (cs.takeWhile Char.isDigit) := List.all_eq_true.1 List.all_takeWhile
  have hstop : ∀ c ∈ (cs.dropWhile Char.isDigit).head?, c.isDigit = false := by
    intro c hfirst
    have hother := List.head?_dropWhile_not Char.isDigit cs
    rw [Option.mem_def.1 hfirst] at hother
    exact hother
  have hparts : cs = cs.takeWhile Char.isDigit ++ cs.dropWhile Char.isDigit :=
    List.takeWhile_append_dropWhile.symm
  refine ⟨_, _, hdigits, hstop, hparts, ?_⟩
  rw [← readDigits_append _ hdigits hstop, ← hparts]

theorem readUnsigned?_whole (negative : Bool) {ds : List Char} (hdigits : Digits ds) (hsome : ds ≠ []) :
    readUnsigned? negative ds = .some (ofDecimal negative (Nat.ofDigitChars 10 ds 0) 0) := by
  have hread := readDigits_append [] hdigits (by simp) 0 0
  rw [List.append_nil] at hread
  have hcount : 0 + ds.length + 0 ≠ 0 := by simpa using hsome
  simp only [readUnsigned?, hread, if_neg hcount]
  rfl

theorem readUnsigned?_point (negative : Bool) {ds es : List Char} (hwhole : Digits ds)
    (hfraction : Digits es) (hsome : ds ≠ []) :
    readUnsigned? negative (ds ++ '.' :: es) =
      .some (ofDecimal negative (Nat.ofDigitChars 10 (ds ++ es) 0) (-(es.length : Int))) := by
  have hfront := readDigits_append ('.' :: es) hwhole (by simp) 0 0
  have hback := readDigits_append [] hfraction (by simp) (Nat.ofDigitChars 10 ds 0) 0
  rw [List.append_nil] at hback
  have hcount : 0 + ds.length + (0 + es.length) ≠ 0 := by
    have := List.length_pos_iff.2 hsome
    omega
  simp only [readUnsigned?, hfront, hback, if_neg hcount, Nat.ofDigitChars_append]
  simp [readExponent?]

/-! ## Positional notation -/

/-- Two decimal numbers are the same quotient. -/
structure SameQuotient (c : Nat) (k : Int) (d : Decimal) : Prop where
  num : decimalNum c k = decimalNum d.digits d.exponent
  den : decimalDen k = decimalDen d.exponent

/-- A run of digits that is cut at a point. -/
theorem readUnsigned?_cut (negative : Bool) {ds : List Char} (hdigits : Digits ds) {places : Nat}
    (hinner : places < ds.length) :
    readUnsigned? negative (ds.take (ds.length - places) ++ '.' :: ds.drop (ds.length - places)) =
      some (ofDecimal negative (Nat.ofDigitChars 10 ds 0) (-(places : Int))) := by
  have hwhole : Digits (ds.take (ds.length - places)) := fun c h => hdigits c (List.mem_of_mem_take h)
  have hfraction : Digits (ds.drop (ds.length - places)) :=
    fun c h => hdigits c (List.mem_of_mem_drop h)
  have hleading : ds.take (ds.length - places) ≠ [] :=
    List.ne_nil_of_length_pos (by rw [List.length_take]; omega)
  have hcount : (ds.drop (ds.length - places)).length = places := by
    rw [List.length_drop]
    omega
  rw [readUnsigned?_point negative hwhole hfraction hleading, List.take_append_drop, hcount]

/-- A run of digits that stands far behind a point. -/
theorem readUnsigned?_behind (negative : Bool) {ds : List Char} (hdigits : Digits ds) {places : Nat}
    (houter : ds.length ≤ places) :
    readUnsigned? negative ('0' :: '.' :: (List.replicate (places - ds.length) '0' ++ ds)) =
      some (ofDecimal negative (Nat.ofDigitChars 10 ds 0) (-(places : Int))) := by
  have hfraction := (digits_zeros (places - ds.length)).append hdigits
  have hcount : (List.replicate (places - ds.length) '0' ++ ds).length = places := by
    rw [List.length_append, List.length_replicate]
    omega
  have hread := readUnsigned?_point negative (digits_zeros 1) hfraction (by simp)
  rw [Nat.ofDigitChars_append, hcount] at hread
  rw [← ofDigitChars_leading_zeros ds (places - ds.length)]
  exact hread

/-- The digits of a decimal number in positional notation stand for it. -/
theorem readUnsigned?_positional (negative : Bool) (d : Decimal) :
    ∃ c k, readUnsigned? negative d.positional = some (ofDecimal negative c k) ∧
      SameQuotient c k d := by
  have hdigits := digits_toDigits d.digits
  have hvalue := Nat.ofDigitChars_ten_toDigits (n := d.digits)
  have hsome := Nat.toDigits_ne_nil (n := d.digits) (b := 10)
  unfold Decimal.positional
  dsimp only
  generalize Nat.toDigits 10 d.digits = ds at hdigits hvalue hsome
  split
  · rename_i hwhole
    refine ⟨_, 0, readUnsigned?_whole negative (hdigits.append (digits_zeros _)) (by simp [hsome]),
      ?_, ?_⟩
    · rw [ofDigitChars_zeros, hvalue]
      simp [decimalNum]
    · rw [decimalDen_of_nonneg le_rfl, decimalDen_of_nonneg hwhole]
  · rename_i hfractional
    have hexponent : -((-d.exponent).toNat : Int) = d.exponent := by omega
    split
    · rename_i hinner
      have hread := readUnsigned?_cut negative hdigits hinner
      rw [hvalue, hexponent] at hread
      exact ⟨_, _, hread, rfl, rfl⟩
    · rename_i houter
      have hread := readUnsigned?_behind negative hdigits (Nat.not_lt.1 houter)
      rw [hvalue, hexponent] at hread
      exact ⟨_, _, hread, rfl, rfl⟩

/-! ## Whole texts -/

theorem positional_head (d : Decimal) : ∃ c rest, d.positional = c :: rest ∧ c.isDigit = true := by
  have hdigits := digits_toDigits d.digits
  have hsome := Nat.toDigits_ne_nil (n := d.digits) (b := 10)
  unfold Decimal.positional
  dsimp only
  generalize Nat.toDigits 10 d.digits = ds at hdigits hsome
  obtain ⟨c, rest, rfl⟩ := List.exists_cons_of_ne_nil hsome
  have hfirst : c.isDigit = true := hdigits c List.mem_cons_self
  split
  · exact ⟨c, _, rfl, hfirst⟩
  · split
    · rename_i hinner
      obtain ⟨places, h⟩ : ∃ n, (c :: rest).length - (-d.exponent).toNat = n + 1 :=
        Nat.exists_eq_add_one.2 (by omega)
      rw [h]
      exact ⟨c, _, rfl, hfirst⟩
    · exact ⟨'0', _, rfl, rfl⟩

theorem toLower_of_isDigit {c : Char} (hdigit : c.isDigit = true) : c.toLower = c := by
  unfold Char.isDigit at hdigit
  unfold Char.toLower
  rw [Bool.and_eq_true, decide_eq_true_eq, decide_eq_true_eq] at hdigit
  rw [dif_neg]
  rintro ⟨hlow, -⟩
  exact absurd (UInt32.le_trans hlow hdigit.2) (by decide)

theorem readSign_digit {c : Char} (hdigit : c.isDigit = true) (rest : List Char) :
    readSign (c :: rest) = (false, c :: rest) := by
  unfold readSign
  split
  · rename_i h
    cases h
    cases hdigit
  · rename_i h
    cases h
    cases hdigit
  · rfl

/-- A digit or a point begins no word. -/
theorem ofText?_of_readSign {c : Char} (hstart : c.isDigit = true ∨ c = '.') {text rest : List Char}
    {negative : Bool} (hsign : readSign text = (negative, c :: rest)) :
    ofText? (String.ofList text) = readUnsigned? negative (c :: rest) := by
  have hlower : c.toLower = c := by
    rcases hstart with hdigit | rfl
    · exact toLower_of_isDigit hdigit
    · rfl
  have hword {w : String} {x : Char} (hfirst : w.toList.head? = some x) (hother : c ≠ x) :
      (c :: rest).map Char.toLower ≠ w.toList := by
    intro h
    rw [← h, List.map_cons, hlower] at hfirst
    exact hother (Option.some.inj hfirst)
  have hletter {x : Char} (hnotDigit : x.isDigit = false) (hnotPoint : x ≠ '.') : c ≠ x := by
    rintro rfl
    exact hstart.elim (fun hdigit => Bool.false_ne_true (hnotDigit.symm.trans hdigit)) hnotPoint
  unfold ofText?
  rw [String.toList_ofList, hsign]
  dsimp only
  have hnotI : c ≠ 'i' := hletter rfl (by decide)
  rw [if_neg (not_or.2 ⟨hword rfl hnotI, hword rfl hnotI⟩), if_neg (hword rfl (hletter rfl (by decide)))]

theorem ofText?_digit {c : Char} (hdigit : c.isDigit = true) (rest : List Char) (negative : Bool) :
    ofText? (String.ofList ((if negative then ['-'] else []) ++ c :: rest)) =
      readUnsigned? negative (c :: rest) := by
  refine ofText?_of_readSign (.inl hdigit) ?_
  cases negative with
  | true => rfl
  | false => exact readSign_digit hdigit rest

/-- The text of a finite number in any notation. -/
theorem textBy_finite (notated : Decimal → List Char) (zeroText : String) (negative : Bool)
    (rank : Fin (2047 * Nat.pow 2 52)) :
    textBy notated zeroText (.finite negative rank) = String.ofList ((if negative then ['-'] else []) ++
      if rank.val = 0 then zeroText.toList else notated (shortest rank)) := by
  have hparts : textBy notated zeroText (.finite negative rank) =
      (if negative then "-" else "") ++
        if rank.val = 0 then zeroText else String.ofList (notated (shortest rank)) := rfl
  have hsign : (if negative then "-" else "") = String.ofList (if negative then ['-'] else []) := by
    cases negative <;> rfl
  rw [hparts, hsign, String.ofList_append]
  congr 1
  by_cases hzero : rank.val = 0
  · rw [if_pos hzero, if_pos hzero, String.ofList_toList]
  · rw [if_neg hzero, if_neg hzero]

/-- Every number is read back from its text. -/
theorem ofText?_text (x : Binary64) : ofText? x.text = some x := by
  cases x with
  | nan => rfl
  | infinite negative => cases negative <;> rfl
  | finite negative rank =>
    rw [text, textBy_finite]
    by_cases hzero : rank.val = 0
    · have hdigit : "0".toList = ['0'] := rfl
      rw [if_pos hzero, hdigit, ofText?_digit rfl]
      have hsame : rank = ⟨0, by decide⟩ := Fin.ext hzero
      rw [hsame]
      rfl
    · rw [if_neg hzero]
      obtain ⟨c, rest, hhead, hdigit⟩ := positional_head (shortest rank)
      obtain ⟨c', k, hread, hnum, hden⟩ := readUnsigned?_positional negative (shortest rank)
      rw [hhead] at hread ⊢
      have hrounds := rounds_shortest rank
      rw [← hnum, ← hden] at hrounds
      rw [ofText?_digit hdigit, hread, ofDecimal_of_rounds hrounds]

end Binary64

end InstanceIdentity
