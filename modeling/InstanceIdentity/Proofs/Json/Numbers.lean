import InstanceIdentity.Proofs.Json.Approximation
import InstanceIdentity.Proofs.Json.Reading

/-!
# Reading numbers

A number is a run of digits, perhaps with a fraction and an exponent.  What is read of it are the first
digits, as many as fit into a word of 64 bits, and the power of ten of the last of them.  A number that
was written with so few digits is read by all of them.

Main results:

- Theorem `Json.Reader.reads_numeral`: every number of the grammar is read.
- Theorem `Json.Reader.denotes_pointed`: a decimal number in pointed notation is one.
- Theorems `Json.Reader.numeralValue_negative`, `Json.Reader.numeralValue_unsigned`: the values of
  numbers.
-/

namespace InstanceIdentity.Json.Reader

open Binary64 (Digits Exponential Sign digits_toDigits digits_zeros readDigits_append signedDigits)

variable {rest : List Char}

/-! ## Runs of digits -/

theorem reads_digitRun {ds : List Char} (hdigits : Digits ds) (hstop : Undigited rest) (start : Nat) :
    Reads (digitRun start) (ds ++ rest) (Nat.ofDigitChars 10 ds start, ds.length) rest := by
  intro place
  refine ⟨⟨place.line, place.column + ds.length⟩, ?_⟩
  have hread := readDigits_append rest hdigits hstop start 0
  rw [Nat.zero_add] at hread
  change (_, _) = _
  dsimp only
  rw [hread]

/-- The digits of a positive number start with another one than zero. -/
theorem head?_toDigits_ne {n : Nat} (hpositive : 0 < n) : (Nat.toDigits 10 n).head? ≠ some '0' := by
  induction n using Nat.base_induction 10 (by decide) with
  | single m hsmall =>
    rw [Nat.toDigits_of_lt_base hsmall]
    intro hzero
    have := Nat.digitChar_eq_zero.1 (Option.some.inj hzero)
    omega
  | digit m k hsmall hsome ih =>
    have hfront := Nat.toDigits_ne_nil (n := m) (b := 10)
    rw [← Nat.toDigits_append_toDigits (by decide) hsome hsmall]
    obtain ⟨c, ds, hparts⟩ := List.exists_cons_of_ne_nil hfront
    rw [hparts] at ih ⊢
    exact ih hsome

theorem leading_toDigits (n : Nat) : Leading (Nat.toDigits 10 n) := by
  rcases Nat.eq_zero_or_pos n with rfl | hpositive
  · exact .zero
  · have hdigits := digits_toDigits n
    have hnonzero := head?_toDigits_ne hpositive
    obtain ⟨c, ds, hparts⟩ := List.exists_cons_of_ne_nil (Nat.toDigits_ne_nil (n := n) (b := 10))
    rw [hparts] at hdigits hnonzero ⊢
    exact .run c ds hdigits fun hzero => hnonzero (by rw [hzero]; rfl)

theorem reads_wholePart {ds : List Char} (hleading : Leading ds) (hstop : Undigited rest)
    (atEnd : Cause) :
    Reads (wholePart atEnd) (ds ++ rest) (Nat.ofDigitChars 10 ds 0) rest := by
  unfold wholePart
  cases hleading with
  | zero =>
    apply Reads.peek
    simp only [List.cons_append, List.head?_cons, ↓reduceIte]
    apply Reads.skip
    apply Reads.peek
    rw [List.nil_append]
    cases rest with
    | nil => exact .pure 0 _
    | cons d rest =>
      have hother : d.isDigit = false := hstop d rfl
      simp only [List.head?_cons, hother, Bool.false_eq_true, ↓reduceIte]
      exact .pure 0 _
  | run c ds hdigits hnonzero =>
    have hdigit : c.isDigit = true := hdigits c List.mem_cons_self
    apply Reads.peek
    simp only [List.cons_append, List.head?_cons, if_neg hnonzero, hdigit, ↓reduceIte]
    exact .bind (reads_digitRun hdigits hstop 0) (.pure _ rest)

/-! ## Exponents -/

theorem le_ofDigitChars (ds : List Char) (acc : Nat) : acc ≤ Nat.ofDigitChars 10 ds acc := by
  rw [Nat.ofDigitChars_eq_ofDigitChars_zero]
  exact (Nat.le_mul_of_pos_left acc (Nat.pow_pos (by decide))).trans (Nat.le_add_right _ _)

/-- The digits of an exponent are all read, unless they pass the limit where that matters. -/
theorem exponentDigits_append {ds : List Char} (hdigits : Digits ds) (hstop : Undigited rest)
    {stopping : Bool} (place : Place) (acc : Nat)
    (hsmall : stopping = true → Nat.ofDigitChars 10 ds acc ≤ exponentLimit) :
    ∃ after, exponentDigits stopping place acc (ds ++ rest) =
      (Nat.ofDigitChars 10 ds acc, ⟨rest, after⟩) := by
  induction ds generalizing place acc with
  | nil =>
    refine ⟨place, ?_⟩
    cases rest with
    | nil => rfl
    | cons c rest =>
      have hother : c.isDigit = false := hstop c rfl
      simp [exponentDigits, hother]
  | cons d ds ih =>
    have hdigit : d.isDigit = true := hdigits d List.mem_cons_self
    have hnext : acc * 10 + digitValue d = 10 * acc + (d.toNat - '0'.toNat) := by
      have hvalue : digitValue d = d.toNat - '0'.toNat := rfl
      omega
    rw [Nat.ofDigitChars_cons, ← hnext] at hsmall ⊢
    have honward : ¬ (stopping && decide (exponentLimit < acc * 10 + digitValue d)) = true := by
      intro hpassed
      rw [Bool.and_eq_true, decide_eq_true_eq] at hpassed
      have := hsmall hpassed.1
      have := le_ofDigitChars ds (acc * 10 + digitValue d)
      omega
    rw [List.cons_append, exponentDigits, if_pos hdigit]
    simp only [if_neg honward]
    exact ih (fun c hmem => hdigits c (List.mem_cons_of_mem _ hmem)) _ _ hsmall

theorem reads_exponentSign {text ds : List Char} {negative : Bool}
    (hsign : Sign text negative (ds ++ rest)) (hdigits : Digits ds) (hnonempty : ds ≠ []) :
    Reads exponentSign text negative (ds ++ rest) := by
  unfold exponentSign
  apply Reads.peek
  cases hsign with
  | plus => exact .skip (.pure false _)
  | minus => exact .skip (.pure true _)
  | none =>
    obtain ⟨d, es, rfl⟩ := List.exists_cons_of_ne_nil hnonempty
    have hdigit : d.isDigit = true := hdigits d List.mem_cons_self
    rw [List.cons_append, List.head?_cons]
    split
    · rename_i hfound
      cases hfound
      cases hdigit
    · rename_i hfound
      cases hfound
      cases hdigit
    · exact .pure false _

/-- The exponent of a number that is read, of digits with a given value, has its limit; one that is passed
over has none. -/
def Limited (passing : Bool) (digits : Nat) (exponent : Option Int) : Prop :=
  passing = true ∨ (digits ≠ 0 → ∀ e ∈ exponent, e ≤ exponentLimit)

theorem reads_exponentValue {passing negative : Bool} (atEnd : Cause) {value : Nat} {ds : List Char}
    (hdigits : Digits ds) (hnonempty : ds ≠ []) (hlimited : Limited passing value
      (signedDigits negative ds))
    (hstop : Undigited rest) :
    Reads (exponentValue passing negative atEnd value) (ds ++ rest) (signedDigits negative ds) rest := by
  have hsmall (hstopping : (!passing && !negative && decide (value ≠ 0)) = true) :
      Nat.ofDigitChars 10 ds 0 ≤ exponentLimit := by
    rw [Bool.and_eq_true, Bool.and_eq_true, decide_eq_true_eq] at hstopping
    obtain ⟨⟨hnotPassing, hpositive⟩, hnonzero⟩ := hstopping
    rw [Bool.not_eq_true'] at hnotPassing hpositive
    have hlimit := hlimited.resolve_left (by simp [hnotPassing]) hnonzero _ rfl
    rw [signedDigits, hpositive] at hlimit
    exact Int.ofNat_le.1 hlimit
  have hrun : Reads (modifyGet fun cursor : Cursor =>
      exponentDigits (!passing && !negative && decide (value ≠ 0)) cursor.place 0 cursor.rest)
      (ds ++ rest) (Nat.ofDigitChars 10 ds 0) rest := by
    intro place
    obtain ⟨after, hread⟩ := exponentDigits_append hdigits hstop place 0 hsmall
    refine ⟨after, ?_⟩
    change (Except.ok (exponentDigits _ place 0 (ds ++ rest)).1,
      (exponentDigits _ place 0 (ds ++ rest)).2) = _
    rw [hread]
  obtain ⟨d, es, rfl⟩ := List.exists_cons_of_ne_nil hnonempty
  have hdigit : d.isDigit = true := hdigits d List.mem_cons_self
  unfold exponentValue
  apply Reads.peek
  simp only [List.cons_append, List.head?_cons, hdigit, ↓reduceIte]
  refine .bind hrun ?_
  rw [if_neg]
  · exact .pure _ rest
  · intro hpassed
    rw [Bool.and_eq_true, decide_eq_true_eq] at hpassed
    have := hsmall hpassed.1
    omega

/-- Behind the digits of a number comes an exponent, or what follows the number. -/
theorem undigited_exponential {text : List Char} {exponent : Option Int}
    (hexponential : Exponential text exponent rest) (hended : Ended rest) : Undigited text := by
  cases hexponential with
  | none => exact hended.digit
  | mark hmark =>
    intro c hfirst
    cases hfirst
    rcases hmark with rfl | rfl <;> rfl

theorem head?_exponential_ne {text : List Char} {exponent : Option Int}
    (hexponential : Exponential text exponent rest) (hended : Ended rest) : text.head? ≠ some '.' := by
  cases hexponential with
  | none => exact hended.point
  | mark hmark => rcases hmark with rfl | rfl <;> simp

theorem reads_exponentPart {passing : Bool} (atEnd : Cause) {digits : Nat} {text : List Char}
    {exponent : Option Int} (hexponential : Exponential text exponent rest)
    (hlimited : Limited passing digits exponent) (hended : Ended rest) :
    Reads (exponentPart passing atEnd digits) text exponent rest := by
  unfold exponentPart
  apply Reads.peek
  cases hexponential with
  | none =>
    cases rest with
    | nil => exact .pure none _
    | cons c rest =>
      have hneither : ¬ (c = 'e' ∨ c = 'E') := by
        rintro (rfl | rfl)
        · exact hended.small rfl
        · exact hended.large rfl
      simp only [List.head?_cons, if_neg hneither]
      exact .pure none _
  | mark hmark hsign hrun hnonempty =>
    simp only [List.head?_cons, if_pos hmark]
    apply Reads.skip
    exact .bind (reads_exponentSign hsign hrun hnonempty)
      (.bind (reads_exponentValue atEnd hrun hnonempty hlimited hended.digit) (.pure _ rest))

/-! ## Numbers without a sign -/

theorem fitting_of_lt {n : Nat} (h : n < 2 ^ 64) : fitting n = (n, 0) := by
  unfold fitting
  exact if_pos h

theorem fitting_lt (n : Nat) : (fitting n).1 < 2 ^ 64 := by
  fun_induction fitting n with
  | case1 n hsmall => exact hsmall
  | case2 n hlarge first dropped hparts ih =>
    rw [hparts] at ih
    exact ih

/-- Every number of the grammar is read. -/
theorem reads_numeral (passing : Bool) {text : List Char} {figures : Figures}
    (hnumber : Number text figures rest) (hlimited : passing = true ∨ figures.InLimit)
    (hended : Ended rest) : Reads (numeral passing) text figures.numeral rest := by
  obtain ⟨hleading, hfraction, hexponential⟩ := hnumber
  rename_i ds es text more exponent
  have hvalue : Limited passing (Figures.numeral ⟨ds, es, exponent⟩).digits exponent := hlimited
  unfold numeral
  cases hfraction with
  | none =>
    have hsame := fitting_of_lt (fitting_lt (Nat.ofDigitChars 10 ds 0))
    refine .bind (reads_wholePart hleading (undigited_exponential hexponential hended) _) ?_
    unfold Figures.numeral at hvalue ⊢
    dsimp only at hvalue ⊢
    rw [Nat.ofDigitChars_nil, hsame] at hvalue ⊢
    apply Reads.peek
    split
    · rename_i hpoint
      exact absurd hpoint (head?_exponential_ne hexponential hended)
    · refine .bind (reads_exponentPart _ hexponential hvalue hended) ?_
      cases exponent with
      | none => simpa using Reads.pure _ rest
      | some exponent => simpa using Reads.pure _ rest
  | @point es hdigits hnonempty =>
    have hplaces : es.length ≠ 0 := fun hzero => hnonempty (List.length_eq_zero_iff.1 hzero)
    have hstop : Undigited ('.' :: (es ++ more)) := by
      intro c hfirst
      cases hfirst
      rfl
    refine .bind (reads_wholePart hleading hstop _) ?_
    apply Reads.peek
    simp only [List.head?_cons]
    apply Reads.skip
    refine .bind (reads_digitRun hdigits (undigited_exponential hexponential hended) _) ?_
    simp only [if_neg hplaces]
    refine .bind (reads_exponentPart _ hexponential hvalue hended) ?_
    have hfilled : es.isEmpty = false := by simpa using hnonempty
    unfold Figures.numeral
    simp only [hfilled, Bool.false_and]
    exact .pure _ rest

/-- A number with certain digits and a certain power of ten, whose exponent is within the limit. -/
def Denotes (text : List Char) (n : Numeral) (rest : List Char) : Prop :=
  ∃ figures, Number text figures rest ∧ figures.numeral = n ∧
    ∀ e ∈ figures.exponent, e ≤ exponentLimit

theorem Denotes.reads {text : List Char} {n : Numeral} (h : Denotes text n rest) (passing : Bool)
    (hended : Ended rest) : Reads (numeral passing) text n rest := by
  obtain ⟨figures, hnumber, rfl, hsmall⟩ := h
  exact reads_numeral passing hnumber (.inr fun _ => hsmall) hended

/-- A written exponent. -/
theorem exponential_written (negative : Bool) {ds : List Char} (hdigits : Digits ds)
    (hnonempty : ds ≠ [])
    (rest : List Char) :
    Exponential ('e' :: (if negative then '-' else '+') :: (ds ++ rest))
      (some (signedDigits negative ds)) rest := by
  refine .mark (.inl rfl) ?_ hdigits hnonempty
  cases negative with
  | true => exact .minus _
  | false => exact .plus _

/-- A number without a fraction. -/
theorem denotes_whole {ds tail : List Char} {exponent : Option Int} (hleading : Leading ds)
    (hfew : Nat.ofDigitChars 10 ds 0 < 2 ^ 64) (hexponential : Exponential tail exponent rest)
    (hsmall : ∀ e ∈ exponent, e ≤ exponentLimit) :
    Denotes (ds ++ tail) ⟨Nat.ofDigitChars 10 ds 0, exponent.getD 0, exponent.isNone⟩ rest := by
  refine ⟨_, .parts hleading (.none _) hexponential, ?_, hsmall⟩
  unfold Figures.numeral
  simp [fitting_of_lt hfew]

/-- A number with a fraction. -/
theorem denotes_point {ds es tail : List Char} {exponent : Option Int} (hleading : Leading ds)
    (hfraction : Digits es) (hnonempty : es ≠ []) (hfew : Nat.ofDigitChars 10 (ds ++ es) 0 < 2 ^ 64)
    (hexponential : Exponential tail exponent rest) (hsmall : ∀ e ∈ exponent, e ≤ exponentLimit) :
    Denotes (ds ++ '.' :: (es ++ tail))
      ⟨Nat.ofDigitChars 10 (ds ++ es) 0, exponent.getD 0 - es.length, false⟩ rest := by
  have hwhole : Nat.ofDigitChars 10 ds 0 < 2 ^ 64 := by
    rw [Nat.ofDigitChars_append] at hfew
    exact Nat.lt_of_le_of_lt (le_ofDigitChars es _) hfew
  refine ⟨_, .parts hleading (.point hfraction hnonempty tail) hexponential, ?_, hsmall⟩
  unfold Figures.numeral
  rw [Nat.ofDigitChars_append] at hfew ⊢
  simp [fitting_of_lt hwhole, fitting_of_lt hfew, hnonempty]

/-! ## Pointed notation -/

/-- Positional notation with a point. -/
theorem denotes_positional {d : Decimal} (hfew : d.digits < 2 ^ 64) (hfraction : d.exponent < 0)
    (rest : List Char) : Denotes (d.positional ++ rest) ⟨d.digits, d.exponent, false⟩ rest := by
  have hleading := leading_toDigits d.digits
  have hvalue := Nat.ofDigitChars_ten_toDigits (n := d.digits)
  have hexponent : 0 - ((-d.exponent).toNat : Int) = d.exponent := by omega
  have hplaces : (-d.exponent).toNat ≠ 0 := by omega
  unfold Decimal.positional
  dsimp only
  rw [if_neg (by omega)]
  generalize Nat.toDigits 10 d.digits = ds at hleading hvalue
  generalize (-d.exponent).toNat = n at hexponent hplaces
  split
  · rename_i hinner
    have hcount : (ds.drop (ds.length - n)).length = n := by
      rw [List.length_drop]
      omega
    have hnonempty : ds.drop (ds.length - n) ≠ [] := List.ne_nil_of_length_pos (by omega)
    have hdenotes := denotes_point (hleading.take (n := ds.length - n) (by omega))
      (fun c hmem => hleading.digits c (List.mem_of_mem_drop hmem)) hnonempty
      (by rwa [List.take_append_drop, hvalue]) (.none rest) (by simp)
    rwa [List.take_append_drop, hvalue, hcount, Option.getD_none, hexponent, ← List.cons_append,
      ← List.append_assoc] at hdenotes
  · rename_i houter
    have hcount : (List.replicate (n - ds.length) '0' ++ ds).length = n := by
      rw [List.length_append, List.length_replicate]
      omega
    have hnonempty : List.replicate (n - ds.length) '0' ++ ds ≠ [] :=
      List.ne_nil_of_length_pos (by omega)
    have hdigits :
        Nat.ofDigitChars 10 (['0'] ++ (List.replicate (n - ds.length) '0' ++ ds)) 0 = d.digits := by
      rw [Nat.ofDigitChars_append, ← hvalue]
      exact Binary64.ofDigitChars_leading_zeros ds _
    have hdenotes := denotes_point .zero ((digits_zeros _).append hleading.digits) hnonempty
      (by rwa [hdigits]) (.none rest) (by simp)
    rwa [hdigits, hcount, Option.getD_none, hexponent] at hdenotes

/-- Positional notation of a whole number, with a zero behind a point. -/
theorem denotes_positional_zero {d : Decimal} (hpositive : 0 < d.digits) (hwhole : 0 ≤ d.exponent)
    (hfew : d.digits * 10 ^ (d.exponent.toNat + 1) < 2 ^ 64) (rest : List Char) :
    Denotes (d.positional ++ '.' :: '0' :: rest) ⟨d.digits * 10 ^ (d.exponent.toNat + 1), -1, false⟩
      rest := by
  have hleading := (leading_toDigits d.digits).append (head?_toDigits_ne hpositive)
    (digits_zeros d.exponent.toNat)
  have hvalue : Nat.ofDigitChars 10 (Nat.toDigits 10 d.digits ++ List.replicate d.exponent.toNat '0' ++
      List.replicate 1 '0') 0 = d.digits * 10 ^ (d.exponent.toNat + 1) := by
    rw [Binary64.ofDigitChars_zeros, Binary64.ofDigitChars_zeros, Nat.ofDigitChars_ten_toDigits,
      Nat.pow_one, Nat.pow_succ, Nat.mul_assoc]
  have hdenotes := denotes_point hleading (digits_zeros 1) (by simp) (by rwa [hvalue]) (.none rest)
    (by simp)
  rw [hvalue] at hdenotes
  unfold Decimal.positional
  dsimp only
  rw [if_pos hwhole]
  exact hdenotes

/-- Scientific notation. -/
theorem denotes_scientific {d : Decimal} (hfew : d.digits < 2 ^ 64)
    (hsmall : d.leadingExponent.natAbs ≤ exponentLimit) (rest : List Char) :
    Denotes (d.scientific ++ rest) ⟨d.digits, d.exponent, false⟩ rest := by
  have hleading := leading_toDigits d.digits
  have hvalue := Nat.ofDigitChars_ten_toDigits (n := d.digits)
  have hsizes := Nat.ofDigitChars_ten_toDigits (n := d.leadingExponent.natAbs)
  have hnonempty := Nat.toDigits_ne_nil (n := d.leadingExponent.natAbs) (b := 10)
  have hrun := digits_toDigits d.leadingExponent.natAbs
  have hlength := Nat.length_toDigits_pos (b := 10) (n := d.digits)
  have hpower : d.exponent = d.leadingExponent - ((Nat.toDigits 10 d.digits).length - 1 : Nat) := by
    unfold Decimal.leadingExponent
    omega
  have hwhole : (if d.leadingExponent < 0 then -(d.leadingExponent.natAbs : Int)
      else d.leadingExponent.natAbs) = d.leadingExponent := by
    split <;> omega
  unfold Decimal.scientific
  dsimp only
  rw [hpower]
  generalize d.leadingExponent = lead at *
  generalize Nat.toDigits 10 lead.natAbs = size at *
  generalize Nat.toDigits 10 d.digits = ds at *
  -- the exponent has two digits at least
  have hpadded : Nat.ofDigitChars 10 ((if size.length = 1 then ['0'] else []) ++ size) 0 =
    lead.natAbs := by
    rw [← hsizes]
    split
    · exact Binary64.ofDigitChars_leading_zeros size 1
    · rfl
  have hmany : Digits ((if size.length = 1 then ['0'] else []) ++ size) := by
    split
    exacts [(digits_zeros 1).append hrun, hrun]
  have hexponential := exponential_written (decide (lead < 0)) hmany (by simp [hnonempty]) rest
  have hsigned : signedDigits (decide (lead < 0)) ((if size.length = 1 then ['0'] else []) ++ size) =
      lead := by
    rw [signedDigits, hpadded]
    simpa only [decide_eq_true_eq] using hwhole
  rw [hsigned] at hexponential
  simp only [decide_eq_true_eq] at hexponential
  by_cases hsingle : ds.length = 1
  · have hall : ds.take 1 = ds := List.take_of_length_le hsingle.le
    have hdenotes := denotes_whole hleading (by rwa [hvalue]) hexponential (by simp; omega)
    rw [hvalue, Option.getD_some, Option.isNone_some] at hdenotes
    simpa [hall, hsingle] using hdenotes
  · have hothers : Digits (ds.drop 1) := fun c hmem => hleading.digits c (List.mem_of_mem_drop hmem)
    have hdenotes := denotes_point (hleading.take Nat.one_pos) hothers
      (List.ne_nil_of_length_pos (by rw [List.length_drop]; omega))
      (by rwa [List.take_append_drop, hvalue]) hexponential (by simp; omega)
    rw [List.take_append_drop, hvalue, Option.getD_some, List.length_drop] at hdenotes
    simpa [hsingle] using hdenotes

/-- A decimal number in pointed notation. -/
theorem denotes_pointed {d : Decimal} (hpositive : 0 < d.digits) (hfew : d.digits < 2 ^ 64)
    (hspelled : d.spelled.digits < 2 ^ 64) (hsmall : d.leadingExponent.natAbs ≤ exponentLimit)
    (rest : List Char) :
    Denotes (d.pointed ++ rest) ⟨d.spelled.digits, d.spelled.exponent, false⟩ rest := by
  unfold Decimal.pointed
  by_cases hnear : -5 ≤ d.leadingExponent ∧ d.leadingExponent ≤ 15
  · rw [if_pos hnear]
    by_cases hwhole : 0 ≤ d.exponent
    · have hzero : d.spelled = ⟨d.digits * 10 ^ (d.exponent.toNat + 1), -1⟩ :=
        if_pos ⟨hnear.1, hnear.2, hwhole⟩
      rw [hzero] at hspelled ⊢
      rw [if_pos hwhole, List.append_assoc]
      exact denotes_positional_zero hpositive hwhole hspelled rest
    · have hsame : d.spelled = d := if_neg fun h => hwhole h.2.2
      rw [if_neg hwhole, hsame]
      exact denotes_positional hfew (Int.not_le.1 hwhole) rest
  · have hsame : d.spelled = d := if_neg fun h => hnear ⟨h.1, h.2.1⟩
    rw [if_neg hnear, hsame]
    exact denotes_scientific hfew hsmall rest

/-! ## Values -/

/-- The characters of a finite number without its sign. -/
def unsigned (rank : Nat) : List Char := if rank = 0 then "0.0".toList else
    (Binary64.shortest rank).pointed

/-- A number that is read is not beyond the range of binary64. -/
theorem reads_number {negative : Bool} {before : List Char} {n : Numeral} {value : Json}
    (hread : Reads (numeral false) before n rest) (hdenoted : numeralValue negative n = value)
    (hbounded : ∀ sign, value ≠ .float (.infinite sign)) :
      Reads (number negative) before value rest := by
  unfold number
  refine .bind hread ?_
  rw [hdenoted]
  split
  · rename_i sign
    cases hbounded sign rfl
  · exact .pure _ rest

theorem denotes_natural {n : Nat} (hsmall : n < 2 ^ 64) (rest : List Char) :
    Denotes (Nat.toDigits 10 n ++ rest) ⟨n, 0, true⟩ rest := by
  have hvalue := Nat.ofDigitChars_ten_toDigits (n := n)
  have hdenotes := denotes_whole (leading_toDigits n) (by rwa [hvalue]) (.none rest) (by simp)
  rwa [hvalue] at hdenotes

/-- The value of a negative number of 64 bits. -/
theorem numeralValue_negative {n : Nat} (hpositive : 0 < n) (hsmall : n ≤ 2 ^ 63) :
    numeralValue true ⟨n, 0, true⟩ = .integer (-(n : Int)) := by
  unfold numeralValue
  rw [if_neg (by simp), if_pos (by simpa [hpositive] using hsmall)]

/-- The digits of a finite number. -/
theorem denotes_unsigned {rank : Nat} (hfinite : rank < Binary64.rankBound) (rest : List Char) :
    Denotes (unsigned rank ++ rest)
      (if rank = 0 then ⟨0, -1, false⟩
      else ⟨(Binary64.shortest rank).spelled.digits, (Binary64.shortest rank).spelled.exponent, false⟩)
      rest := by
  unfold unsigned
  split
  · exact denotes_point .zero (digits_zeros 1) (by simp) (by decide) (.none rest) (by simp)
  · rename_i hnonzero
    have hpositive := Nat.pos_of_ne_zero hnonzero
    have hfew := Binary64.digits_shortest_le hpositive
    have hlow := Binary64.le_exponent_shortest rank
    have hhigh := Binary64.exponent_shortest_le hpositive hfinite
    have hlength : (Nat.toDigits 10 (Binary64.shortest rank).digits).length ≤ 18 :=
      (Nat.length_toDigits_le_iff (by decide) (by decide)).2 (by omega)
    have hsmall : (Binary64.shortest rank).leadingExponent.natAbs ≤ exponentLimit := by
      unfold Decimal.leadingExponent exponentLimit
      omega
    exact denotes_pointed (Binary64.digits_shortest_pos hpositive) (by omega)
      (Decimal.digits_spelled_lt hfew) hsmall rest

theorem approximate_zero (negative : Bool) :
    approximate negative 0 (-1) = .finite negative ⟨0, by decide⟩ := by
  have hnothing (den : Nat) : Binary64.Rounds 0 0 den := ⟨by simp, by simp, by simp⟩
  refine approximate_of_exact (by omega) (by omega) (by omega) ?_
  rw [Binary64.decimalNum_eq, Nat.zero_mul]
  exact hnothing _

/-- The value of the digits of a finite number. -/
theorem numeralValue_unsigned (negative : Bool) (rank : Fin (2047 * Nat.pow 2 52)) :
    numeralValue negative (if rank.val = 0 then ⟨0, -1, false⟩
      else ⟨(Binary64.shortest rank).spelled.digits, (Binary64.shortest rank).spelled.exponent, false⟩) =
        .float (Binary64.finite negative rank).reread := by
  rw [Binary64.reread_finite]
  split
  · rename_i hzero
    have hsame : rank = ⟨0, by decide⟩ := Fin.ext hzero
    rw [hsame, ← approximate_zero]
    rfl
  · rfl

theorem reread_bounded (negative : Bool) (rank : Fin (2047 * Nat.pow 2 52)) (sign : Bool) :
    Json.float (Binary64.finite negative rank).reread ≠ .float (.infinite sign) := by
  intro hsame
  have hfinite := Binary64.reread_isFinite (x := .finite negative rank) rfl
  rw [Json.float.inj hsame] at hfinite
  cases hfinite

/-- A finite number, after its sign. -/
theorem reads_number_unsigned (negative : Bool) (rank : Fin (2047 * Nat.pow 2 52))
    (hended : Ended rest) :
    Reads (number negative) (unsigned rank ++ rest) (.float (Binary64.finite negative rank).reread)
      rest :=
  reads_number ((denotes_unsigned rank.isLt rest).reads false hended)
    (numeralValue_unsigned negative rank)
    (reread_bounded negative rank)

/-- A number is a scalar of the grammar. -/
theorem Denotes.scalar {text : List Char} {n : Numeral} {value : Json} (h : Denotes text n rest)
    (negative : Bool) (hdenoted : numeralValue negative n = value)
    (hbounded : ∀ sign, value ≠ .float (.infinite sign)) :
    Scalar ((if negative then ['-'] else []) ++ text) value rest := by
  obtain ⟨figures, hnumber, rfl, hsmall⟩ := h
  cases negative with
  | true => exact .negative hnumber (fun _ => hsmall) hdenoted hbounded
  | false => exact .number hnumber (fun _ => hsmall) hdenoted hbounded

end InstanceIdentity.Json.Reader
