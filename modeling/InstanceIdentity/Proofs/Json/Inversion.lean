import InstanceIdentity.Proofs.Json.Numbers

/-!
# What a reader has found

A reader that gets a value from a text has found in front of that text what the grammar says.  These
judgements go along the steps of a reader, as those of reading do, but from the text to the value: a step
that fails ensures anything.

Main results:

- Definition `Json.Reader.Ensures`: the judgement; Theorems `Ensures.bind`, `Ensures.blanks`,
  `Ensures.skip`: its rules.
- Theorems `Json.Reader.ensures_text`, `Json.Reader.ensures_numeral`: texts and numbers.
- Theorem `Json.Reader.ensures_value`: what is read of a value is a scalar of the grammar, or a
  container.
-/

namespace InstanceIdentity.Json.Reader

open Binary64 (Digits Exponential Sign exists_readDigits signedDigits)

variable {α β : Type} {reader : Reader α} {andThen : α → Reader β} {before rest : List Char}
  {post : β → List Char → Prop}

/-- A value that the reader gets from a text satisfies a condition, with what is left of the text. -/
def Ensures (reader : Reader α) (before : List Char) (post : α → List Char → Prop) : Prop :=
  ∀ place value cursor, reader ⟨before, place⟩ = (.ok value, cursor) → post value cursor.rest

/-! ## Rules -/

/-- Nothing follows a step that fails. -/
theorem bind_of_error {cursor cursor' : Cursor} {fault : Fault}
    (h : reader cursor = (.error fault, cursor')) :
    (reader >>= andThen) cursor = (.error fault, cursor') := by
  change (ExceptT.bind reader andThen) cursor = _
  simp only [ExceptT.bind, ExceptT.mk, bind, StateT.bind]
  rw [h]
  rfl

namespace Ensures

theorem pure {value : β} (hholds : post value before) : Ensures (pure value) before post := by
  rintro place _ cursor ⟨⟩
  exact hholds

theorem mono {stronger : β → List Char → Prop} {reader : Reader β}
    (h : Ensures reader before stronger) (hweaker : ∀ value rest, stronger value rest →
      post value rest) :
    Ensures reader before post :=
  fun place value cursor hread => hweaker _ _ (h place value cursor hread)

/-- Nothing need be known. -/
theorem trivial {reader : Reader β} : Ensures reader before fun _ _ => True := fun _ _ _ _ => True.intro

theorem bind (h : Ensures reader before fun value rest => Ensures (andThen value) rest post) :
    Ensures (reader >>= andThen) before post := by
  intro place result cursor hread
  rcases hfirst : reader ⟨before, place⟩ with ⟨fault | value, between⟩
  · rw [bind_of_error hfirst] at hread
    cases hread
  · rw [bind_of_ok hfirst] at hread
    exact h place value between hfirst between.place result cursor hread

/-- A step and then what is shown of its value. -/
theorem bind_of {found : α → List Char → Prop} (hfirst : Ensures reader before found)
    (hsecond : ∀ value rest, found value rest → Ensures (andThen value) rest post) :
    Ensures (reader >>= andThen) before post :=
  .bind (hfirst.mono hsecond)

theorem failAt {place : Place} {cause : Cause} : Ensures (failAt place cause) before post := by
  rintro place value cursor ⟨⟩

theorem fail {cause : Cause} : Ensures (fail cause) before post := by
  rintro place value cursor ⟨⟩

theorem failAhead {cause : Cause} : Ensures (failAhead cause) before post := by
  rintro place value cursor ⟨⟩

theorem failUnplaced {cause : Cause} : Ensures (failUnplaced cause) before post := by
  rintro place value cursor ⟨⟩

theorem peek {andThen : Option Char → Reader β} (h : Ensures (andThen before.head?) before post) :
    Ensures (Reader.peek >>= andThen) before post := by
  refine .bind ?_
  rintro place _ cursor ⟨⟩
  exact h

theorem remaining {andThen : Nat → Reader β} (h : Ensures (andThen (before.length + 1)) before post) :
    Ensures (Reader.remaining >>= andThen) before post := by
  refine .bind ?_
  rintro place _ cursor ⟨⟩
  exact h

theorem skip {andThen : Unit → Reader β} {c : Char} (h : Ensures (andThen ()) rest post) :
    Ensures (Reader.skip >>= andThen) (c :: rest) post := by
  refine .bind ?_
  rintro place _ cursor ⟨⟩
  exact h

theorem skip_last {c : Char} {post : Unit → List Char → Prop} (h : post () rest) :
    Ensures Reader.skip (c :: rest) post := by
  rintro place _ cursor ⟨⟩
  exact h

/-- The next character, if there is one, is taken. -/
theorem next {andThen : Option Char → Reader β} (h : Ensures (andThen before.head?) before.tail post) :
    Ensures (Reader.next >>= andThen) before post := by
  cases before with
  | nil =>
    refine .bind ?_
    rintro place _ cursor ⟨⟩
    exact h
  | cons c rest =>
    refine .bind ?_
    rintro place _ cursor ⟨⟩
    exact h

theorem blanks_skipBlanks (place : Place) (text : List Char) :
    Blanks text (skipBlanks place text).rest := by
  induction text generalizing place with
  | nil => exact .done []
  | cons c text ih =>
    rw [skipBlanks]
    split
    · rename_i hblank
      exact .more hblank (ih _)
    · exact .done _

/-- Behind blanks the next character is looked at. -/
theorem blanks {andThen : Option Char → Reader β}
    (h : ∀ between, Blanks before between → Ensures (andThen between.head?) between post) :
    Ensures (Reader.blanks >>= andThen) before post := by
  refine .bind ?_
  rintro place _ cursor ⟨⟩
  exact h _ (blanks_skipBlanks place before)

theorem placed {reader : Reader β} (h : Ensures reader before post) :
    Ensures (placed reader) before post := by
  intro place value cursor hread
  unfold Reader.placed at hread
  rcases hinner : reader ⟨before, place⟩ with ⟨fault | value, between⟩
  · rw [hinner] at hread
    cases hread
  · rw [hinner] at hread
    cases hread
    exact h _ _ _ hinner

theorem within {segment : Segment} {reader : Reader β} (h : Ensures reader before post) :
    Ensures (within segment reader) before post := by
  intro place value cursor hread
  unfold Reader.within at hread
  change (ExceptT.tryCatch reader _) _ = _ at hread
  simp only [ExceptT.tryCatch, ExceptT.mk, Bind.bind, StateT.bind] at hread
  rcases hinner : reader ⟨before, place⟩ with ⟨fault | value, between⟩
  · rw [hinner] at hread
    cases hread
  · rw [hinner] at hread
    cases hread
    exact h _ _ _ hinner

/-- A container that is read has a content and an end. -/
theorem enclosed {content : Reader β} {close : Reader Unit}
    (h : Ensures content before fun value rest => Ensures close rest fun _ => post value) :
    Ensures (enclosed content close) before post := by
  intro place value cursor hread
  unfold Reader.enclosed at hread
  rcases hinner : content ⟨before, place⟩ with ⟨fault | found, between⟩
  · rw [hinner] at hread
    cases hread
  · rw [hinner] at hread
    rcases hends : close between with ⟨fault | ⟨⟩, final⟩
    · simp only [hends] at hread
      cases hread
    · simp only [hends] at hread
      cases hread
      exact h _ _ _ hinner _ _ _ hends

/-- What is got from a whole text satisfies the condition, with something left of the text. -/
theorem run {reader : Reader β} {s : String} {value : β} (h : Ensures reader s.toList post)
    (hread : reader.run s = .ok value) : ∃ rest, post value rest :=
  ⟨_, h ⟨1, 0⟩ value _ (Prod.ext hread rfl)⟩

end Ensures

/-- What is left of a text whose first character is known. -/
theorem exists_cons_of_head? {c : Char} (h : before.head? = some c) : ∃ rest, before = c :: rest :=
  List.head?_eq_some_iff.1 h

/-! ## Words -/

theorem ensures_word (word : List Char) :
    Ensures (Reader.word word) before fun _ rest => before = word ++ rest := by
  induction word generalizing before with
  | nil => exact .pure rfl
  | cons expected word ih =>
    unfold Reader.word
    refine .peek ?_
    split
    · exact .fail
    · rename_i c hfirst
      obtain ⟨rest, rfl⟩ := exists_cons_of_head? hfirst
      split
      · rename_i hsame
        subst hsame
        exact .skip (ih.mono fun _ _ h => congrArg _ h)
      · exact .failAhead

/-- A word of which the first character has been seen is taken as a whole. -/
theorem ensures_keyword {value : β} {c : Char} {letters : List Char} (hfirst : before.head? = some c)
    (hfound : ∀ rest, before = c :: (letters ++ rest) → post value rest) :
    Ensures (do skip; word letters; return value) before post := by
  obtain ⟨text, rfl⟩ := exists_cons_of_head? hfirst
  refine .skip (.bind_of (ensures_word letters) ?_)
  rintro _ rest rfl
  exact .pure (hfound rest rfl)

/-! ## Numbers -/

/-- A run of digits that is read is as long as it can be. -/
theorem ensures_digitRun (start : Nat) :
    Ensures (digitRun start) before fun run rest =>
      ∃ ds, Digits ds ∧ before = ds ++ rest ∧ Undigited rest ∧
        run = (Nat.ofDigitChars 10 ds start, ds.length) := by
  rintro place _ cursor ⟨⟩
  obtain ⟨ds, rest, hdigits, hstop, hparts, hread⟩ := exists_readDigits before start 0
  simp only [hread, Nat.zero_add]
  exact ⟨ds, hdigits, hparts, hstop, rfl⟩

/-- A run of digits that comes up to no digit is empty only when there is none. -/
theorem exists_cons_of_undigited {c : Char} {text ds : List Char} (hdigit : c.isDigit = true)
    (hparts : c :: text = ds ++ rest) (hstop : Undigited rest) : ∃ es, ds = c :: es := by
  cases ds with
  | nil => exact absurd (hstop c (by rw [← show c :: text = rest from hparts]; rfl)) (by simp [hdigit])
  | cons d es =>
    cases hparts
    exact ⟨es, rfl⟩

theorem ensures_wholePart (atEnd : Cause) :
    Ensures (wholePart atEnd) before fun value rest =>
      ∃ ds, Leading ds ∧ before = ds ++ rest ∧ value = Nat.ofDigitChars 10 ds 0 := by
  unfold wholePart
  refine .peek ?_
  split
  · exact .fail
  · rename_i c hfirst
    obtain ⟨rest, rfl⟩ := exists_cons_of_head? hfirst
    split
    · rename_i hzero
      subst hzero
      refine .skip (.peek ?_)
      have halone : Ensures (pure 0) rest fun value after =>
          ∃ ds, Leading ds ∧ '0' :: rest = ds ++ after ∧ value = Nat.ofDigitChars 10 ds 0 :=
        .pure ⟨['0'], .zero, rfl, rfl⟩
      split
      · split
        · exact .failAhead
        · exact halone
      · exact halone
    · rename_i hnonzero
      split
      · rename_i hdigit
        refine .bind_of (ensures_digitRun 0) ?_
        rintro _ after ⟨ds, hdigits, hparts, hstop, rfl⟩
        obtain ⟨es, rfl⟩ := exists_cons_of_undigited hdigit hparts hstop
        exact .pure ⟨c :: es, .run c es hdigits hnonzero, hparts, rfl⟩
      · exact .failAhead

theorem ensures_exponentSign :
    Ensures exponentSign before fun negative rest => Sign before negative rest := by
  unfold exponentSign
  refine .peek ?_
  split
  · rename_i hfirst
    obtain ⟨rest, rfl⟩ := exists_cons_of_head? hfirst
    exact .skip (.pure (.plus rest))
  · rename_i hfirst
    obtain ⟨rest, rfl⟩ := exists_cons_of_head? hfirst
    exact .skip (.pure (.minus rest))
  · exact .pure (.none before)

/-- The digits of an exponent that are read are there, and one at least. -/
theorem exists_exponentDigits (stopping : Bool) (place : Place) (acc : Nat) (text : List Char) :
    ∃ ds, Digits ds ∧ text = ds ++ (exponentDigits stopping place acc text).2.rest ∧
      (ds = [] → Undigited text) ∧
      (exponentDigits stopping place acc text).1 = Nat.ofDigitChars 10 ds acc := by
  induction text generalizing place acc with
  | nil => exact ⟨[], by simp [Digits], rfl, by simp [Undigited], rfl⟩
  | cons c text ih =>
    by_cases hdigit : c.isDigit = true
    · have hnext : 10 * acc + (c.toNat - '0'.toNat) = acc * 10 + digitValue c := by
        rw [Nat.mul_comm]
        rfl
      have hfirst {ds : List Char} (hdigits : Digits ds) : Digits (c :: ds) := by
        simpa [Digits, hdigit] using hdigits
      rw [exponentDigits, if_pos hdigit]
      dsimp only
      split
      · refine ⟨[c], hfirst (by simp [Digits]), rfl, by simp, ?_⟩
        rw [Nat.ofDigitChars_cons, hnext, Nat.ofDigitChars_nil]
      · obtain ⟨ds, hdigits, hparts, -, hvalue⟩ := ih ⟨place.line, place.column + 1⟩
          (acc * 10 + digitValue c)
        refine ⟨c :: ds, hfirst hdigits, congrArg _ hparts, by simp, ?_⟩
        rw [hvalue, Nat.ofDigitChars_cons, hnext]
    · rw [exponentDigits, if_neg hdigit]
      exact ⟨[], by simp [Digits], rfl, fun _ => by simpa [Undigited] using hdigit, rfl⟩

theorem ensures_exponentValue (passing negative : Bool) (atEnd : Cause) (digits : Nat) :
    Ensures (exponentValue passing negative atEnd digits) before fun value rest =>
      ∃ ds, Digits ds ∧ ds ≠ [] ∧ before = ds ++ rest ∧ value = signedDigits negative ds ∧
        Limited passing digits value := by
  unfold exponentValue
  refine .peek ?_
  split
  · exact .fail
  · rename_i c hfirst
    obtain ⟨text, rfl⟩ := exists_cons_of_head? hfirst
    split
    · rename_i hdigit
      have hdigitsRead (stopping : Bool) : Ensures
          (modifyGet fun cursor : Cursor => exponentDigits stopping cursor.place 0 cursor.rest)
            (c :: text)
          fun value rest => ∃ ds, Digits ds ∧ c :: text = ds ++ rest ∧
            (ds = [] → Undigited (c :: text)) ∧ value = Nat.ofDigitChars 10 ds 0 := by
        rintro place _ cursor ⟨⟩
        exact exists_exponentDigits stopping place 0 (c :: text)
      refine .bind_of (hdigitsRead _) ?_
      rintro _ rest ⟨ds, hrun, hparts, hsome, rfl⟩
      by_cases hwithin : (!passing && !negative && decide (digits ≠ 0) &&
          decide (exponentLimit < Nat.ofDigitChars 10 ds 0)) = true
      · rw [if_pos hwithin]
        exact .bind .fail
      · rw [if_neg hwithin]
        refine .pure ⟨ds, hrun, ?_, hparts, rfl, ?_⟩
        · intro hnothing
          exact absurd (hsome hnothing c rfl) (by simp [hdigit])
        · rw [Limited, or_iff_not_imp_left]
          rintro hnotPassing hnonzero e ⟨⟩
          cases negative with
          | true => exact (Int.neg_nonpos_of_nonneg (Int.natCast_nonneg _)).trans (Int.natCast_nonneg _)
          | false =>
            simp only [hnotPassing, hnonzero, Bool.not_false, Bool.true_and, ne_eq, not_false_eq_true,
              decide_true, decide_eq_true_eq, Nat.not_lt] at hwithin
            exact Int.ofNat_le.2 hwithin
    · exact .failAhead

theorem ensures_exponentPart (passing : Bool) (atEnd : Cause) (digits : Nat) :
    Ensures (exponentPart passing atEnd digits) before fun exponent rest =>
      Exponential before exponent rest ∧ Limited passing digits exponent := by
  have hwithout : Ensures (pure none) before fun exponent rest =>
      Exponential before exponent rest ∧ Limited passing digits exponent :=
    .pure ⟨.none before, .inr (by simp)⟩
  unfold exponentPart
  refine .peek ?_
  split
  · rename_i c hfirst
    obtain ⟨text, rfl⟩ := exists_cons_of_head? hfirst
    split
    · rename_i hmark
      refine .skip (.bind_of ensures_exponentSign ?_)
      intro negative signed hsign
      refine .bind_of (ensures_exponentValue passing negative atEnd digits) ?_
      rintro _ rest ⟨ds, hrun, hnonempty, rfl, rfl, hlimited⟩
      exact .pure ⟨.mark hmark hsign hrun hnonempty, hlimited⟩
    · exact hwithout
  · exact hwithout

/-- A number that is read, or passed over, is a number of the grammar. -/
theorem ensures_numeral (passing : Bool) :
    Ensures (numeral passing) before fun n rest =>
      ∃ figures, Number before figures rest ∧ n = figures.numeral ∧
        (passing = true ∨ figures.InLimit) := by
  unfold numeral
  refine .bind_of (ensures_wholePart _) ?_
  rintro _ text ⟨ds, hleading, rfl, rfl⟩
  refine .peek ?_
  split
  · rename_i hfirst
    obtain ⟨fraction, rfl⟩ := exists_cons_of_head? hfirst
    refine .skip (.bind_of (ensures_digitRun _) ?_)
    rintro _ more ⟨es, hrun, rfl, -, rfl⟩
    dsimp only
    split
    · refine .peek ?_
      split <;> exact .bind .failAhead
    · rename_i hplaces
      have hnonempty : es ≠ [] := fun hnothing => hplaces (by rw [hnothing]; rfl)
      refine .bind_of (ensures_exponentPart passing _ _) ?_
      rintro exponent rest ⟨hexponential, hlimited⟩
      have hfilled : es.isEmpty = false := by simpa using hnonempty
      refine .pure ⟨_, .parts hleading (.point hrun hnonempty more) hexponential, ?_, hlimited⟩
      unfold Figures.numeral
      simp only [hfilled, Bool.false_and]
  · refine .bind_of (ensures_exponentPart passing _ _) ?_
    rintro exponent rest ⟨hexponential, hlimited⟩
    have hsame := fitting_of_lt (fitting_lt (Nat.ofDigitChars 10 ds 0))
    have hnumber := Number.parts hleading (.none text) hexponential
    have hlimit : passing = true ∨ Figures.InLimit ⟨ds, [], exponent⟩ := by
      unfold Figures.InLimit Figures.numeral
      dsimp only
      rwa [Nat.ofDigitChars_nil, hsame]
    have hnumeral : Figures.numeral ⟨ds, [], exponent⟩ =
        ⟨(fitting (Nat.ofDigitChars 10 ds 0)).1,
          exponent.getD 0 + (fitting (Nat.ofDigitChars 10 ds 0)).2,
          exponent.isNone && decide ((fitting (Nat.ofDigitChars 10 ds 0)).2 = 0)⟩ := by
      unfold Figures.numeral
      simp only [Nat.ofDigitChars_nil, hsame]
      simp
    cases exponent with
    | none => exact .pure ⟨_, hnumber, by rw [hnumeral]; simp, hlimit⟩
    | some e => exact .pure ⟨_, hnumber, by rw [hnumeral]; simp, hlimit⟩

/-! ## Texts -/

/-- As many bytes as are passed are there, when each character takes one. -/
theorem le_length_of_afterBytes {bytes : Nat} {text : List Char} {place after : Place}
    (hpassed : place.afterBytes? bytes text = some after) (hsmall : ∀ c ∈ text, c.utf8Size = 1) :
    bytes ≤ text.length := by
  induction text generalizing bytes place with
  | nil =>
    cases bytes with
    | zero => exact Nat.le_refl 0
    | succ bytes =>
      rw [Place.afterBytes?] at hpassed
      cases hpassed
  | cons c text ih =>
    cases bytes with
    | zero => exact Nat.zero_le _
    | succ bytes =>
      rw [Place.afterBytes?, hsmall c List.mem_cons_self, if_pos (Nat.le_add_left 1 bytes),
        Nat.add_sub_cancel] at hpassed
      exact Nat.succ_le_succ (ih hpassed fun d hmem => hsmall d (List.mem_cons_of_mem c hmem))

theorem ensures_codeUnit : Ensures codeUnit before fun unit rest => CodeUnit before unit rest := by
  unfold codeUnit
  refine .bind ?_
  rintro place _ cursor ⟨⟩
  dsimp only
  split
  · exact .failAt
  · rename_i after hpassed
    split
    · rename_i value hdigits
      refine .bind ?_
      rintro place _ cursor ⟨⟩
      refine .pure ?_
      -- fewer than four characters that are left would be digits, and too short
      have hfour : 4 ≤ before.length := by
        by_contra hshort
        have hall : before.take 4 = before := List.take_of_length_le (by omega)
        rw [hall] at hdigits
        exact hshort (le_length_of_afterBytes hpassed fun c => utf8Size_of_hexValue hdigits)
      obtain ⟨a, b, c, d, rest, rfl⟩ : ∃ a b c d rest, before = a :: b :: c :: d :: rest := by
        match before, hfour with
        | a :: b :: c :: d :: rest, _ => exact ⟨a, b, c, d, rest, rfl⟩
      exact .digits hdigits rest
    · exact .failAt

theorem ensures_pairMark (expected : Char) :
    Ensures (pairMark expected) before fun _ rest => before = expected :: rest := by
  unfold pairMark
  refine .peek ?_
  split
  · exact .fail
  · rename_i c hfirst
    obtain ⟨rest, rfl⟩ := exists_cons_of_head? hfirst
    split
    · rename_i hsame
      subst hsame
      exact .skip_last rfl
    · exact .failAhead

/-- What follows a backslash and is read as one character. -/
def Escapes (text : List Char) (c : Char) (rest : List Char) : Prop :=
  ∀ cs after, Spells rest cs after → Spells ('\\' :: text) (c :: cs) after

theorem ensures_escape : Ensures escape before fun c rest => Escapes before c rest := by
  unfold escape
  refine .peek ?_
  split
  · exact .fail
  · rename_i hfirst
    obtain ⟨text, rfl⟩ := exists_cons_of_head? hfirst
    unfold escapedCode
    refine .skip (.bind_of ensures_codeUnit ?_)
    intro unit more hcode
    split
    · exact .fail
    · rename_i hnotTrailing
      split
      · rename_i hsingle
        exact .pure fun cs after => .code hcode (by omega)
      · rename_i hleading
        refine .bind_of (ensures_pairMark _) ?_
        rintro _ _ rfl
        refine .bind_of (ensures_pairMark _) ?_
        rintro _ between rfl
        refine .bind_of ensures_codeUnit ?_
        intro low rest hsecond
        split
        · exact .fail
        · rename_i htrailing
          exact .pure fun cs after => .pair hcode (by omega) hsecond (by omega)
  · rename_i hletter hfirst
    obtain ⟨text, rfl⟩ := exists_cons_of_head? hfirst
    split
    · rename_i c hstands
      exact .skip (.pure fun cs after => .letter hstands)
    · exact .failAhead

/-- The characters of a text that is read are spelled in front of what is left. -/
theorem ensures_textFrom (fuel : Nat) (read : List Char) :
    Ensures (textFrom fuel read) before fun s rest =>
      ∃ cs, Spells before cs rest ∧ s = String.ofList (read.reverse ++ cs) := by
  induction fuel generalizing before read with
  | zero => exact .fail
  | succ fuel ih =>
    unfold textFrom
    refine .next ?_
    split
    · exact .fail
    · rename_i hfirst
      obtain ⟨rest, rfl⟩ := exists_cons_of_head? hfirst
      exact .pure ⟨[], .quote rest, by rw [List.append_nil]⟩
    · rename_i hfirst
      obtain ⟨rest, rfl⟩ := exists_cons_of_head? hfirst
      refine .bind_of ensures_escape ?_
      intro c after hescapes
      refine (ih (c :: read)).mono ?_
      rintro _ after ⟨cs, hspells, rfl⟩
      exact ⟨c :: cs, hescapes cs after hspells, by simp⟩
    · rename_i c hquote hbackslash hfirst
      obtain ⟨rest, rfl⟩ := exists_cons_of_head? hfirst
      split
      · exact .fail
      · rename_i hprintable
        refine (ih (c :: read)).mono ?_
        rintro _ after ⟨cs, hspells, rfl⟩
        exact ⟨c :: cs, .verbatim ⟨hquote, hbackslash, Nat.not_lt.1 hprintable⟩ hspells, by simp⟩

theorem ensures_text :
    Ensures text before fun s rest => ∃ cs, Spells before cs rest ∧ s = String.ofList cs := by
  unfold text
  refine .bind ?_
  rintro place _ cursor ⟨⟩
  exact ensures_textFrom _ []

/-! ## Values -/

/-- A number that is read has its limit, and is not beyond the range of binary64. -/
theorem ensures_number (negative : Bool) :
    Ensures (number negative) before fun json rest =>
      ∃ figures, Number before figures rest ∧ figures.InLimit ∧
        numeralValue negative figures.numeral = json ∧ ∀ sign, json ≠ .float (.infinite sign) := by
  unfold number
  refine .bind_of (ensures_numeral false) ?_
  rintro _ rest ⟨figures, hnumber, rfl, hlimit⟩
  split
  · exact .fail
  · rename_i hbounded
    exact .pure ⟨figures, hnumber, hlimit.resolve_left (by simp), rfl, hbounded⟩

/-- A value that is read is a scalar, or one that starts with the bracket of a container. -/
theorem ensures_scalarOr {container : Char → Reader Json} {post : Json → List Char → Prop}
    (hscalar : ∀ text json rest, Blanks before text → Scalar text json rest → post json rest)
    (hnested : ∀ c text, Ensures (container c) (c :: text) post) :
    Ensures (scalarOr container) before post := by
  unfold scalarOr
  refine .blanks fun between hblanks => ?_
  split
  · exact .failAhead
  · refine ensures_keyword ‹_› ?_
    rintro rest rfl
    exact hscalar _ _ rest hblanks (.null rest)
  · refine ensures_keyword ‹_› ?_
    rintro rest rfl
    exact hscalar _ _ rest hblanks (.yes rest)
  · refine ensures_keyword ‹_› ?_
    rintro rest rfl
    exact hscalar _ _ rest hblanks (.no rest)
  · rename_i hfirst
    obtain ⟨text, rfl⟩ := exists_cons_of_head? hfirst
    refine .skip ((ensures_number true).mono ?_)
    rintro json rest ⟨figures, hnumber, hlimit, hdenoted, hbounded⟩
    exact hscalar _ _ rest hblanks (.negative hnumber hlimit hdenoted hbounded)
  · rename_i hfirst
    obtain ⟨text, rfl⟩ := exists_cons_of_head? hfirst
    refine .skip (.bind_of ensures_text ?_)
    rintro _ rest ⟨cs, hspells, rfl⟩
    exact .pure (hscalar _ _ rest hblanks (.text hspells))
  · rename_i c _ _ _ _ _ hfirst
    obtain ⟨text, rfl⟩ := exists_cons_of_head? hfirst
    split
    · refine (ensures_number false).mono ?_
      rintro json rest ⟨figures, hnumber, hlimit, hdenoted, hbounded⟩
      exact hscalar _ _ rest hblanks (.number hnumber hlimit hdenoted hbounded)
    · split
      · exact hnested c text
      · exact .failAhead

/-- A value that is read is a scalar or a container. -/
theorem ensures_value (room : Nat) :
    Ensures (value room) before fun json rest =>
      (∃ text, Blanks before text ∧ Scalar text json rest) ∨
        (∃ items, json = .array items) ∨ ∃ members, json = .object members := by
  cases room with
  | zero =>
    exact ensures_scalarOr (fun text json rest hblanks hscalar => .inl ⟨text, hblanks, hscalar⟩)
      fun _ _ => .failAhead
  | succ room =>
    refine ensures_scalarOr (fun text json rest hblanks hscalar => .inl ⟨text, hblanks, hscalar⟩) ?_
    intro c text
    refine .skip ?_
    split
    · refine .enclosed (.bind_of .trivial fun fuel between _ => .bind_of .trivial fun items rest _ => ?_)
      exact .pure (Ensures.trivial.mono fun _ _ _ => .inr (.inl ⟨items, rfl⟩))
    · refine .enclosed (.bind_of .trivial fun fuel between _ =>
        .bind_of .trivial fun members rest _ => ?_)
      exact .pure (Ensures.trivial.mono fun _ _ _ => .inr (.inr ⟨members, rfl⟩))

theorem ensures_colon : Ensures colon before fun _ rest => Blanks before (':' :: rest) := by
  unfold colon
  refine .blanks fun between hblanks => ?_
  split
  · rename_i hfirst
    obtain ⟨rest, rfl⟩ := exists_cons_of_head? hfirst
    exact .skip_last hblanks
  · exact .failAhead
  · exact .failAhead

/-! ## Values that are judged -/

theorem ensures_judged {verdict : Except Cause α} {post : α → List Char → Prop}
    (haccepted : ∀ value, verdict = .ok value → post value before) :
    Ensures (judged verdict) before post := by
  cases verdict with
  | ok value => exact .pure (haccepted value rfl)
  | error cause => exact .failUnplaced

/-- Nothing is got from a value of another kind. -/
theorem ensures_mismatched {expected : String} {post : α → List Char → Prop} :
    Ensures (mismatched expected) before post := by
  have hbehind {γ : Type} {between : List Char} {c : Char} {step : Reader γ} {cause : γ → Cause}
      (hfirst : between.head? = some c) :
      Ensures (do skip; failUnplaced (cause (← step))) between post := by
    obtain ⟨text, rfl⟩ := exists_cons_of_head? hfirst
    exact .skip (.bind_of .trivial fun _ _ _ => .failUnplaced)
  unfold mismatched
  refine .placed (.blanks fun between _ => ?_)
  split
  · exact .failAhead
  · exact hbehind ‹_›
  · exact hbehind ‹_›
  · exact hbehind ‹_›
  · exact hbehind ‹_›
  · exact hbehind ‹_›
  · exact .failUnplaced
  · exact .failUnplaced
  · split
    · exact .bind_of .trivial fun _ _ _ => .failUnplaced
    · exact .failAhead

/-- A text that is judged is a text. -/
theorem ensures_textBy {expected : String} {judge : String → Except Cause α} :
    Ensures (textBy expected judge) before fun value rest =>
      ∃ text s, Blanks before text ∧ Scalar text (.text s) rest ∧ judge s = .ok value := by
  unfold textBy
  refine .placed (.blanks fun between hblanks => ?_)
  split
  · rename_i hfirst
    obtain ⟨text, rfl⟩ := exists_cons_of_head? hfirst
    refine .skip (.bind_of ensures_text ?_)
    rintro _ rest ⟨cs, hspells, rfl⟩
    exact ensures_judged fun value haccepted => ⟨_, _, hblanks, .text hspells, haccepted⟩
  · exact ensures_mismatched
  · exact .failAhead

end InstanceIdentity.Json.Reader
