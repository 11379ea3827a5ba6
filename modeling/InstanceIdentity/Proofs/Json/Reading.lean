import InstanceIdentity.Json.Printer
import InstanceIdentity.Json.Shape.Document
import InstanceIdentity.Proofs.Json.Grammar

/-!
# Reading what was written

A reader that is put in front of a text finds a value in it and leaves the rest.  These judgements
compose along the steps of a reader, whatever the places are that its cursor goes through.

Main results:

- Definition `Json.Reader.Reads`: the judgement; Theorems `Reads.bind`, `Reads.blanks`, `Reads.skip`: its
  rules.
- Theorem `Json.Reader.reads_text`: a written text is read as the text that it was written for.
- Definition `Json.Reader.Takes`: what a member does to the fields of a record; Theorems
  `Json.Reader.reads_member`, `Json.Reader.reads_record`: the members of an object are read into them.
-/

namespace InstanceIdentity.Json

/-- A character is written by a letter after a backslash, by its code, or as it is. -/
theorem escapeChar_cases (c : Char) :
    (∃ letter, escapeChar c = ['\\', letter] ∧ Reader.letterEscape? letter = some c) ∨
    (c.toNat < 0x20 ∧ escapeChar c =
      ['\\', 'u', '0', '0', Nat.digitChar (c.toNat / 16), Nat.digitChar (c.toNat % 16)]) ∨
    (c ≠ '"' ∧ c ≠ '\\' ∧ ¬ c.toNat < 0x20 ∧ escapeChar c = [c]) := by
  by_cases hquote : c = '"'
  · exact .inl ⟨'"', by simp [escapeChar, hquote], by rw [hquote]; rfl⟩
  by_cases hbackslash : c = '\\'
  · exact .inl ⟨'\\', by simp [escapeChar, hbackslash], by rw [hbackslash]; rfl⟩
  by_cases hback : c = '\x08'
  · exact .inl ⟨'b', by simp [escapeChar, hback], by rw [hback]; rfl⟩
  by_cases hfeed : c = '\x0c'
  · exact .inl ⟨'f', by simp [escapeChar, hfeed], by rw [hfeed]; rfl⟩
  by_cases hline : c = '\n'
  · exact .inl ⟨'n', by simp [escapeChar, hline], by rw [hline]; rfl⟩
  by_cases hcarriage : c = '\r'
  · exact .inl ⟨'r', by simp [escapeChar, hcarriage], by rw [hcarriage]; rfl⟩
  by_cases htab : c = '\t'
  · exact .inl ⟨'t', by simp [escapeChar, htab], by rw [htab]; rfl⟩
  by_cases hcontrol : c.toNat < 0x20
  · exact .inr (.inl ⟨hcontrol, by simp [escapeChar, *]⟩)
  · exact .inr (.inr ⟨hquote, hbackslash, hcontrol, by simp [escapeChar, *]⟩)

namespace Reader

variable {α β : Type} {reader : Reader α} {andThen : α → Reader β} {value : α} {result : β}
  {before between after rest : List Char} {c : Char}

/-- From a text the reader gets a value and leaves another text. -/
def Reads (reader : Reader α) (before : List Char) (value : α) (after : List Char) : Prop :=
  ∀ place, ∃ place', reader ⟨before, place⟩ = (.ok value, ⟨after, place'⟩)

/-! ## Rules -/

/-- A step that gives a value is followed by what is done with the value. -/
theorem bind_of_ok {cursor cursor' : Cursor} (h : reader cursor = (.ok value, cursor')) :
    (reader >>= andThen) cursor = andThen value cursor' := by
  change (ExceptT.bind reader andThen) cursor = _
  simp only [ExceptT.bind, ExceptT.mk, bind, StateT.bind]
  rw [h]
  rfl

theorem Reads.pure (value : α) (rest : List Char) : Reads (pure value) rest value rest :=
  fun place => ⟨place, rfl⟩

theorem Reads.bind (hfirst : Reads reader before value between)
    (hsecond : Reads (andThen value) between result after) :
    Reads (reader >>= andThen) before result after := by
  intro place
  obtain ⟨halfway, hread⟩ := hfirst place
  obtain ⟨final, hfinished⟩ := hsecond halfway
  exact ⟨final, (bind_of_ok hread).trans hfinished⟩

/-- A step that depends on how much is left. -/
theorem Reads.remaining {andThen : Nat → Reader β}
    (hread : Reads (andThen (before.length + 1)) before result after) :
    Reads (remaining >>= andThen) before result after :=
  .bind (fun place => ⟨place, rfl⟩) hread

/-- The next character is looked at. -/
theorem Reads.peek {andThen : Option Char → Reader β}
    (hread : Reads (andThen before.head?) before result after) :
    Reads (peek >>= andThen) before result after :=
  .bind (fun place => ⟨place, rfl⟩) hread

/-- Between a character that is no blank and what comes before it there are no blanks. -/
theorem Reads.blanks {andThen : Option Char → Reader β} (hsolid : isBlank c = false)
    (hread : Reads (andThen (some c)) (c :: rest) result after) :
    Reads (blanks >>= andThen) (c :: rest) result after := by
  refine .bind (fun place => ⟨place, ?_⟩) hread
  change (Except.ok (skipBlanks place (c :: rest)).rest.head?, skipBlanks place (c :: rest)) = _
  rw [skipBlanks, if_neg (by simp [hsolid])]
  rfl

theorem skipBlanks_of_blanks (hblanks : Blanks before between) (place : Place) :
    ∃ later, skipBlanks place before = skipBlanks later between := by
  induction hblanks generalizing place with
  | done rest => exact ⟨place, rfl⟩
  | more hblank hothers ih =>
    obtain ⟨later, hsame⟩ := ih (place.after _)
    exact ⟨later, by rw [skipBlanks, if_pos hblank, hsame]⟩

/-- Blanks are passed over. -/
theorem Reads.behind {andThen : Option Char → Reader β} (hblanks : Blanks before between)
    (hread : Reads (Reader.blanks >>= andThen) between result after) :
    Reads (Reader.blanks >>= andThen) before result after := by
  intro place
  have hpassed (place : Place) (text : List Char) : (Reader.blanks >>= andThen) ⟨text, place⟩ =
      andThen (skipBlanks place text).rest.head? (skipBlanks place text) := bind_of_ok rfl
  obtain ⟨later, hsame⟩ := skipBlanks_of_blanks hblanks place
  obtain ⟨final, hread⟩ := hread later
  exact ⟨final, by rw [hpassed, hsame, ← hpassed, hread]⟩

/-- Blanks are passed over up to a character that is none. -/
theorem Reads.blanksTo {andThen : Option Char → Reader β} (hblanks : Blanks before (c :: rest))
    (hsolid : isBlank c = false) (hread : Reads (andThen (some c)) (c :: rest) result after) :
    Reads (Reader.blanks >>= andThen) before result after :=
  .behind hblanks (.blanks hsolid hread)

/-- A character is passed over. -/
theorem Reads.skip {andThen : Unit → Reader β} (hread : Reads (andThen ()) rest result after) :
    Reads (skip >>= andThen) (c :: rest) result after :=
  .bind (fun _ => ⟨_, rfl⟩) hread

/-- A character is taken. -/
theorem Reads.next {andThen : Option Char → Reader β}
    (hread : Reads (andThen (some c)) rest result after) :
    Reads (Reader.next >>= andThen) (c :: rest) result after :=
  .bind (fun _ => ⟨_, rfl⟩) hread

/-- Where a fault is reported does not matter when there is none. -/
theorem Reads.placed (hread : Reads reader before value after) :
    Reads (placed reader) before value after := by
  intro place
  obtain ⟨final, hread⟩ := hread place
  refine ⟨final, ?_⟩
  unfold Reader.placed
  rw [hread]

theorem Reads.within {segment : Segment} (hread : Reads reader before value after) :
    Reads (within segment reader) before value after := by
  intro place
  obtain ⟨final, hread⟩ := hread place
  refine ⟨final, ?_⟩
  unfold Reader.within
  change (ExceptT.tryCatch reader _) _ = _
  simp only [ExceptT.tryCatch, ExceptT.mk, Bind.bind, StateT.bind]
  rw [hread]
  rfl

/-- A container is read up to its end, which is then passed over. -/
theorem Reads.enclosed {content : Reader α} {close : Reader Unit}
    (hinside : Reads content before value between) (hclosed : Reads close between () after) :
    Reads (enclosed content close) before value after := by
  intro place
  obtain ⟨halfway, hread⟩ := hinside place
  obtain ⟨final, hfinished⟩ := hclosed halfway
  refine ⟨final, ?_⟩
  unfold Reader.enclosed
  rw [hread]
  simp only
  rw [hfinished]

/-- A whole text is read. -/
theorem Reads.run {s : String} (hread : Reads reader s.toList value after) :
    reader.run s = .ok value := by
  obtain ⟨final, hread⟩ := hread ⟨1, 0⟩
  unfold Reader.run Cursor.ofText
  rw [hread]

/-! ## Texts -/

/-- A hexadecimal digit takes one byte. -/
theorem utf8Size_of_hexDigit {c : Char} {n : Nat} (h : hexDigit? c = some n) : c.utf8Size = 1 := by
  have hsmall : c.val ≤ 127 := by
    unfold hexDigit? Char.isDigit at h
    rw [UInt32.le_iff_toNat_le]
    split at h
    · rename_i hdigit
      rw [Bool.and_eq_true, decide_eq_true_eq, decide_eq_true_eq, UInt32.le_iff_toNat_le] at hdigit
      exact hdigit.2.trans (by decide)
    · split at h
      · rename_i hletter
        exact (UInt32.le_iff_toNat_le.1 hletter.2).trans (by decide)
      · split at h
        · rename_i hletter
          exact (UInt32.le_iff_toNat_le.1 hletter.2).trans (by decide)
        · cases h
  unfold Char.utf8Size
  exact if_pos hsmall

/-- All characters of a hexadecimal number are digits. -/
theorem exists_hexDigit {cs : List Char} {value : Nat} (h : hexValue? cs = some value) {c : Char}
    (hmem : c ∈ cs) : ∃ n, hexDigit? c = some n := by
  unfold hexValue? at h
  generalize 0 = acc at h
  induction cs generalizing acc with
  | nil => cases hmem
  | cons d cs ih =>
    rw [List.foldlM_cons, Option.bind_eq_bind, Option.bind_eq_some_iff] at h
    obtain ⟨acc', hfirst, hothers⟩ := h
    obtain ⟨n, hdigit, -⟩ := Option.map_eq_some_iff.1 hfirst
    rcases List.mem_cons.1 hmem with rfl | hmem
    · exact ⟨n, hdigit⟩
    · exact ih hmem acc' hothers

/-- So each of them takes one byte. -/
theorem utf8Size_of_hexValue {cs : List Char} {value : Nat} (h : hexValue? cs = some value) {c : Char}
    (hmem : c ∈ cs) : c.utf8Size = 1 := by
  obtain ⟨n, hdigit⟩ := exists_hexDigit h hmem
  exact utf8Size_of_hexDigit hdigit

/-- Four digits are read. -/
theorem reads_codeUnit {unit : Nat} (hcode : CodeUnit before unit after) :
    Reads codeUnit before unit after := by
  obtain ⟨hvalue⟩ := hcode
  rename_i a b c d
  have hsmall {x : Char} : x ∈ [a, b, c, d] → x.utf8Size = 1 := utf8Size_of_hexValue hvalue
  intro place
  obtain ⟨final, hpassed⟩ : ∃ final, place.afterBytes? 4 (a :: b :: c :: d :: after) = some final := by
    simp only [List.mem_cons, List.not_mem_nil, or_false, forall_eq_or_imp, forall_eq] at hsmall
    simp [Place.afterBytes?, hsmall]
  refine ⟨final, ?_⟩
  unfold codeUnit
  refine (bind_of_ok rfl).trans ?_
  simp only [hpassed, List.take_succ_cons, List.take_zero, hvalue]
  rfl

theorem ne_code_of_letterEscape {letter : Char} (hstands : letterEscape? letter = some c) :
    letter ≠ 'u' := by
  rintro rfl
  cases hstands

/-- The letter after a backslash is read as the character that it stands for. -/
theorem reads_escape_letter {letter : Char} (hstands : letterEscape? letter = some c)
    (rest : List Char) : Reads escape (letter :: rest) c rest := by
  have hnotCode := ne_code_of_letterEscape hstands
  unfold escape
  apply Reads.peek
  simp only [List.head?_cons, hstands]
  exact .skip (.pure c rest)

/-- The code after a backslash is read as its character. -/
theorem reads_escape_code {unit : Nat} (hcode : CodeUnit before unit after)
    (hsingle : unit < 0xd800 ∨ 0xdfff < unit) :
    Reads escape ('u' :: before) (Char.ofNat unit) after := by
  unfold escape
  apply Reads.peek
  apply Reads.skip
  unfold escapedCode
  apply Reads.bind (reads_codeUnit hcode)
  rw [if_neg (by omega), if_pos (by omega)]
  exact .pure _ after

theorem reads_pairMark (c : Char) (rest : List Char) : Reads (pairMark c) (c :: rest) () rest := by
  unfold pairMark
  apply Reads.peek
  simp only [List.head?_cons, ↓reduceIte]
  exact fun _ => ⟨_, rfl⟩

/-- The two codes of a surrogate pair are read as one character. -/
theorem reads_escape_pair {high low : Nat} (hfirst : CodeUnit before high ('\\' :: 'u' :: between))
    (hleading : 0xd800 ≤ high ∧ high ≤ 0xdbff) (hsecond : CodeUnit between low after)
    (htrailing : 0xdc00 ≤ low ∧ low ≤ 0xdfff) :
    Reads escape ('u' :: before)
      (Char.ofNat ((high - 0xd800) * 0x400 + (low - 0xdc00) + 0x10000)) after := by
  unfold escape
  apply Reads.peek
  apply Reads.skip
  unfold escapedCode
  apply Reads.bind (reads_codeUnit hfirst)
  rw [if_neg (by omega), if_neg (by omega)]
  apply Reads.bind (reads_pairMark _ _)
  apply Reads.bind (reads_pairMark _ _)
  apply Reads.bind (reads_codeUnit hsecond)
  rw [if_neg (by omega)]
  exact .pure _ after

/-- There is a step left, and enough of them behind it. -/
theorem exists_step {steps fuel : Nat} (henough : steps < fuel) : ∃ less, fuel = less + 1 ∧
    steps ≤ less :=
  ⟨fuel - 1, by omega, by omega⟩

/-- The characters of a text are read one after the other, up to the quote. -/
theorem reads_textFrom {cs : List Char} (h : Spells before cs after) {fuel : Nat} (read : List Char)
    (henough : before.length ≤ fuel) :
    Reads (textFrom fuel read) before (String.ofList (read.reverse ++ cs)) after := by
  have hnext (read : List Char) (c : Char) (cs : List Char) :
      String.ofList ((c :: read).reverse ++ cs) = String.ofList (read.reverse ++ c :: cs) := by
    rw [List.reverse_cons, List.append_assoc, List.singleton_append]
  induction h generalizing fuel read with
  | quote rest =>
    obtain ⟨fuel, rfl, -⟩ := exists_step henough
    rw [List.append_nil]
    exact .next (.pure _ rest)
  | @verbatim c text cs rest hverbatim hothers ih =>
    obtain ⟨fuel, rfl, hsteps⟩ := exists_step henough
    unfold textFrom
    apply Reads.next
    split
    · rename_i habsent
      cases habsent
    · rename_i hfound
      exact absurd (Option.some.inj hfound) hverbatim.quote
    · rename_i hfound
      exact absurd (Option.some.inj hfound) hverbatim.backslash
    · rename_i hfound
      cases hfound
      rw [if_neg (Nat.not_lt.2 hverbatim.printable), ← hnext]
      exact ih (c :: read) hsteps
  | letter hstands hothers ih =>
    obtain ⟨fuel, rfl, hsteps⟩ := exists_step henough
    rw [← hnext]
    exact .next (.bind (reads_escape_letter hstands _) (ih _ (Nat.le_of_succ_le hsteps)))
  | code hcode hsingle hothers ih =>
    obtain ⟨fuel, rfl, hsteps⟩ := exists_step henough
    rw [← hnext]
    refine .next (.bind (reads_escape_code hcode hsingle) (ih _ ?_))
    cases hcode
    simp only [List.length_cons] at hsteps
    omega
  | pair hfirst hleading hsecond htrailing hothers ih =>
    obtain ⟨fuel, rfl, hsteps⟩ := exists_step henough
    rw [← hnext]
    refine .next (.bind (reads_escape_pair hfirst hleading hsecond htrailing) (ih _ ?_))
    cases hfirst
    cases hsecond
    simp only [List.length_cons] at hsteps
    omega

/-- A text is read as the characters that it spells. -/
theorem reads_spelled {cs : List Char} (h : Spells before cs after) :
    Reads text before (String.ofList cs) after := by
  intro place
  obtain ⟨final, hread⟩ := reads_textFrom h [] (Nat.le_succ before.length) place
  exact ⟨final, (bind_of_ok rfl).trans hread⟩

/-- The last two hexadecimal digits of a small code are read as the code. -/
theorem hexValue?_digits (n : Nat) (hsmall : n < 0x20) :
    hexValue? ['0', '0', Nat.digitChar (n / 16), Nat.digitChar (n % 16)] = some n := by
  have hall : ∀ n : Fin 0x20,
      hexValue? ['0', '0', Nat.digitChar (n.val / 16), Nat.digitChar (n.val % 16)] = some n.val := by
    decide
  exact hall ⟨n, hsmall⟩

/-- A written text spells the characters that it was written for. -/
theorem spells_written (cs rest : List Char) :
    Spells (cs.flatMap escapeChar ++ '"' :: rest) cs rest := by
  induction cs with
  | nil => exact .quote rest
  | cons c cs ih =>
    rw [List.flatMap_cons, List.append_assoc]
    rcases escapeChar_cases c with ⟨letter, hwritten, hstands⟩ | ⟨hcontrol, hwritten⟩ |
      ⟨hquote, hbackslash, hprintable, hwritten⟩
    · rw [hwritten]
      exact .letter hstands ih
    · rw [hwritten]
      have hspelled : Spells _ (Char.ofNat c.toNat :: cs) rest :=
        .code (.digits (hexValue?_digits c.toNat hcontrol) _) (.inl (by omega)) ih
      rwa [Char.ofNat_toNat] at hspelled
    · rw [hwritten]
      exact .verbatim ⟨hquote, hbackslash, Nat.not_lt.1 hprintable⟩ ih

/-- A written text is read as the text that it was written for. -/
theorem reads_text (s : String) (rest : List Char) :
    Reads text (s.toList.flatMap escapeChar ++ '"' :: rest) s rest := by
  have hread := reads_spelled (spells_written s.toList rest)
  rwa [String.ofList_toList] at hread

/-- The characters of a text with its quotes. -/
def quoted (s : String) (rest : List Char) : List Char :=
  '"' :: (s.toList.flatMap escapeChar ++ '"' :: rest)

theorem toList_quotedText (s : String) (rest : List Char) :
    (quotedText s).toList ++ rest = quoted s rest := by
  simp [quotedText, quoted, String.toList_ofList]

@[simp]
theorem quoted_append (s : String) (front back : List Char) :
    quoted s front ++ back = quoted s (front ++ back) := by
  simp [quoted]

/-- A text as a value. -/
theorem reads_value_text (room : Nat) (s : String) (rest : List Char) :
    Reads (Reader.value room) (quoted s rest) (.text s) rest := by
  have hscalar (container : Char → Reader Json) :
      Reads (scalarOr container) (quoted s rest) (.text s) rest :=
    .blanks rfl (.skip (.bind (reads_text s rest) (.pure _ rest)))
  cases room with
  | zero => exact hscalar _
  | succ room => exact hscalar _

/-- A text that is judged by its content. -/
theorem reads_textBy {expected : String} {judge : String → Except Cause α} {s : String}
    (haccepted : judge s = .ok value) (rest : List Char) :
    Reads (textBy expected judge) (quoted s rest) value rest := by
  apply Reads.placed
  apply Reads.blanks rfl
  apply Reads.skip
  apply Reads.bind (reads_text s rest)
  rw [haccepted]
  exact .pure value rest

/-! ## Objects -/

theorem reads_skip (c : Char) (rest : List Char) : Reads Reader.skip (c :: rest) () rest :=
  fun _ => ⟨_, rfl⟩

theorem reads_colon_behind (hblanks : Blanks before (':' :: rest)) : Reads colon before () rest :=
  .blanksTo hblanks rfl (reads_skip _ rest)

theorem reads_colon (rest : List Char) : Reads colon (':' :: rest) () rest :=
  reads_colon_behind (.done _)

theorem reads_endObject (rest : List Char) : Reads endObject ('\x7d' :: rest) () rest :=
  .blanks rfl (reads_skip _ rest)

/-- What stands between two members. -/
def separated (first : Bool) (rest : List Char) : List Char := if first then rest else ',' :: rest

theorem parted_separated (first : Bool) (rest : List Char) :
    Parted first (separated first rest) rest := by
  cases first with
  | true => exact .first rest
  | false => exact .comma (.done _)

theorem reads_hasKey_of {first : Bool} {text next opened : List Char} (hparted : Parted first text next)
    (hfront : Blanks next ('"' :: opened)) : Reads (hasKey first) text true ('"' :: opened) := by
  cases hparted with
  | first => exact .blanksTo hfront rfl (.pure true _)
  | comma hblanks => exact .blanksTo hblanks rfl (.skip (.blanksTo hfront rfl (.pure true _)))

theorem reads_key_of {first : Bool} {text next opened key : List Char} (hparted : Parted first text next)
    (hfront : Blanks next ('"' :: opened)) (hspells : Spells opened key rest) :
    Reads (key? first) text (some (String.ofList key)) rest :=
  .bind (reads_hasKey_of hparted hfront) (.skip (.bind (reads_spelled hspells) (.pure _ rest)))

theorem reads_key_close {first : Bool} {text : List Char} (hclosed : Blanks text ('\x7d' :: rest)) :
    Reads (key? first) text none ('\x7d' :: rest) :=
  .bind (.blanksTo hclosed rfl (.pure false _)) (.pure none _)

theorem reads_key (first : Bool) (key : String) (rest : List Char) :
    Reads (key? first) (separated first (quoted key rest)) (some key) rest := by
  have hread := reads_key_of (parted_separated first _) (.done _) (spells_written key.toList rest)
  rwa [String.ofList_toList] at hread

theorem reads_key_end (first : Bool) (rest : List Char) :
    Reads (key? first) ('\x7d' :: rest) none ('\x7d' :: rest) :=
  reads_key_close (.done _)

/-! ## Records -/

section Records

variable {room : Nat} {key name : String} {σ τ γ δ : Type}

/-- One of the fields takes the member with a certain key. -/
def Takes (fields : Fields σ γ) (room : Nat) (key : String) (slots : σ) (before : List Char)
    (slots' : σ) (after : List Char) : Prop :=
  ∃ taken, fields.offer room key slots = some taken ∧ Reads taken before slots' after

/-- A field that nothing is known of takes the member of its name. -/
theorem Takes.own {absence : Absence α} {inner : Shape α} {fields : Fields τ δ} {others : τ}
    (hread : Reads (inner.read room) before value after) :
    Takes (.field key absence inner fields) room key (none, others) (':' :: before)
      (some value, others) after := by
  refine ⟨_, by rw [Fields.offer, if_pos rfl], ?_⟩
  simp only [Option.isSome_none, Bool.false_eq_true, ↓reduceIte]
  exact .within (.bind (reads_colon before) (.bind hread (.pure _ after)))

/-- A member of another name is left to the other fields. -/
theorem Takes.further {absence : Absence α} {inner : Shape α} {fields : Fields τ δ} {slot : Option α}
    {others others' : τ} (hapart : key ≠ name)
    (htakes : Takes fields room key others before others' after) :
    Takes (.field name absence inner fields) room key (slot, others) before (slot, others') after := by
  obtain ⟨taken, hoffered, hread⟩ := htakes
  refine ⟨_, by rw [Fields.offer, if_neg hapart, hoffered]; rfl, ?_⟩
  exact .bind hread (.pure _ after)

variable {fields : Fields σ γ} {fuel : Nat} {first : Bool} {slots slots' : σ}

/-- A member that one of the fields takes. -/
theorem reads_member {known : σ} (htakes : Takes fields room key slots before slots' between)
    (hmore : Reads (fieldsBy (fields.offer room) fuel false slots') between known after) :
    Reads (fieldsBy (fields.offer room) (fuel + 1) first slots) (separated first (quoted key before))
      known after := by
  obtain ⟨taken, hoffered, hread⟩ := htakes
  unfold fieldsBy
  apply Reads.bind (reads_key first key before)
  simp only [hoffered]
  exact .bind hread hmore

/-- The end of the members. -/
theorem reads_members_end (offer : String → σ → Option (Reader σ)) (fuel : Nat) (first : Bool)
    (slots : σ) (rest : List Char) :
    Reads (fieldsBy offer fuel first slots) ('\x7d' :: rest) slots ('\x7d' :: rest) := by
  cases fuel with
  | zero => exact .pure slots _
  | succ fuel => exact .bind (reads_key_end first rest) (.pure slots _)

/-- An object whose members the fields of a record take. -/
theorem reads_record (known : σ) {title : String} {listed : Nat → Reader α}
    {offer : Nat → String → σ → Option (Reader σ)} {finish : σ → Except Cause α}
    (hmembers : Reads (fieldsBy (offer room) (before.length + 1) true slots) before known
      ('\x7d' :: after))
    (hfinished : finish known = .ok value) :
    Reads (recordBy title listed offer finish slots (room + 1)) ('\x7b' :: before) value after := by
  apply Reads.placed
  apply Reads.blanks rfl
  apply Reads.skip
  refine .enclosed (.remaining (.bind hmembers ?_)) (reads_endObject after)
  rw [hfinished]
  exact .pure value _

end Records

end Reader

end InstanceIdentity.Json
