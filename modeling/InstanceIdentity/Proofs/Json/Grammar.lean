import InstanceIdentity.Json.Parser
import InstanceIdentity.Proofs.Binary64.Literal

/-!
# The grammar of JSON texts

What stands at the front of a text is told by relations between the text and what is left of it.  They
do not say how the text is read: which characters are taken, in which order and with which faults.

A value that is only passed over is held to the same grammar as one that is read, but the escapes of its
texts need not form characters and its numbers have no range.  So there are two relations for texts.

Main definitions:

- `Json.Spells`, `Json.Spans`: texts up to their closing quote, read or passed over.
- `Json.Number`: numbers without their sign.
- `Json.Stands`: values, and the contents of containers.

Main results:

- Theorem `Json.Stands.length_lt`: every value has a character.
- Theorem `Json.Stands.ended`: behind an item or a member no number goes on.
-/

namespace InstanceIdentity.Json

open Reader (isBlank letterEscape? hexValue? fitting exponentLimit Numeral numeralValue)
open Binary64 (Digits Exponential digits_zeros)

/-! ## Blanks -/

/-- Blanks, or nothing, stand in front of a text. -/
inductive Blanks : List Char → List Char → Prop where
  | done (rest : List Char) : Blanks rest rest
  | more {c : Char} {text rest : List Char} (blank : isBlank c = true) (others : Blanks text rest) :
      Blanks (c :: text) rest

theorem Blanks.trans {text between rest : List Char} (hfirst : Blanks text between)
    (hsecond : Blanks between rest) : Blanks text rest := by
  induction hfirst with
  | done => exact hsecond
  | more hblank _ ih => exact .more hblank (ih hsecond)

theorem solid_of_isDigit {c : Char} (hdigit : c.isDigit = true) : isBlank c = false := by
  unfold isBlank
  simp only [Bool.or_eq_false_iff, decide_eq_false_iff_not]
  refine ⟨⟨⟨?_, ?_⟩, ?_⟩, ?_⟩ <;> (rintro rfl; cases hdigit)

/-! ## Texts -/

/-- Four hexadecimal digits stand in front of a text. -/
inductive CodeUnit : List Char → Nat → List Char → Prop where
  | digits {a b c d : Char} {unit : Nat} (value : hexValue? [a, b, c, d] = some unit)
      (rest : List Char) : CodeUnit (a :: b :: c :: d :: rest) unit rest

/-- A character that stands for itself in a text. -/
structure Verbatim (c : Char) : Prop where
  quote : c ≠ '"'
  backslash : c ≠ '\\'
  printable : 0x20 ≤ c.toNat

/-- The characters of a text that is read, up to its closing quote.  A character is written by itself,
by a letter after a backslash, by its code, or by the codes of a surrogate pair. -/
inductive Spells : List Char → List Char → List Char → Prop where
  | quote (rest : List Char) : Spells ('"' :: rest) [] rest
  | verbatim {c : Char} {text cs rest : List Char} (verbatim : Verbatim c)
      (others : Spells text cs rest) : Spells (c :: text) (c :: cs) rest
  | letter {letter c : Char} {text cs rest : List Char} (stands : letterEscape? letter = some c)
      (others : Spells text cs rest) : Spells ('\\' :: letter :: text) (c :: cs) rest
  | code {unit : Nat} {text more cs rest : List Char} (code : CodeUnit text unit more)
      (single : unit < 0xd800 ∨ 0xdfff < unit) (others : Spells more cs rest) :
      Spells ('\\' :: 'u' :: text) (Char.ofNat unit :: cs) rest
  | pair {high low : Nat} {text between more cs rest : List Char}
      (first : CodeUnit text high ('\\' :: 'u' :: between)) (leading : 0xd800 ≤ high ∧ high ≤ 0xdbff)
      (second : CodeUnit between low more) (trailing : 0xdc00 ≤ low ∧ low ≤ 0xdfff)
      (others : Spells more cs rest) :
      Spells ('\\' :: 'u' :: text)
        (Char.ofNat ((high - 0xd800) * 0x400 + (low - 0xdc00) + 0x10000) :: cs) rest

/-- The characters of a text that is passed over, up to its closing quote. -/
inductive Spans : List Char → List Char → Prop where
  | quote (rest : List Char) : Spans ('"' :: rest) rest
  | verbatim {c : Char} {text rest : List Char} (verbatim : Verbatim c) (others : Spans text rest) :
      Spans (c :: text) rest
  | letter {letter c : Char} {text rest : List Char} (stands : letterEscape? letter = some c)
      (others : Spans text rest) : Spans ('\\' :: letter :: text) rest
  | code {unit : Nat} {text more rest : List Char} (code : CodeUnit text unit more)
      (others : Spans more rest) : Spans ('\\' :: 'u' :: text) rest

/-- A text that can be read can be passed over. -/
theorem Spells.spans {text cs rest : List Char} (h : Spells text cs rest) : Spans text rest := by
  induction h with
  | quote rest => exact .quote rest
  | verbatim hverbatim _ ih => exact .verbatim hverbatim ih
  | letter hstands _ ih => exact .letter hstands ih
  | code hcode _ _ ih => exact .code hcode ih
  | pair hfirst _ hsecond _ _ ih => exact .code hfirst (.code hsecond ih)

/-! ## Numbers -/

/-- A run of digits that a number may start with: a zero alone, or another digit first. -/
inductive Leading : List Char → Prop where
  | zero : Leading ['0']
  | run (c : Char) (ds : List Char) (digits : Digits (c :: ds)) (nonzero : c ≠ '0') : Leading (c :: ds)

theorem Leading.digits {ds : List Char} (h : Leading ds) : Digits ds := by
  cases h with
  | zero => exact digits_zeros 1
  | run c ds hdigits hnonzero => exact hdigits

theorem Leading.append {ds es : List Char} (h : Leading ds) (hnonzero : ds.head? ≠ some '0')
    (hdigits : Digits es) : Leading (ds ++ es) := by
  cases h with
  | zero => exact absurd rfl hnonzero
  | run c ds hfirst hleading => exact .run c (ds ++ es) (hfirst.append hdigits) hleading

theorem Leading.take {ds : List Char} (h : Leading ds) {n : Nat}
    (hsome : 0 < n) : Leading (ds.take n) := by
  obtain ⟨n, rfl⟩ := Nat.exists_eq_add_one.2 hsome
  cases h with
  | zero =>
    rw [List.take_succ_cons, List.take_nil]
    exact .zero
  | run c ds hdigits hnonzero =>
    exact .run c (ds.take n) (fun d hmem => hdigits d (List.mem_of_mem_take (i := n + 1) hmem)) hnonzero

/-- The digits behind a point, or none. -/
inductive Fraction : List Char → List Char → List Char → Prop where
  | none (rest : List Char) : Fraction rest [] rest
  | point {ds : List Char} (digits : Digits ds) (nonempty : ds ≠ []) (rest : List Char) :
      Fraction ('.' :: (ds ++ rest)) ds rest

/-- A number without its sign, by its parts. -/
structure Figures where
  whole : List Char
  fraction : List Char
  exponent : Option Int

/-- What is kept of a number. -/
def Figures.numeral (figures : Figures) : Numeral :=
  let front := fitting (Nat.ofDigitChars 10 figures.whole 0)
  let all := fitting (Nat.ofDigitChars 10 figures.fraction front.1)
  { digits := all.1
    exponent := figures.exponent.getD 0 + front.2 + all.2 - figures.fraction.length
    whole := figures.fraction.isEmpty && figures.exponent.isNone && decide (front.2 = 0) }

/-- The exponent of a number other than zero is a word of 32 bits. -/
def Figures.InLimit (figures : Figures) : Prop :=
  figures.numeral.digits ≠ 0 → ∀ e ∈ figures.exponent, e ≤ exponentLimit

/-- A number without its sign stands in front of a text. -/
inductive Number : List Char → Figures → List Char → Prop where
  | parts {ds es text more rest : List Char} {exponent : Option Int} (leading : Leading ds)
      (fraction : Fraction text es more) (exponential : Exponential more exponent rest) :
      Number (ds ++ text) ⟨ds, es, exponent⟩ rest

/-! ## Values -/

/-- What stands between two items or members: a comma, except in front of the first. -/
inductive Parted : Bool → List Char → List Char → Prop where
  | first (rest : List Char) : Parted true rest rest
  | comma {text rest : List Char} (blanks : Blanks text (',' :: rest)) : Parted false text rest

/-- A key with its colon, and the blanks around them. -/
inductive Keyed (Key : List Char → List Char → Prop) : List Char → List Char → Prop where
  | colon {text opened closed behind rest : List Char} (front : Blanks text ('"' :: opened))
      (key : Key opened closed) (back : Blanks closed (':' :: behind)) (blanks : Blanks behind rest) :
      Keyed Key text rest

/-- The parts of a document that are passed over: a value, and what is left of a container, up to its
closing bracket. -/
inductive Part where
  | value
  | items (first : Bool)
  | members (first : Bool)

/-- A part of a document stands in front of a text. -/
inductive Stands : Part → List Char → List Char → Prop where
  | null (rest : List Char) : Stands .value ("null".toList ++ rest) rest
  | yes (rest : List Char) : Stands .value ("true".toList ++ rest) rest
  | no (rest : List Char) : Stands .value ("false".toList ++ rest) rest
  | number {text rest : List Char} {figures : Figures} (number : Number text figures rest) :
      Stands .value text rest
  | negative {text rest : List Char} {figures : Figures} (number : Number text figures rest) :
      Stands .value ('-' :: text) rest
  | text {text rest : List Char} (spans : Spans text rest) : Stands .value ('"' :: text) rest
  | array {text rest : List Char} (items : Stands (.items true) text rest) :
      Stands .value ('[' :: text) rest
  | object {text rest : List Char} (members : Stands (.members true) text rest) :
      Stands .value ('\x7b' :: text) rest
  | endItems {first : Bool} {text rest : List Char} (blanks : Blanks text (']' :: rest)) :
      Stands (.items first) text rest
  | item {first : Bool} {text next solid behind rest : List Char} (parted : Parted first text next)
      (blanks : Blanks next solid) (value : Stands .value solid behind)
      (others : Stands (.items false) behind rest) : Stands (.items first) text rest
  | endMembers {first : Bool} {text rest : List Char} (blanks : Blanks text ('\x7d' :: rest)) :
      Stands (.members first) text rest
  | member {first : Bool} {text next solid behind rest : List Char}
      (parted : Parted first text next) (key : Keyed Spans next solid)
      (value : Stands .value solid behind) (others : Stands (.members false) behind rest) :
      Stands (.members first) text rest

/-- A value without inner structure that is read.  A number has its limit, and is not beyond the range of
binary64. -/
inductive Scalar : List Char → Json → List Char → Prop where
  | null (rest : List Char) : Scalar ("null".toList ++ rest) .null rest
  | yes (rest : List Char) : Scalar ("true".toList ++ rest) (.boolean true) rest
  | no (rest : List Char) : Scalar ("false".toList ++ rest) (.boolean false) rest
  | number {text rest : List Char} {figures : Figures} {value : Json} (number : Number text figures rest)
      (limit : figures.InLimit) (denoted : numeralValue false figures.numeral = value)
      (bounded : ∀ sign, value ≠ .float (.infinite sign)) : Scalar text value rest
  | negative {text rest : List Char} {figures : Figures} {value : Json}
      (number : Number text figures rest) (limit : figures.InLimit)
      (denoted : numeralValue true figures.numeral = value)
      (bounded : ∀ sign, value ≠ .float (.infinite sign)) : Scalar ('-' :: text) value rest
  | text {text cs rest : List Char} (spells : Spells text cs rest) :
      Scalar ('"' :: text) (.text (String.ofList cs)) rest

/-- A value that can be read can be passed over. -/
theorem Scalar.stands {text rest : List Char} {value : Json} (h : Scalar text value rest) :
    Stands .value text rest := by
  cases h with
  | null => exact .null rest
  | yes => exact .yes rest
  | no => exact .no rest
  | number hnumber => exact .number hnumber
  | negative hnumber => exact .negative hnumber
  | text hspells => exact .text hspells.spans

theorem Scalar.exists_spells {text rest : List Char} {s : String} (h : Scalar text (.text s) rest) :
    ∃ opened cs, text = '"' :: opened ∧ Spells opened cs rest ∧ s = String.ofList cs := by
  have hnotText (negative : Bool) (n : Numeral) : numeralValue negative n ≠ .text s := by
    unfold numeralValue
    split <;> [skip; split] <;> simp
  cases h with
  | number _ _ hdenoted => exact absurd hdenoted (hnotText false _)
  | negative _ _ hdenoted => exact absurd hdenoted (hnotText true _)
  | text hspells => exact ⟨_, _, rfl, hspells, rfl⟩

/-! ## What follows -/

/-- No digit follows. -/
def Undigited (rest : List Char) : Prop := ∀ c ∈ rest.head?, c.isDigit = false

/-- Nothing follows that would continue a number. -/
structure Ended (rest : List Char) : Prop where
  digit : Undigited rest
  point : rest.head? ≠ some '.'
  small : rest.head? ≠ some 'e'
  large : rest.head? ≠ some 'E'

theorem ended_nil : Ended [] where
  digit _ h := by cases h
  point := by simp
  small := by simp
  large := by simp

theorem ended_cons {c : Char} (hdigit : c.isDigit = false) (hpoint : c ≠ '.') (hsmall : c ≠ 'e')
    (hlarge : c ≠ 'E') (rest : List Char) : Ended (c :: rest) where
  digit d h := by
    cases h
    exact hdigit
  point := by simpa using hpoint
  small := by simpa using hsmall
  large := by simpa using hlarge

theorem ended_comma (rest : List Char) : Ended (',' :: rest) :=
  ended_cons rfl (by decide) (by decide) (by decide) rest

theorem ended_bracket (rest : List Char) : Ended (']' :: rest) :=
  ended_cons rfl (by decide) (by decide) (by decide) rest

theorem ended_brace (rest : List Char) : Ended ('\x7d' :: rest) :=
  ended_cons rfl (by decide) (by decide) (by decide) rest

/-- Blanks continue no number. -/
theorem Blanks.ended {text rest : List Char} (h : Blanks text rest) (hended : Ended rest) :
    Ended text := by
  cases h with
  | done => exact hended
  | @more c text rest hblank hothers =>
    unfold isBlank at hblank
    simp only [Bool.or_eq_true, decide_eq_true_eq] at hblank
    rcases hblank with ((rfl | rfl) | rfl) | rfl <;>
      exact ended_cons rfl (by decide) (by decide) (by decide) _

/-- Behind an item comes a comma or the end of the array. -/
theorem Stands.ended_items {text rest : List Char} (h : Stands (.items false) text rest) :
    Ended text := by
  cases h with
  | endItems hblanks => exact hblanks.ended (ended_bracket _)
  | item hparted =>
    cases hparted with
    | comma hblanks => exact hblanks.ended (ended_comma _)

/-- Behind a member comes a comma or the end of the object. -/
theorem Stands.ended_members {text rest : List Char} (h : Stands (.members false) text rest) :
    Ended text := by
  cases h with
  | endMembers hblanks => exact hblanks.ended (ended_brace _)
  | member hparted =>
    cases hparted with
    | comma hblanks => exact hblanks.ended (ended_comma _)

/-! ## Sizes -/

theorem Blanks.length_le {text rest : List Char} (h : Blanks text rest) :
    rest.length ≤ text.length := by
  induction h with
  | done => exact Nat.le_refl _
  | more _ _ ih => exact Nat.le_succ_of_le ih

theorem CodeUnit.length_lt {text rest : List Char} {unit : Nat} (h : CodeUnit text unit rest) :
    rest.length < text.length := by
  cases h
  simp only [List.length_cons]
  omega

theorem Spans.length_lt {text rest : List Char} (h : Spans text rest) :
    rest.length < text.length := by
  induction h with
  | quote => exact Nat.lt_succ_self _
  | verbatim _ _ ih => exact Nat.lt_succ_of_lt ih
  | letter _ _ ih => exact Nat.lt_succ_of_lt (Nat.lt_succ_of_lt ih)
  | code hcode _ ih =>
    have := hcode.length_lt
    simp only [List.length_cons]
    omega

/-- A number starts with a digit. -/
theorem Number.start {text rest : List Char} {figures : Figures} (h : Number text figures rest) :
    ∃ c cs, text = c :: cs ∧ c.isDigit = true := by
  obtain ⟨hleading, -, -⟩ := h
  cases hleading with
  | zero => exact ⟨'0', _, rfl, rfl⟩
  | run c ds hdigits => exact ⟨c, _, rfl, hdigits c List.mem_cons_self⟩

theorem Fraction.length_le {text ds rest : List Char} (h : Fraction text ds rest) :
    rest.length ≤ text.length := by
  cases h with
  | none => exact Nat.le_refl _
  | point =>
    rw [List.length_cons, List.length_append]
    omega

theorem Number.length_lt {text rest : List Char} {figures : Figures} (h : Number text figures rest) :
    rest.length < text.length := by
  obtain ⟨c, cs, hparts, -⟩ := h.start
  obtain ⟨hleading, hfraction, hexponential⟩ := h
  have := hfraction.length_le
  have := hexponential.length_le
  cases hleading <;> simp only [List.length_cons, List.length_append] <;> omega

theorem Parted.length_le {first : Bool} {text rest : List Char} (h : Parted first text rest) :
    rest.length ≤ text.length := by
  cases h with
  | first => exact Nat.le_refl _
  | comma hblanks => exact Nat.le_of_succ_le hblanks.length_le

theorem Keyed.length_lt {Key : List Char → List Char → Prop}
    (hshorter : ∀ {text rest}, Key text rest → rest.length < text.length) {text rest : List Char}
    (h : Keyed Key text rest) : rest.length < text.length := by
  obtain ⟨hfront, hkey, hback, hblanks⟩ := h
  have := hfront.length_le
  have := hshorter hkey
  have := hback.length_le
  have := hblanks.length_le
  simp only [List.length_cons] at *
  omega

theorem length_lt_append {word : List Char} (hnonempty : word ≠ []) {rest : List Char} :
    rest.length < (word ++ rest).length := by
  have := List.length_pos_iff.2 hnonempty
  rw [List.length_append]
  omega

/-- Every part of a document has a character. -/
theorem Stands.length_lt {part : Part} {text rest : List Char} (h : Stands part text rest) :
    rest.length < text.length := by
  induction h with
  | null => exact length_lt_append (by decide)
  | yes => exact length_lt_append (by decide)
  | no => exact length_lt_append (by decide)
  | number hnumber => exact hnumber.length_lt
  | negative hnumber => exact Nat.lt_succ_of_lt hnumber.length_lt
  | text hspans => exact Nat.lt_succ_of_lt hspans.length_lt
  | array _ ih => exact Nat.lt_succ_of_lt ih
  | object _ ih => exact Nat.lt_succ_of_lt ih
  | endItems hblanks => exact hblanks.length_le
  | endMembers hblanks => exact hblanks.length_le
  | item hparted hblanks _ _ hfirst hothers =>
    have := hparted.length_le
    have := hblanks.length_le
    omega
  | member hparted hkey _ _ hfirst hothers =>
    have := hparted.length_le
    have := hkey.length_lt Spans.length_lt
    omega

/-- A value starts with a character that is neither blank nor the end of a list. -/
theorem Stands.start {text rest : List Char} (h : Stands .value text rest) :
    ∃ c cs, text = c :: cs ∧ isBlank c = false ∧ c ≠ ']' := by
  cases h with
  | null => exact ⟨'n', _, rfl, rfl, by decide⟩
  | yes => exact ⟨'t', _, rfl, rfl, by decide⟩
  | no => exact ⟨'f', _, rfl, rfl, by decide⟩
  | negative => exact ⟨'-', _, rfl, rfl, by decide⟩
  | text => exact ⟨'"', _, rfl, rfl, by decide⟩
  | array => exact ⟨'[', _, rfl, rfl, by decide⟩
  | object => exact ⟨'\x7b', _, rfl, rfl, by decide⟩
  | number hnumber =>
    obtain ⟨c, cs, rfl, hdigit⟩ := hnumber.start
    refine ⟨c, cs, rfl, solid_of_isDigit hdigit, ?_⟩
    rintro rfl
    cases hdigit

/-! ## What comes later does not matter -/

section Append

variable {text rest : List Char} (more : List Char)

theorem Blanks.append (h : Blanks text rest) : Blanks (text ++ more) (rest ++ more) := by
  induction h with
  | done => exact .done _
  | more hblank _ ih => exact .more hblank ih

theorem CodeUnit.append {unit : Nat} (h : CodeUnit text unit rest) :
    CodeUnit (text ++ more) unit (rest ++ more) := by
  obtain ⟨hvalue⟩ := h
  exact .digits hvalue _

theorem Spells.append {cs : List Char} (h : Spells text cs rest) :
    Spells (text ++ more) cs (rest ++ more) := by
  induction h with
  | quote => exact .quote _
  | verbatim hverbatim _ ih => exact .verbatim hverbatim ih
  | letter hstands _ ih => exact .letter hstands ih
  | code hcode hsingle _ ih => exact .code (hcode.append more) hsingle ih
  | pair hfirst hleading hsecond htrailing _ ih =>
    exact .pair (hfirst.append more) hleading (hsecond.append more) htrailing ih

theorem Spans.append (h : Spans text rest) : Spans (text ++ more) (rest ++ more) := by
  induction h with
  | quote => exact .quote _
  | verbatim hverbatim _ ih => exact .verbatim hverbatim ih
  | letter hstands _ ih => exact .letter hstands ih
  | code hcode _ ih => exact .code (hcode.append more) ih

theorem Fraction.append {ds : List Char} (h : Fraction text ds rest) :
    Fraction (text ++ more) ds (rest ++ more) := by
  cases h with
  | none => exact .none _
  | point hdigits hnonempty =>
    rw [List.cons_append, List.append_assoc]
    exact .point hdigits hnonempty _

theorem Number.append {figures : Figures} (h : Number text figures rest) :
    Number (text ++ more) figures (rest ++ more) := by
  obtain ⟨hleading, hfraction, hexponential⟩ := h
  rw [List.append_assoc]
  exact .parts hleading (hfraction.append more) (hexponential.append more)

theorem Parted.append {first : Bool} (h : Parted first text rest) :
    Parted first (text ++ more) (rest ++ more) := by
  cases h with
  | first => exact .first _
  | comma hblanks => exact .comma (hblanks.append more)

theorem Keyed.append {Key : List Char → List Char → Prop}
    (hlonger : ∀ {text rest}, Key text rest → Key (text ++ more) (rest ++ more))
    (h : Keyed Key text rest) : Keyed Key (text ++ more) (rest ++ more) := by
  obtain ⟨hfront, hkey, hback, hblanks⟩ := h
  exact .colon (hfront.append more) (hlonger hkey) (hback.append more) (hblanks.append more)

theorem Stands.append {part : Part} (h : Stands part text rest) :
    Stands part (text ++ more) (rest ++ more) := by
  induction h with
  | null => exact .null _
  | yes => exact .yes _
  | no => exact .no _
  | number hnumber => exact .number (hnumber.append more)
  | negative hnumber => exact .negative (hnumber.append more)
  | text hspans => exact .text (hspans.append more)
  | array _ ih => exact .array ih
  | object _ ih => exact .object ih
  | endItems hblanks => exact .endItems (hblanks.append more)
  | item hparted hblanks _ _ hfirst hothers =>
    exact .item (hparted.append more) (hblanks.append more) hfirst hothers
  | endMembers hblanks => exact .endMembers (hblanks.append more)
  | member hparted hkey _ _ hfirst hothers =>
    exact .member (hparted.append more) (hkey.append more (Spans.append more)) hfirst hothers

theorem Scalar.append {value : Json} (h : Scalar text value rest) :
    Scalar (text ++ more) value (rest ++ more) := by
  cases h with
  | null => exact .null _
  | yes => exact .yes _
  | no => exact .no _
  | number hnumber hlimit hdenoted hbounded =>
    exact .number (hnumber.append more) hlimit hdenoted hbounded
  | negative hnumber hlimit hdenoted hbounded =>
    exact .negative (hnumber.append more) hlimit hdenoted hbounded
  | text hspells => exact .text (hspells.append more)

end Append

end InstanceIdentity.Json
