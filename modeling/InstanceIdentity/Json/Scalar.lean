import InstanceIdentity.Json.Basic
import InstanceIdentity.Json.Cursor

/-!
# Words, numbers and texts

The parts of a JSON text without inner structure.  A value that is only passed over is held to the
same grammar, but its numbers have no range and its escapes need not form characters.
-/

namespace InstanceIdentity.Json.Reader

/-! ## Words -/

/-- Takes the given characters, one after the other. -/
def word : List Char → Reader Unit
  | [] => pure ()
  | expected :: rest => do
    match ← peek with
    | none => fail .endInValue
    | some c =>
      if c = expected then do skip; word rest
      else failAhead .expectedIdent

/-! ## Numbers -/

/-- The value of a decimal digit. -/
def digitValue (c : Char) : Nat := c.toNat - 48

/-- Appends a run of digits to a number; the result and the length of the run. -/
def digitRun (start : Nat) : Reader (Nat × Nat) :=
  modifyGet fun cursor =>
    let (value, count, rest) := Binary64.readDigits cursor.rest start 0
    ((value, count), ⟨rest, ⟨cursor.place.line, cursor.place.column + count⟩⟩)

/-- The digits in front of a point or exponent: a single zero, or a run that starts with another
digit. -/
def wholePart (atEnd : Cause) : Reader Nat := do
  match ← peek with
  | none => fail atEnd
  | some c =>
    if c = '0' then
      skip
      match ← peek with
      | some d => if d.isDigit then failAhead .invalidNumber else pure 0
      | none => pure 0
    else if c.isDigit then return (← digitRun 0).1
    else failAhead .invalidNumber

/-- The largest exponent that is read digit by digit. -/
def exponentLimit : Nat := 2147483647

/-- Digits of an exponent, appended to a number; with `stopping`, no further than the digit that
passes the limit. -/
def exponentDigits (stopping : Bool) (place : Place) (acc : Nat) : List Char → Nat × Cursor
  | [] => (acc, ⟨[], place⟩)
  | c :: rest =>
    if c.isDigit then
      let acc := acc * 10 + digitValue c
      let place : Place := ⟨place.line, place.column + 1⟩
      if stopping && decide (exponentLimit < acc) then (acc, ⟨rest, place⟩)
      else exponentDigits stopping place acc rest
    else (acc, ⟨c :: rest, place⟩)

/-- A number without its sign: its first digits, as many as fit into a word of 64 bits, and the power
of ten of the last of them. -/
structure Numeral where
  digits : Nat
  exponent : Int
  /-- Neither a fraction nor an exponent was written, and all digits fit. -/
  whole : Bool

/-- The first digits of a number that fit into a word of 64 bits, and the number of those that follow. -/
def fitting (digits : Nat) : Nat × Nat :=
  if digits < Nat.pow 2 64 then (digits, 0)
  else
    let (first, dropped) := fitting (digits / 10)
    (first, dropped + 1)
termination_by digits
decreasing_by
  rename_i hlarge
  have : 0 < Nat.pow 2 64 := by decide
  omega

/-- The sign of an exponent: whether it is a minus. -/
def exponentSign : Reader Bool := do
  match ← peek with
  | some '+' => do skip; return false
  | some '-' => do skip; return true
  | _ => return false

/-- An exponent after its sign. -/
def exponentValue (passing negative : Bool) (atEnd : Cause) (digits : Nat) : Reader Int := do
  match ← peek with
  | none => fail atEnd
  | some c =>
    if c.isDigit then
      let stopping := !passing && !negative && decide (digits ≠ 0)
      let value ← modifyGet fun cursor => exponentDigits stopping cursor.place 0 cursor.rest
      if stopping && decide (exponentLimit < value) then fail .numberOutOfRange
      return if negative then -(value : Int) else value
    else failAhead .invalidNumber

/-- An exponent, if one follows, after digits with the given value. -/
def exponentPart (passing : Bool) (atEnd : Cause) (digits : Nat) : Reader (Option Int) := do
  match ← peek with
  | some c =>
    if c = 'e' ∨ c = 'E' then
      skip
      let negative ← exponentSign
      return some (← exponentValue passing negative atEnd digits)
    else return none
  | none => return none

/-- A number without its sign.  With `passing` it is only passed over. -/
def numeral (passing : Bool) : Reader Numeral := do
  let atEnd : Cause := if passing then .invalidNumber else .endInValue
  let (whole, dropped) := fitting (← wholePart atEnd)
  match ← peek with
  | some '.' =>
    skip
    let (digits, places) ← digitRun whole
    if places = 0 then
      match ← peek with
      | some _ => failAhead .invalidNumber
      | none => failAhead atEnd
    let (digits, behind) := fitting digits
    let exponent ← exponentPart passing atEnd digits
    return ⟨digits, exponent.getD 0 + dropped + behind - places, false⟩
  | _ =>
    match ← exponentPart passing atEnd whole with
    | some exponent => return ⟨whole, exponent + dropped, false⟩
    | none => return ⟨whole, dropped, dropped = 0⟩

/-- The units of the binary64 number nearest to a power of ten, up to `10 ^ 308`. -/
def powerUnits (k : Nat) : Nat := Binary64.magnitude (Binary64.nearestRank
    (Nat.pow 10 k * Binary64.one) 1)

/-- A binary64 number close to `digits * 10 ^ exponent`: the digits, the power and their product or
quotient are each rounded, so that it need not be the nearest one.  Numbers that are too small become
zero, and those that are too large infinite. -/
def approximate (negative : Bool) (digits : Nat) (exponent : Int) : Binary64 :=
  let significand := Binary64.ofQuotient negative (digits * Binary64.one) 1
  if 308 < exponent then if digits = 0 then significand else .infinite negative
  else if 0 ≤ exponent then significand.scale (powerUnits exponent.toNat) Binary64.one
  else if -308 ≤ exponent then significand.scale Binary64.one (powerUnits (-exponent).toNat)
  else if -616 ≤ exponent then
    (significand.scale Binary64.one (powerUnits 308)).scale Binary64.one
      (powerUnits ((-exponent).toNat - 308))
  else significand.scale 0 1

/-- The value of a number: an integer when it is written as one and lies in range, else a binary64
number.  Minus zero is a binary64 number. -/
def numeralValue (negative : Bool) (n : Numeral) : Json :=
  if n.whole && !negative then .integer n.digits
  else if n.whole && negative && decide (0 < n.digits) && decide (n.digits ≤ Nat.pow 2 63) then
    .integer (-(n.digits : Int))
  else .float (approximate negative n.digits n.exponent)

/-- A number after its sign.  One beyond the range of binary64 is refused. -/
def number (negative : Bool) : Reader Json := do
  match numeralValue negative (← numeral false) with
  | .float (.infinite _) => fail .numberOutOfRange
  | value => return value

/-! ## Texts -/

/-- The value of a hexadecimal digit. -/
def hexDigit? (c : Char) : Option Nat :=
  if c.isDigit then some (c.toNat - 48)
  else if 'a' ≤ c ∧ c ≤ 'f' then some (c.toNat - 87)
  else if 'A' ≤ c ∧ c ≤ 'F' then some (c.toNat - 55)
  else none

/-- The value of a run of hexadecimal digits. -/
def hexValue? (cs : List Char) : Option Nat :=
  cs.foldlM (fun acc c => (hexDigit? c).map (acc * 16 + ·)) 0

/-- The four digits of an escape by code unit. -/
def codeUnit : Reader Nat := do
  let cursor ← get
  match cursor.place.afterBytes? 4 cursor.rest with
  | none => failAt cursor.finish .endInText
  | some place =>
    match hexValue? (cursor.rest.take 4) with
    | some value =>
      set (⟨cursor.rest.drop 4, place⟩ : Cursor)
      return value
    | none => failAt place .invalidEscape

/-- Takes one character that must follow the first half of a surrogate pair. -/
def pairMark (expected : Char) : Reader Unit := do
  match ← peek with
  | none => fail .endInText
  | some c => if c = expected then skip else failAhead .unfinishedEscape

/-- The character of an escape by code units: one unit, or two that form a surrogate pair. -/
def escapedCode : Reader Char := do
  let unit ← codeUnit
  if 0xdc00 ≤ unit ∧ unit ≤ 0xdfff then fail .loneSurrogate
  else if unit < 0xd800 ∨ 0xdbff < unit then return Char.ofNat unit
  else
    pairMark '\\'
    pairMark 'u'
    let low ← codeUnit
    if low < 0xdc00 ∨ 0xdfff < low then fail .loneSurrogate
    else return Char.ofNat ((unit - 0xd800) * 0x400 + (low - 0xdc00) + 0x10000)

/-- The character that a letter after the backslash stands for. -/
def letterEscape? (c : Char) : Option Char :=
  match c with
  | '"' => some '"'
  | '\\' => some '\\'
  | '/' => some '/'
  | 'b' => some '\x08'
  | 'f' => some '\x0c'
  | 'n' => some '\n'
  | 'r' => some '\r'
  | 't' => some '\t'
  | _ => none

/-- What follows a backslash. -/
def escape : Reader Char := do
  match ← peek with
  | none => fail .endInText
  | some 'u' => do skip; escapedCode
  | some c =>
    match letterEscape? c with
    | some value => do skip; return value
    | none => failAhead .invalidEscape

/-- Characters up to the closing quote, after those already read, last first. -/
def textFrom : Nat → List Char → Reader String
  | 0, _ => fail .endInText
  | fuel + 1, acc => do
    match ← next with
    | none => fail .endInText
    | some '"' => return String.ofList acc.reverse
    | some '\\' => do textFrom fuel ((← escape) :: acc)
    | some c => if c.toNat < 0x20 then fail .controlCharacter else textFrom fuel (c :: acc)

/-- A text after its opening quote. -/
def text : Reader String := do textFrom ((← get).rest.length + 1) []

/-- Passes over what follows a backslash. -/
def skipEscape : Reader Unit := do
  match ← peek with
  | none => fail .endInText
  | some 'u' => do skip; discard codeUnit
  | some c => if (letterEscape? c).isSome then skip else failAhead .invalidEscape

/-- Passes over characters up to the closing quote. -/
def skipTextFrom : Nat → Reader Unit
  | 0 => fail .endInText
  | fuel + 1 => do
    match ← peek with
    | none => fail .endInText
    | some '"' => skip
    | some '\\' => do skip; skipEscape; skipTextFrom fuel
    | some c => if c.toNat < 0x20 then fail .controlCharacter else do skip; skipTextFrom fuel

/-- Passes over a text after its opening quote. -/
def skipText : Reader Unit := do skipTextFrom ((← get).rest.length + 1)

end InstanceIdentity.Json.Reader
