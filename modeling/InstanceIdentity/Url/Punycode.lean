/-!
# Punycode

A label of any characters is written in ASCII: its ASCII characters, and behind a hyphen the others as
numbers of variable length.  Each number says how many steps of a scan lead to the place and the
character of the next insertion; a step moves one place on, and at the end of the label to the next
character.
-/

namespace InstanceIdentity.Url.Punycode

/-- The number of digits. -/
def base : Nat := 36

/-- The smallest threshold of a digit. -/
def lowest : Nat := 1

/-- The largest threshold of a digit. -/
def highest : Nat := 26

/-- The bias of the first number. -/
def initialBias : Nat := 72

/-- The first character that is no ASCII. -/
def firstCode : Nat := 0x80

/-- The digit below which a number ends, after a number of digits. -/
def threshold (position bias : Nat) : Nat := max lowest (min highest (base * (position + 1) - bias))

/-- The bias left by a difference that is brought below a bound by divisions. -/
def settle (turns delta : Nat) : Nat :=
  if 455 < delta then settle (turns + base) (delta / 35)
  else turns + base * delta / (delta + 38)
termination_by delta

/-- The bias of the next number. -/
def adapt (delta count : Nat) (first : Bool) : Nat :=
  let scaled := if first then delta / 700 else delta / 2
  settle 0 (scaled + scaled / count)

/-! ## Writing -/

/-- A digit below `36`. -/
def digit (n : Nat) : Char := if n < 26 then Char.ofNat (97 + n) else Char.ofNat (22 + n)

/-- The digits of a number. -/
def digits (position bias number : Nat) : List Char :=
  let t := threshold position bias
  if number < t then [digit number]
  else if _h : 0 < number then
    digit (t + (number - t) % (base - t)) :: digits (position + 1) bias ((number - t) / (base - t))
  else []
termination_by number
decreasing_by
  have h1 : 1 ≤ threshold position bias := Nat.le_max_left _ _
  have h2 : (number - threshold position bias) / (base - threshold position bias) ≤
      number - threshold position bias := Nat.div_le_self _ _
  omega

/-- A writer between two insertions. -/
structure Writer where
  code : Nat := firstCode
  delta : Nat := 0
  bias : Nat := initialBias
  /-- How many characters have been written. -/
  count : Nat
  /-- No insertion has been written yet. -/
  first : Bool := true
  output : List Char := []

namespace Writer

/-- Passes one character of the label while insertions of `code` are written. -/
def pass (writer : Writer) (c : Nat) : Writer :=
  if c < writer.code then { writer with delta := writer.delta + 1 }
  else if c = writer.code then
    { writer with
      delta := 0
      bias := adapt writer.delta (writer.count + 1) writer.first
      count := writer.count + 1
      first := false
      output := writer.output ++ digits 0 writer.bias writer.delta }
  else writer

/-- Writes all insertions of one character. -/
def insertions (label : List Nat) (writer : Writer) (code : Nat) : Writer :=
  let start :=
    { writer with code, delta := writer.delta + (code - writer.code) * (writer.count + 1) }
  let done := label.foldl pass start
  { done with code := code + 1, delta := done.delta + 1 }

end Writer

/-- The ASCII form of a label. -/
def encode (label : List Nat) : List Char :=
  let plain := label.filter (· < firstCode)
  let others := ((label.filter (firstCode ≤ ·)).eraseDups).mergeSort
  let writer := others.foldl (Writer.insertions label) { count := plain.length }
  plain.map Char.ofNat ++ (if plain.isEmpty then [] else ['-']) ++ writer.output

/-! ## Reading -/

/-- The value of a digit, in either case. -/
def digitValue? (c : Char) : Option Nat :=
  if c.isLower then some (c.toNat - 97)
  else if c.isUpper then some (c.toNat - 65)
  else if c.isDigit then some (c.toNat - 22)
  else none

/-- A number must stay below this bound. -/
def bound : Nat := Nat.pow 2 32

/-- A code point that a character may have. -/
def isScalar (code : Nat) : Bool := code < 0xd800 || 0xdfff < code && code < 0x110000

/-- A reader: what it has read, where and how it stands, and the number it is reading. -/
structure Reader where
  output : List Nat
  code : Nat := firstCode
  place : Nat := 0
  bias : Nat := initialBias
  first : Bool := true
  /-- How many digits of the number have been read, their sum, and the weight of the next. -/
  position : Nat := 0
  number : Nat := 0
  weight : Nat := 1

namespace Reader

/-- Inserts a character when its number is complete. -/
def insert? (reader : Reader) (number : Nat) : Option Reader :=
  let length := reader.output.length + 1
  let scan := reader.place + number
  let code := reader.code + scan / length
  let place := scan % length
  if bound ≤ scan || !isScalar code then none
  else
    some {
      output := reader.output.take place ++ code :: reader.output.drop place
      code
      place := place + 1
      bias := adapt number length reader.first
      first := false }

/-- Takes a digit. -/
def take? (reader : Reader) (c : Char) : Option Reader := do
  let d ← digitValue? c
  let number := reader.number + d * reader.weight
  let t := threshold reader.position reader.bias
  if bound ≤ reader.place + number then none
  else if d < t then reader.insert? number
  else
    let weight := reader.weight * (base - t)
    if bound ≤ weight then none
    else some { reader with position := reader.position + 1, number, weight }

end Reader

/-- The characters before the last hyphen, and those behind it. -/
def splitPlain (cs : List Char) : List Char × List Char :=
  match (cs.reverse.dropWhile (· != '-')).tail.reverse with
  | [] => ([], cs)
  | plain => (plain, cs.drop (plain.length + 1))

/-- The label of an ASCII form, its ASCII letters in lower case. -/
def decode? (cs : List Char) : Option (List Nat) := do
  let (plain, rest) := splitPlain cs
  let reader ← rest.foldlM Reader.take? { output := plain.map fun c => c.toLower.toNat }
  if reader.position = 0 then some reader.output else none

end InstanceIdentity.Url.Punycode
