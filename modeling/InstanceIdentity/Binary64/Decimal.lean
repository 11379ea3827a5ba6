import InstanceIdentity.Binary64.Basic

/-!
# Decimal text of binary64 numbers

A finite number is written with the fewest decimal digits that read back as the same number and,
among those, the digits nearest to it.  The same digits have a positional text, used for every
answer, and a text that turns to an exponent far from one, used inside the descriptions of
mismatched JSON values.  Reading accepts signs, fractions, exponents and the names of the
infinities and of NaN.
-/

namespace InstanceIdentity

/-- The decimal number `digits * 10 ^ exponent`. -/
structure Decimal where
  digits : Nat
  exponent : Int
  deriving DecidableEq, Repr

namespace Decimal

/-- Positional notation, with as many zeros as the exponent asks for. -/
def positional (d : Decimal) : List Char :=
  let digits := Nat.toDigits 10 d.digits
  if 0 ≤ d.exponent then digits ++ List.replicate d.exponent.toNat '0'
  else
    let places := (-d.exponent).toNat
    if places < digits.length then
      digits.take (digits.length - places) ++ '.' :: digits.drop (digits.length - places)
    else '0' :: '.' :: (List.replicate (places - digits.length) '0' ++ digits)

/-- The power of ten of the leading digit. -/
def leadingExponent (d : Decimal) : Int :=
  d.exponent + ((Nat.toDigits 10 d.digits).length : Int) - 1

/-- Scientific notation: one digit before the point, a sign and at least two digits in the
exponent. -/
def scientific (d : Decimal) : List Char :=
  let digits := Nat.toDigits 10 d.digits
  let power := d.leadingExponent
  let size := Nat.toDigits 10 power.natAbs
  digits.take 1 ++ (if digits.length = 1 then [] else '.' :: digits.drop 1) ++
    'e' :: (if power < 0 then '-' else '+') :: ((if size.length = 1 then ['0'] else []) ++ size)

/-- Positional with a decimal point for leading digits from `10 ^ (-5)` to `10 ^ 15`, scientific
beyond. -/
def pointed (d : Decimal) : List Char :=
  if -5 ≤ d.leadingExponent ∧ d.leadingExponent ≤ 15 then
    if 0 ≤ d.exponent then d.positional ++ ['.', '0'] else d.positional
  else d.scientific

end Decimal

namespace Binary64

/-- The number `c * 10 ^ k` rounds to the binary64 number of the given positive rank.  The
interval of such numbers ends halfway to the neighbours, and the ends belong to it when the rank
is even. -/
def roundsTo (rank c : Nat) (k : Int) : Bool :=
  let value := c * Nat.pow 10 k.toNat * (2 * one)
  let denominator := Nat.pow 10 (-k).toNat
  let low := (magnitude (rank - 1) + magnitude rank) * denominator
  let high := (magnitude rank + magnitude (rank + 1)) * denominator
  if rank % 2 = 0 then decide (low ≤ value) && decide (value ≤ high)
  else decide (low < value) && decide (value < high)

/-- A multiple of `10 ^ k` that rounds to the number of the given rank, the nearest to it when
there are two; a tie goes up. -/
def onGrid? (rank : Nat) (k : Int) : Option Nat :=
  let num := magnitude rank * Nat.pow 10 (-k).toNat
  let den := one * Nat.pow 10 k.toNat
  let below := num / den
  match roundsTo rank below k, roundsTo rank (below + 1) k with
  | true, true => if 2 * (num % den) < den then some below else some (below + 1)
  | true, false => some below
  | false, true => some (below + 1)
  | false, false => none

/-- The first grid, from `10 ^ k` downwards, that has a number rounding to the given rank. -/
def searchGrids (rank : Nat) (k : Int) : Nat → Decimal
  | 0 => ⟨magnitude rank * Nat.pow 5 1074, -1074⟩
  | steps + 1 =>
    match onGrid? rank k with
    | some c => ⟨c, k⟩
    | none => searchGrids rank (k - 1) steps

/-- The fewest decimal digits that read back as the number of a positive rank.  The search starts
above the magnitude and ends where the magnitude itself is on the grid. -/
def shortest (rank : Nat) : Decimal :=
  let start := (((magnitude rank).log2 + 1) * 30103 / 100000 : Nat) + 1 - (323 : Int)
  searchGrids rank start (start + 1074).toNat

/-- Writes a finite number by a given notation for positive magnitudes. -/
def textBy (notated : Decimal → List Char) (zeroText : String) : Binary64 → String
  | .nan => "NaN"
  | .infinite negative => if negative then "-inf" else "inf"
  | .finite negative rank =>
    (if negative then "-" else "") ++
      (if rank.val = 0 then zeroText else String.ofList (notated (shortest rank.val)))

/-- Shortest digits in positional notation, never an exponent: `0.3`, `100`, `-0`, `inf`. -/
def text (x : Binary64) : String := x.textBy Decimal.positional "0"

/-- Shortest digits, always with a decimal point or an exponent: `1.0`, `1.5e+20`. -/
def pointedText (x : Binary64) : String := x.textBy Decimal.pointed "0.0"

/-! ## Reading -/

/-- Appends a run of decimal digits to a number, leaving what follows and the count of digits. -/
def readDigits : List Char → Nat → Nat → Nat × Nat × List Char
  | c :: rest, acc, count =>
    if c.isDigit then readDigits rest (acc * 10 + (c.toNat - 48)) (count + 1)
    else (acc, count, c :: rest)
  | [], acc, count => (acc, count, [])

/-- An optional sign: whether it is a minus, and what follows it. -/
def readSign : List Char → Bool × List Char
  | '-' :: rest => (true, rest)
  | '+' :: rest => (false, rest)
  | rest => (false, rest)

/-- An exponent that fills the rest of the text, or nothing. -/
def readExponent? : List Char → Option Int
  | [] => some 0
  | c :: rest =>
    if c = 'e' ∨ c = 'E' then
      let (negative, digits) := readSign rest
      match readDigits digits 0 0 with
      | (value, count, []) =>
        if count = 0 then none else some (if negative then -(value : Int) else value)
      | _ => none
    else none

/-- Digits with an optional fraction and exponent; at least one digit before the exponent. -/
def readUnsigned? (negative : Bool) (cs : List Char) : Option Binary64 :=
  let (whole, wholeCount, rest) := readDigits cs 0 0
  let (digits, places, rest) :=
    match rest with
    | '.' :: fraction => readDigits fraction whole 0
    | _ => (whole, 0, rest)
  if wholeCount + places = 0 then none
  else (readExponent? rest).map fun exponent => ofDecimal negative digits (exponent - places)

/-- Reads a decimal literal: a sign, then digits with at most one point and an exponent, or one of
the words `inf`, `infinity`, `nan` in any case. -/
def ofText? (s : String) : Option Binary64 :=
  let (negative, cs) := readSign s.toList
  let word := cs.map Char.toLower
  if word = "inf".toList ∨ word = "infinity".toList then some (.infinite negative)
  else if word = "nan".toList then some .nan
  else readUnsigned? negative cs

end Binary64

end InstanceIdentity
