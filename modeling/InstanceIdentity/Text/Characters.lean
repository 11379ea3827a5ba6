/-!
# Kinds of characters

Blank characters, classes of characters, and the tables from which data about characters is read.

A class is given by the sorted list of the code points at which membership changes: a code point belongs
to it when an odd number of changes lie at or before it.  A table is written as a text: rows of
hexadecimal numbers, each row ended by a semicolon.
-/

namespace InstanceIdentity.Text

/-! ## Blanks -/

/-- White space. -/
def isBlank (c : Char) : Bool :=
  let n := c.toNat
  (9 ≤ n && n ≤ 13) || n = 0x20 || n = 0x85 || n = 0xa0 || n = 0x1680 || (0x2000 ≤ n && n ≤ 0x200a)
    || n = 0x2028 || n = 0x2029 || n = 0x202f || n = 0x205f || n = 0x3000

/-- The text without white space at its ends. -/
def trimmed (s : String) : String :=
  String.ofList (((s.toList.dropWhile isBlank).reverse.dropWhile isBlank).reverse)

/-! ## Classes -/

/-- A set of code points, by its boundaries. -/
structure CharClass where
  boundaries : List Nat

/-- The code point lies in the class. -/
def CharClass.hasCode (cls : CharClass) (code : Nat) : Bool :=
  (cls.boundaries.takeWhile (· ≤ code)).length % 2 = 1

/-- The character lies in the class. -/
def CharClass.has (cls : CharClass) (c : Char) : Bool := cls.hasCode c.toNat

/-! ## Tables -/

/-- The value of a hexadecimal digit in lower case. -/
def hexDigitValue (c : Char) : Nat := if c.isDigit then c.toNat - 48 else c.toNat - 87

/-- Reads rows: the number that is being read, the row so far and the finished rows, last first. -/
def readRowsFrom (number : Option Nat) (row : List Nat) (rows : List (List Nat)) :
    List Char → List (List Nat)
  | [] => rows.reverse
  | c :: rest =>
    if c = ';' then readRowsFrom none [] ((number.toList ++ row).reverse :: rows) rest
    else if c.isDigit || c.isLower then
      readRowsFrom (some (number.getD 0 * 16 + hexDigitValue c)) row rows rest
    else readRowsFrom none (number.toList ++ row) rows rest

/-- The rows of a table. -/
def readRows (table : String) : List (List Nat) := readRowsFrom none [] [] table.toList

/-- What the rest of the row that begins with a code point holds. -/
def rowOf? (code : Nat) : List (List Nat) → Option (List Nat)
  | [] => none
  | [] :: rows => rowOf? code rows
  | (head :: rest) :: rows => if head = code then some rest else rowOf? code rows

end InstanceIdentity.Text
