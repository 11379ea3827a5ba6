/-!
# Percent encoding

Characters that a part of a URL cannot hold are written as the bytes of their UTF-8 encoding, each as a
percent sign and two hexadecimal digits.  Every part has its own set of such characters; controls and
characters beyond ASCII belong to all of them, the percent sign to none.
-/

namespace InstanceIdentity.Url

/-- Controls and everything beyond ASCII. -/
def beyondText (c : Char) : Bool := c.toNat < 0x20 || 0x7e < c.toNat

/-- Characters encoded in fragments. -/
def inFragment (c : Char) : Bool := beyondText c || " \"<>`".toList.contains c

/-- Characters encoded in queries of special schemes and of other schemes. -/
def inQuery (special : Bool) (c : Char) : Bool :=
  beyondText c || " \"#<>".toList.contains c || (special && c == '\'')

/-- Characters encoded in paths. -/
def inPath (c : Char) : Bool := inFragment c || "#?\x7b\x7d".toList.contains c

/-- Characters encoded in user names and passwords. -/
def inUserinfo (c : Char) : Bool := inPath c || "/:;=@[\\]^|".toList.contains c

/-- An upper-case hexadecimal digit. -/
def hexDigit (n : Nat) : Char := if n < 10 then Char.ofNat (48 + n) else Char.ofNat (55 + n)

/-- One encoded byte. -/
def encodeByte (byte : UInt8) : List Char :=
  ['%', hexDigit (byte.toNat / 16), hexDigit (byte.toNat % 16)]

/-- A character, encoded when it belongs to the set. -/
def encodeChar (set : Char → Bool) (c : Char) : List Char :=
  if set c then (String.utf8EncodeChar c).flatMap encodeByte else [c]

/-- Encodes the characters of a set. -/
def encode (set : Char → Bool) (cs : List Char) : String := String.ofList (cs.flatMap (encodeChar set))

/-- The value of a hexadecimal digit of either case. -/
def hexValue? (c : Char) : Option Nat :=
  if c.isDigit then some (c.toNat - 48)
  else if 'a' ≤ c ∧ c ≤ 'f' then some (c.toNat - 87)
  else if 'A' ≤ c ∧ c ≤ 'F' then some (c.toNat - 55)
  else none

/-- The bytes of a text with its escapes replaced; a percent sign that begins none stays. -/
def decode : List Char → List UInt8
  | '%' :: a :: b :: rest =>
    match hexValue? a, hexValue? b with
    | some high, some low => UInt8.ofNat (high * 16 + low) :: decode rest
    | _, _ => '%'.toUInt8 :: decode (a :: b :: rest)
  | c :: rest => String.utf8EncodeChar c ++ decode rest
  | [] => []

end InstanceIdentity.Url
