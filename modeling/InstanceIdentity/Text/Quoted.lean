import InstanceIdentity.Text.Printable

/-!
# Quoted text

Diagnostics show a text between double quotes, with everything escaped that would not be seen:
backslash and quote, the usual controls, and by code point all characters without a visible form of
their own or that would combine with the quote.
-/

namespace InstanceIdentity.Text

/-- The lower-case hexadecimal digits of a number. -/
def hexText (n : Nat) : String := String.ofList (Nat.toDigits 16 n)

/-- An escape by code point. -/
def escapeCode (c : Char) : String := "\\u\x7b" ++ hexText c.toNat ++ "\x7d"

/-- The visible form of one character inside quotes. -/
def quoteChar (c : Char) : String :=
  if c = '\x00' then "\\0"
  else if c = '\t' then "\\t"
  else if c = '\r' then "\\r"
  else if c = '\n' then "\\n"
  else if c = '"' then "\\\""
  else if c = '\\' then "\\\\"
  else if c.toNat < 0x80 then
    if c.toNat < 0x20 ∨ c.toNat = 0x7f then escapeCode c else c.toString
  else if graphemeExtending.has c || unprintable.has c then escapeCode c
  else c.toString

/-- A text between double quotes. -/
def quoted (s : String) : String :=
  "\"" ++ String.join (s.toList.map quoteChar) ++ "\""

end InstanceIdentity.Text
