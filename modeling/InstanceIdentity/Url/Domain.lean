import InstanceIdentity.Url.Domain.Rules
import InstanceIdentity.Url.Punycode

/-!
# Domain names

A domain name is written in ASCII and in lower case.  Other characters are replaced by their common
forms first, and a label that still has some is written in Punycode behind a mark of its own.  A label
that comes with this mark must be the ASCII form of a proper label.
-/

namespace InstanceIdentity.Url.Domain

open Text (rowOf?)

/-- Characters that a domain name cannot hold. -/
def forbidden (c : Char) : Bool :=
  c.toNat ≤ 0x20 || c.toNat = 0x7f || "%#/:<>?@[\\]^|".toList.contains c

/-! ## Replacing -/

/-- What replaces a character in a run. -/
def shifted? (code : Nat) : Option Nat :=
  shiftedRuns.findSome? fun
    | [first, last, step, target] =>
      if first ≤ code && code ≤ last && (code - first) % step = 0 then some (target + (code - first))
      else none
    | _ => none

/-- What replaces a character that has no parts. -/
def replacement (code : Nat) : List Nat :=
  if dropped.hasCode code then []
  else (((shifted? code).map fun target => [target]).or (rowOf? code replacements)).getD [code]

/-- The common form of a text, if it may be part of a domain name. -/
def commonForm? (codes : List Nat) : Option (List Nat) :=
  if codes.any refused.hasCode then none
  else some (Text.Normal.normalize ((codes.flatMap Text.Normal.parts).flatMap replacement))

/-! ## Labels -/

/-- The mark of labels in Punycode. -/
def mark : List Nat := "xn--".toList.map Char.toNat

/-- The longest ASCII form that is read. -/
def longestRead : Nat := 2000

/-- The longest label that is written in ASCII. -/
def longestWritten : Nat := 1000

/-- All characters are ASCII. -/
def isAscii (label : List Nat) : Bool := label.all (· < 0x80)

/-- The label that an ASCII form stands for: one with other characters, in common form. -/
def decoded? (form : List Nat) : Option (List Nat) :=
  if !isAscii form || longestRead < form.length || form.getLast? = some '-'.toNat then none
  else
    (Punycode.decode? (form.map Char.ofNat)).filter fun label =>
      !isAscii label && commonForm? label = some label

/-- The label that is meant, without the form it is given in. -/
def meant? (label : List Nat) : Option (List Nat) :=
  if mark.isPrefixOf label then decoded? (label.drop mark.length) else some label

/-- The ASCII form of a label. -/
def asciiLabel? (label : List Nat) : Option (List Nat) :=
  if isAscii label then some label
  else if longestWritten < label.length then none
  else some (mark ++ (Punycode.encode label).map Char.toNat)

/-! ## Names -/

/-- The ASCII form of a domain name given as bytes. -/
def toAscii? (bytes : List UInt8) : Option String := do
  let s ← String.fromUTF8? ⟨bytes.toArray⟩
  let codes ← commonForm? (s.toList.map Char.toNat)
  if codes.any fun code => forbidden (Char.ofNat code) then none
  else
    let labels := codes.splitOn '.'.toNat
    let meant ← labels.mapM meant?
    if labelsFit meant then
      let written ← labels.mapM asciiLabel?
      return String.ofList (([('.'.toNat)].intercalate written).map Char.ofNat)
    else none

end InstanceIdentity.Url.Domain
