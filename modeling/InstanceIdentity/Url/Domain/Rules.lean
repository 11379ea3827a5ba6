import InstanceIdentity.Text.Normal
import InstanceIdentity.Url.Domain.Tables

/-!
# Rules for labels

A label does not begin with a combining mark.  The two characters that make letters join or keep them
apart stand only where they have an effect.  In a domain name with letters that run from right to
left, every label keeps to one direction.
-/

namespace InstanceIdentity.Url.Domain

/-- The character that keeps letters apart. -/
def nonJoiner : Nat := 0x200c

/-- The character that makes letters join. -/
def joiner : Nat := 0x200d

/-- The letters around a place would join there. -/
def joinedAround (before after : List Nat) : Bool :=
  let reaches (cls : Text.CharClass) (codes : List Nat) : Bool :=
    (codes.dropWhile joinsAcross.hasCode).head?.any cls.hasCode
  reaches joinsOnward before && reaches joinsBack after

/-- Both characters may follow a mark that takes away a vowel; the one that keeps apart may also stand
where letters would join. -/
def joinersFit (before : List Nat) : List Nat → Bool
  | [] => true
  | code :: rest =>
    let fits :=
      if code = nonJoiner then
        before.head?.any vowelKillers.hasCode || joinedAround before rest
      else if code = joiner then before.head?.any vowelKillers.hasCode
      else true
    fits && joinersFit (code :: before) rest

/-- The rules for a single label. -/
def labelFits (label : List Nat) : Bool :=
  !label.head?.any marks.hasCode && joinersFit [] label

/-! ## Direction -/

/-- A character of a label that runs from right to left. -/
def fitsRightToLeft (code : Nat) : Bool := !leftToRight.hasCode code

/-- A character of a label that runs from left to right. -/
def fitsLeftToRight (code : Nat) : Bool := !rightToLeft.hasCode code && !arabicDigits.hasCode code

/-- The last character of a label, marks without direction aside. -/
def lastDirected? (label : List Nat) : Option Nat :=
  (label.reverse.dropWhile directionless.hasCode).head?

/-- A label keeps to one direction. -/
def keepsDirection (label : List Nat) : Bool :=
  match label.head? with
  | none => true
  | some first =>
    if leftToRight.hasCode first then
      label.all fitsLeftToRight &&
        (lastDirected? label).any fun c => leftToRight.hasCode c || europeanDigits.hasCode c
    else if rightToLeft.hasCode first then
      label.all fitsRightToLeft &&
        ((lastDirected? label).any fun c =>
          rightToLeft.hasCode c || europeanDigits.hasCode c || arabicDigits.hasCode c) &&
        !(label.any europeanDigits.hasCode && label.any arabicDigits.hasCode)
    else false

/-- A label with a character that runs from right to left. -/
def runsBack (label : List Nat) : Bool :=
  label.any fun c => rightToLeft.hasCode c || arabicDigits.hasCode c

/-- The rules for the labels of a domain name. -/
def labelsFit (labels : List (List Nat)) : Bool :=
  labels.all labelFits && (!labels.any runsBack || labels.all keepsDirection)

end InstanceIdentity.Url.Domain
