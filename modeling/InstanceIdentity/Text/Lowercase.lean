import InstanceIdentity.Text.CaseTables

/-!
# Lower case

The full lower-case mapping of a text.  Each character has a lower case of its own, one character
long but for the dotted capital I, which keeps its dot as a combining mark.  Capital sigma alone
depends on its neighbours: at the end of a word it becomes the final form.
-/

namespace InstanceIdentity.Text

/-- The lower case of a code point beyond ASCII, by the first run that lists it. -/
def lowerCode (code : Nat) : List CaseRun → Nat
  | [] => code
  | run :: runs =>
    if run.first ≤ code ∧ code ≤ run.last ∧ (code - run.first) % run.step = 0 then
      ((code : Int) + run.shift).toNat
    else lowerCode code runs

/-- The lower case of a character by itself. -/
def lowerChar (c : Char) : List Char :=
  if c.toNat < 0x80 then [c.toLower]
  else if c = 'İ' then ['i', '\u0307']
  else [Char.ofNat (lowerCode c.toNat lowerRuns)]

/-- Passing over characters that do not end a word, the first other one has a case. -/
def reachesCased : List Char → Bool
  | [] => false
  | c :: rest => if caseIgnorable.has c then reachesCased rest else cased.has c

/-- Maps a text, given the characters before it, nearest first. -/
def lowerFrom (before : List Char) : List Char → List Char
  | [] => []
  | c :: rest =>
    (if c = 'Σ' then
      (if reachesCased before && !reachesCased rest then ['ς'] else ['σ'])
     else lowerChar c) ++ lowerFrom (c :: before) rest

/-- The lower case of a text. -/
def lower (s : String) : String := String.ofList (lowerFrom [] s.toList)

end InstanceIdentity.Text
