import InstanceIdentity.Json.Scalar

/-!
# Reading JSON documents

Containers, whole documents, and values that are passed over unread.  Containers that are read may
be nested 127 deep; passing over a value has no such limit.
-/

namespace InstanceIdentity.Json.Reader

/-! ## The ends and separators of containers -/

/-- The closing bracket of an array. -/
def endArray : Reader Unit := do
  match ← blanks with
  | some ']' => skip
  | some ',' =>
    skip
    match ← blanks with
    | some ']' => failAhead .trailingComma
    | _ => failAhead .trailingCharacters
  | some _ => failAhead .trailingCharacters
  | none => failAhead .endInList

/-- The closing brace of an object. -/
def endObject : Reader Unit := do
  match ← blanks with
  | some '\x7d' => skip
  | some ',' => failAhead .trailingComma
  | some _ => failAhead .trailingCharacters
  | none => failAhead .endInObject

/-- Whether an array goes on; passes over the comma in front of all items but the first. -/
def hasItem (first : Bool) : Reader Bool := do
  match ← blanks with
  | none => failAhead .endInList
  | some ']' => return false
  | some c =>
    if first then return true
    else if c = ',' then
      skip
      match ← blanks with
      | some ']' => failAhead .trailingComma
      | some _ => return true
      | none => failAhead .endInValue
    else failAhead .expectedListCommaOrEnd

/-- Whether an object goes on; passes over the comma in front of all keys but the first. -/
def hasKey (first : Bool) : Reader Bool := do
  match ← blanks with
  | none => failAhead .endInObject
  | some '\x7d' => return false
  | some c =>
    if first then
      if c = '"' then return true else failAhead .keyMustBeText
    else if c = ',' then
      skip
      match ← blanks with
      | some '"' => return true
      | some '\x7d' => failAhead .trailingComma
      | some _ => failAhead .keyMustBeText
      | none => failAhead .endInValue
    else failAhead .expectedObjectCommaOrEnd

/-- The colon between a key and its value. -/
def colon : Reader Unit := do
  match ← blanks with
  | some ':' => skip
  | some _ => failAhead .expectedColon
  | none => failAhead .endInObject

/-- The next key of an object, if there is one. -/
def key? (first : Bool) : Reader (Option String) := do
  if ← hasKey first then
    skip
    return some (← text)
  else return none

/-! ## Values -/

/-- Items up to the end of an array, each by the same reader. -/
def itemsBy {α : Type} (item : Reader α) : Nat → Nat → List α → Reader (List α)
  | 0, _, acc => return acc.reverse
  | fuel + 1, position, acc => do
    let next ← within (.index position) do
      if ← hasItem (position = 0) then return some (← item) else return none
    match next with
    | some value => itemsBy item fuel (position + 1) (value :: acc)
    | none => return acc.reverse

/-- Members up to the end of an object, each value by the same reader. -/
def membersBy {α : Type} (value : Reader α) :
    Nat → Bool → List (String × α) → Reader (List (String × α))
  | 0, _, acc => return acc.reverse
  | fuel + 1, first, acc => do
    match ← key? first with
    | none => return acc.reverse
    | some key =>
      let read ← within (.key key) do colon; value
      membersBy value fuel false ((key, read) :: acc)

/-- Enough steps for everything that is left. -/
def remaining : Reader Nat := do return (← get).rest.length + 1

/-- A value without inner structure, or one that starts with the given bracket. -/
def scalarOr (container : Char → Reader Json) : Reader Json := do
  match ← blanks with
  | none => failAhead .endInValue
  | some 'n' => do skip; word "ull".toList; return .null
  | some 't' => do skip; word "rue".toList; return .boolean true
  | some 'f' => do skip; word "alse".toList; return .boolean false
  | some '-' => do skip; number true
  | some '"' => do skip; return .text (← text)
  | some c =>
    if c.isDigit then number false
    else if c = '[' ∨ c = '\x7b' then container c
    else failAhead .expectedValue

/-- Any value, with room for a number of nested containers. -/
def value : Nat → Reader Json
  | 0 => scalarOr fun _ => failAhead .tooDeep
  | room + 1 =>
    scalarOr fun opening => do
      skip
      if opening = '[' then
        enclosed (do return .array (← itemsBy (value room) (← remaining) 0 [])) endArray
      else
        enclosed (do return .object (← membersBy (value room) (← remaining) true [])) endObject

/-- How many containers may be nested. -/
def nesting : Nat := 127

/-- A document: a value with nothing but blanks around it. -/
def document {α : Type} (content : Reader α) : Reader α := do
  let result ← content
  match ← blanks with
  | some _ => failAhead .trailingCharacters
  | none => return result

/-! ## Passing over values -/

/-- A container that a skipped value is in the middle of. -/
inductive Frame where
  | array
  | object
  deriving DecidableEq

/-- The bracket that ends a container. -/
def Frame.closing : Frame → Char
  | .array => ']'
  | .object => '\x7d'

/-- The text ends inside a container. -/
def Frame.atEnd : Frame → Cause
  | .array => .endInList
  | .object => .endInObject

/-- Neither a comma nor the end follows an item. -/
def Frame.unseparated : Frame → Cause
  | .array => .expectedListCommaOrEnd
  | .object => .expectedObjectCommaOrEnd

/-- Passes over a scalar, or over the opening bracket of a container. -/
def skipStart : Reader (Option Frame) := do
  match ← blanks with
  | none => failAhead .endInValue
  | some 'n' => do skip; word "ull".toList; return none
  | some 't' => do skip; word "rue".toList; return none
  | some 'f' => do skip; word "alse".toList; return none
  | some '-' => do skip; discard (numeral true); return none
  | some '"' => do skip; skipText; return none
  | some '[' => do skip; return some .array
  | some '\x7b' => do skip; return some .object
  | some c => if c.isDigit then do discard (numeral true); return none else failAhead .expectedValue

/-- Passes over the ends of containers up to the next item.  The result is the containers around
that item, innermost first, and is empty when the value is complete. -/
def skipEnds (afterItem : Bool) : List Frame → Reader (List Frame)
  | [] => return []
  | frame :: outer => do
    match ← blanks with
    | none => failAhead frame.atEnd
    | some c =>
      if c = ',' ∧ afterItem then do skip; return frame :: outer
      else if c = frame.closing then do skip; skipEnds true outer
      else if afterItem then failAhead frame.unseparated
      else return frame :: outer

/-- Passes over a key and its colon. -/
def skipKey : Reader Unit := do
  match ← blanks with
  | some '"' => skip
  | some _ => failAhead .keyMustBeText
  | none => failAhead .endInObject
  skipText
  colon

/-- Passes on to the value that comes next in the innermost of the given containers, behind its key if
that is an object. -/
def skipOn (next : Reader Unit) : List Frame → Reader Unit
  | [] => return ()
  | .array :: _ => next
  | .object :: _ => do skipKey; next

/-- Passes over one value inside the given containers, and on to the end of the outermost. -/
def skipWithin : Nat → List Frame → Reader Unit
  | 0, _ => fail .endInValue
  | fuel + 1, frames => do
    let frames ← match ← skipStart with
      | some frame => skipEnds false (frame :: frames)
      | none => skipEnds true frames
    skipOn (skipWithin fuel frames) frames

/-- Passes over a value, whatever it is. -/
def skipValue : Reader Unit := do skipWithin (← remaining) []

end InstanceIdentity.Json.Reader

namespace InstanceIdentity.Json

/-- Runs a reader on a whole text. -/
def Reader.run {α : Type} (reader : Reader α) (s : String) : Except Fault α :=
  (reader (Cursor.ofText s)).1

/-- The value of a document, in normal form. -/
def ofText (s : String) : Except Fault Json :=
  (Reader.document (Reader.value Reader.nesting)).run s |>.map normal

end InstanceIdentity.Json
