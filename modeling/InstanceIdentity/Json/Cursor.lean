import InstanceIdentity.Json.Fault

/-!
# Cursors over JSON text

Reading consumes a text from left to right.  The cursor holds what is left and the place it has
reached; a reader either produces a value or fails, and leaves a cursor in both cases, because a
fault that carries no place of its own is reported where the enclosing reader stands.
-/

namespace InstanceIdentity.Json

/-- What is left of a text and where it starts. -/
structure Cursor where
  rest : List Char
  place : Place

/-- The start of a text. -/
def Cursor.ofText (s : String) : Cursor := ⟨s.toList, ⟨1, 0⟩⟩

/-- The place after one more character. -/
def Place.after (place : Place) (c : Char) : Place :=
  if c = '\n' then ⟨place.line + 1, 0⟩ else ⟨place.line, place.column + c.utf8Size⟩

/-- The place one byte into what is left, or the end of the text. -/
def Cursor.ahead (cursor : Cursor) : Place :=
  match cursor.rest with
  | [] => cursor.place
  | c :: _ =>
    if c = '\n' then ⟨cursor.place.line + 1, 0⟩
    else ⟨cursor.place.line, cursor.place.column + 1⟩

/-- The place a number of bytes further on, if the text has that many left. -/
def Place.afterBytes? (place : Place) : Nat → List Char → Option Place
  | 0, _ => some place
  | _ + 1, [] => none
  | bytes + 1, c :: rest =>
    if c.utf8Size ≤ bytes + 1 then (place.after c).afterBytes? (bytes + 1 - c.utf8Size) rest
    else some ⟨place.line, place.column + (bytes + 1)⟩
termination_by _ chars => chars.length

/-- The end of the text. -/
def Cursor.finish (cursor : Cursor) : Place := cursor.rest.foldl Place.after cursor.place

/-- A step of reading. -/
abbrev Reader (α : Type) := ExceptT Fault (StateM Cursor) α

namespace Reader

/-- Fails at a given place. -/
def failAt {α : Type} (place : Place) (cause : Cause) : Reader α :=
  throw { cause := cause, place := some place }

/-- Fails where the cursor stands. -/
def fail {α : Type} (cause : Cause) : Reader α := do failAt (← get).place cause

/-- Fails one byte into what is left. -/
def failAhead {α : Type} (cause : Cause) : Reader α := do failAt (← get).ahead cause

/-- Fails without naming a place. -/
def failUnplaced {α : Type} (cause : Cause) : Reader α := throw { cause := cause }

/-- The next character, which stays. -/
def peek : Reader (Option Char) := do return (← get).rest.head?

/-- Passes over one character. -/
def skip : Reader Unit :=
  modify fun cursor =>
    match cursor.rest with
    | [] => cursor
    | c :: rest => ⟨rest, cursor.place.after c⟩

/-- Takes one character, if there is one. -/
def next : Reader (Option Char) := do
  let c ← peek
  skip
  return c

/-- A fault of the reader that carries no place is reported where the reader stopped. -/
def placed {α : Type} (reader : Reader α) : Reader α := fun cursor =>
  match reader cursor with
  | (.error fault, after) =>
    (.error (if fault.place.isNone then { fault with place := some after.place } else fault), after)
  | result => result

/-- A fault of the reader lies below a key or index. -/
def within {α : Type} (segment : Segment) (reader : Reader α) : Reader α :=
  tryCatch reader fun fault => throw { fault with path := segment :: fault.path }

/-- Reads the content of a container and then its end.  A fault of the content wins, yet the end is
looked for all the same: it moves the cursor to the place of a fault that has none. -/
def enclosed {α : Type} (content : Reader α) (close : Reader Unit) : Reader α := fun cursor =>
  match content cursor with
  | (.ok value, after) =>
    match close after with
    | (.ok (), final) => (.ok value, final)
    | (.error fault, final) => (.error fault, final)
  | (.error fault, after) => (.error fault, (close after).2)

/-- A character that may stand between tokens. -/
def isBlank (c : Char) : Bool := c = ' ' || c = '\n' || c = '\t' || c = '\r'

/-- Passes over the blanks in front of a text. -/
def skipBlanks (place : Place) : List Char → Cursor
  | [] => ⟨[], place⟩
  | c :: rest => if isBlank c then skipBlanks (place.after c) rest else ⟨c :: rest, place⟩

/-- Passes over blanks; the character after them, which stays. -/
def blanks : Reader (Option Char) := do
  modify fun cursor => skipBlanks cursor.place cursor.rest
  peek

end Reader

end InstanceIdentity.Json
