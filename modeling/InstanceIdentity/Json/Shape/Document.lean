import InstanceIdentity.Json.Parser
import InstanceIdentity.Json.Shape.Tree

/-!
# Reading shapes from documents

A document is read into a type while it is parsed, so a misfit is noticed, and reported, at its
place.  A value that does not fit by itself is reported where the innermost record, list or scalar
around it ends.
-/

namespace InstanceIdentity.Json

namespace Reader

/-- A value of another kind than the expected one: scalars are read, containers only begun. -/
def mismatched {α : Type} (expected : String) : Reader α :=
  placed do
    match ← blanks with
    | none => failAhead .endInValue
    | some 'n' => do skip; word "ull".toList; failUnplaced (.mismatch .null expected)
    | some 't' => do skip; word "rue".toList; failUnplaced (.mismatch (.boolean true) expected)
    | some 'f' => do skip; word "alse".toList; failUnplaced (.mismatch (.boolean false) expected)
    | some '-' => do skip; failUnplaced (.mismatch (← number true).found expected)
    | some '"' => do skip; failUnplaced (.mismatch (.text (← text)) expected)
    | some '[' => failUnplaced (.mismatch .sequence expected)
    | some '\x7b' => failUnplaced (.mismatch .map expected)
    | some c =>
      if c.isDigit then failUnplaced (.mismatch (← number false).found expected)
      else failAhead .expectedValue

/-- A judgement that names no place. -/
def judged {α : Type} (verdict : Except Cause α) : Reader α :=
  match verdict with
  | .ok value => pure value
  | .error cause => failUnplaced cause

/-- A number, judged by its kind. -/
def numberBy {α : Type} (expected : String) (judge : Json → Except Cause α) : Reader α :=
  placed do
    match ← blanks with
    | some '-' => do skip; judged (judge (← number true))
    | some c => if c.isDigit then do judged (judge (← number false)) else mismatched expected
    | none => failAhead .endInValue

/-- A text, judged by its content. -/
def textBy {α : Type} (expected : String) (judge : String → Except Cause α) : Reader α :=
  placed do
    match ← blanks with
    | some '"' => do skip; judged (judge (← text))
    | some _ => mismatched expected
    | none => failAhead .endInValue

/-- The content of a container between its brackets, one level further in. -/
def bracketed {α : Type} (room : Nat) (content : Nat → Reader α) (close : Reader Unit) : Reader α :=
  match room with
  | 0 => failAhead .tooDeep
  | room + 1 => do
    skip
    enclosed (content room) close

/-- The word `null`, where an alternative has no content. -/
def unit : Reader Unit :=
  placed do
    match ← blanks with
    | some 'n' => do skip; word "ull".toList
    | some _ => mismatched "unit"
    | none => failAhead .endInValue

/-- One of several names, alone or as the only key of an object. -/
def named {α β : Type} (room : Nat) (name : Reader α) (content : Nat → α → Reader β)
    (alone : α → Reader β) : Reader β := do
  match ← blanks with
  | some '\x7b' =>
    match room with
    | 0 => failAhead .tooDeep
    | room + 1 =>
      skip
      let chosen ← name
      colon
      let value ← content room chosen
      match ← blanks with
      | some '\x7d' => do skip; return value
      | some _ => fail .expectedValue
      | none => fail .endInObject
  | some '"' => do alone (← name)
  | some _ => failAhead .expectedValue
  | none => failAhead .endInValue

/-- Members of an object, each offered to the fields of a record; what no field takes is passed
over. -/
def fieldsBy {σ : Type} (offer : String → σ → Option (Reader σ)) : Nat → Bool → σ → Reader σ
  | 0, _, slots => return slots
  | fuel + 1, first, slots => do
    match ← key? first with
    | none => return slots
    | some key =>
      match offer key slots with
      | some taken => do fieldsBy offer fuel false (← taken)
      | none => do
        within (.key key) do colon; skipValue
        fieldsBy offer fuel false slots

/-- A record: an object whose members its fields take, or a list of them. -/
def recordBy {σ α : Type} (title : String) (listed : Nat → Reader α)
    (offer : Nat → String → σ → Option (Reader σ)) (finish : σ → Except Cause α) (blank : σ)
    (room : Nat) : Reader α :=
  placed do
    match ← blanks with
    | some '[' => bracketed room listed endArray
    | some '\x7b' =>
      bracketed room (fun room => do
        judged (finish (← fieldsBy (offer room) (← remaining) true blank))) endObject
    | some _ => mismatched title
    | none => failAhead .endInValue

/-- Members of an object in which one names an alternative: that name, and the others set aside. -/
def asideBy (tagKey : String) (tag : Reader String) (value : Reader Json) :
    Nat → Bool → Option String → List (String × Json) → Reader (String × List (String × Json))
  | 0, _, _, _ => failUnplaced (.missingField tagKey)
  | fuel + 1, first, name, acc => do
    match ← key? first with
    | none =>
      match name with
      | some name => return (name, acc.reverse)
      | none => failUnplaced (.missingField tagKey)
    | some key =>
      if key = tagKey then
        if name.isSome then failUnplaced (.duplicateField tagKey)
        let name ← within (.key key) do colon; tag
        asideBy tagKey tag value fuel false (some name) acc
      else
        let read ← within (.key key) do colon; value
        asideBy tagKey tag value fuel false name ((key, read) :: acc)

/-- The name of an alternative and everything beside it, from an object or a list. -/
def aside (title tagKey : String) (tag : Reader String) (room : Nat) : Reader (String × Json) :=
  placed do
    match ← blanks with
    | some '[' =>
      bracketed room (fun room => do
        let name ← within (.index 0) do
          if ← hasItem true then return some (← tag) else return none
        match name with
        | some name => return (name, .array (← itemsBy (value room) (← remaining) 1 []))
        | none => failUnplaced (.missingField tagKey)) endArray
    | some '\x7b' =>
      bracketed room (fun room => do
        let (name, members) ← asideBy tagKey tag (value room) (← remaining) true none []
        return (name, .object members)) endObject
    | _ => mismatched title

end Reader

open Reader in
mutual

/-- Reads a value of a type from a document, with room for a number of nested containers. -/
def Shape.read {α : Type} : Shape α → Nat → Reader α
  | .any, room => normal <$> value room
  | .boolean, _ =>
    placed do
      match ← blanks with
      | some 't' => do skip; word "rue".toList; return true
      | some 'f' => do skip; word "alse".toList; return false
      | some _ => mismatched "a boolean"
      | none => failAhead .endInValue
  | .float, _ => numberBy "f64" fun json => Shape.float.ofTree json
  | .natural bound name, _ => numberBy name fun json => (Shape.natural bound name).ofTree json
  | .text expected read _, _ => textBy expected fun s => (read s).mapError .refused
  | .optional inner, room => do
    match ← blanks with
    | some 'n' => do skip; word "ull".toList; return none
    | _ => some <$> inner.read room
  | .list inner, room =>
    placed do
      match ← blanks with
      | some '[' =>
        bracketed room (fun room => do itemsBy (inner.read room) (← remaining) 0 []) endArray
      | some _ => mismatched "a sequence"
      | none => failAhead .endInValue
  | .dictionary inner, room =>
    placed do
      match ← blanks with
      | some '\x7b' =>
        bracketed room (fun room => do
          return Dictionary.ofList (← membersBy (inner.read room) (← remaining) true [])) endObject
      | some _ => mismatched "a map"
      | none => failAhead .endInValue
  | .choice names _, room =>
    Reader.named room (textBy "variant identifier" (Json.named names))
      (fun _ value => do unit; return value) pure
  | .record title fields, room =>
    recordBy title (fun room => fields.readListed title room 0) fields.offer fields.finish fields.blank
      room
  | .keyed _ alternatives, room =>
    Reader.named room (textBy "variant identifier" alternatives.named)
      (fun room name => alternatives.read name room)
      (fun _ => failUnplaced (.mismatch .unitVariant "struct variant"))
  | .tagged title key alternatives, room => do
    let (name, content) ←
      aside title key (textBy "variant identifier" alternatives.named) room
    judged (alternatives.readTree name .aside content)
  | .chosen refusal read _, room => do
    judged (((read (← value room)).elim (throw (.refused refusal)) .ok))
  | .refined inner read _, room => do
    judged ((read (← inner.read room)).mapError .refused)

/-- A field reads the member of its name, once; other members belong to no field. -/
def Fields.offer {σ α : Type} : Fields σ α → Nat → String → σ → Option (Reader σ)
  | .done, _, _, _ => none
  | .field name _ inner rest, room, key, (slot, others) =>
    if key = name then
      some do
        if slot.isSome then failUnplaced (.duplicateField name)
        within (.key key) do
          colon
          return (some (← inner.read room), others)
    else (rest.offer room key others).map fun taken => do return (slot, ← taken)

/-- Reads fields listed in their order. -/
def Fields.readListed {σ α : Type} : Fields σ α → String → Nat → Nat → Reader α
  | .done, _, _, _ => return ()
  | .field _ absence inner rest, title, room, taken => do
    let item ← within (.index taken) do
      if ← hasItem (taken = 0) then return some (← inner.read room) else return none
    match item <|> absence.inList? with
    | some value => return (value, ← rest.readListed title room (taken + 1))
    | none => failUnplaced (.invalidLength taken (listedFields title (taken + 1 + rest.count)))

/-- Reads the record of a named alternative. -/
def Alternatives.read {α : Type} : Alternatives α → String → Nat → Reader α
  | .nil, name, _ => failUnplaced (.unknownVariant name [])
  | .alternative known title fields rest, name, room =>
    if name = known then
      .inl <$> recordBy title (fun room => fields.readListed title room 0) fields.offer
        fields.finish fields.blank room
    else .inr <$> rest.read name room

end

/-- Reads a whole document into the type of a shape. -/
def Shape.ofText {α : Type} (shape : Shape α) (s : String) : Except Fault α :=
  (Reader.document (shape.read Reader.nesting)).run s

end InstanceIdentity.Json
