import InstanceIdentity.Dictionary
import InstanceIdentity.Binary64.Decimal

/-!
# JSON values

A JSON document as a tree.  Integers between `-2 ^ 63` and `2 ^ 64` are kept exactly and all other
numbers are binary64.  The members of an object are kept as they stand in a document; the normal
form of a value has each key once, with the last of its values, in the order of `Dictionary`.
-/

namespace InstanceIdentity

/-- A JSON document. -/
inductive Json where
  | null
  | boolean (value : Bool)
  | integer (value : Int)
  | float (value : Binary64)
  | text (value : String)
  | array (items : List Json)
  | object (members : List (String × Json))
  deriving Inhabited

namespace Json

mutual

/-- Every object in the value has each key once, the last of its values, and sorted keys. -/
def normal : Json → Json
  | .array items => .array (normalItems items)
  | .object members => .object (Dictionary.ofList (normalMembers members)).entries
  | other => other

/-- Normal forms of the items of an array. -/
def normalItems : List Json → List Json
  | [] => []
  | item :: rest => item.normal :: normalItems rest

/-- Members with the normal forms of their values. -/
def normalMembers : List (String × Json) → List (String × Json)
  | [] => []
  | (key, value) :: rest => (key, value.normal) :: normalMembers rest

end

mutual

/-- The value with every binary64 number replaced by its text. -/
def floatsAsText : Json → Json
  | .float x => .text x.text
  | .array items => .array (floatsAsTextItems items)
  | .object members => .object (floatsAsTextMembers members)
  | other => other

/-- The items of an array with numbers replaced by texts. -/
def floatsAsTextItems : List Json → List Json
  | [] => []
  | item :: rest => item.floatsAsText :: floatsAsTextItems rest

/-- The members of an object with numbers replaced by texts. -/
def floatsAsTextMembers : List (String × Json) → List (String × Json)
  | [] => []
  | (key, value) :: rest => (key, value.floatsAsText) :: floatsAsTextMembers rest

end

/-- The value of the first member with a given key. -/
def member? (key : String) : Json → Option Json
  | .object members => members.lookup key
  | _ => none

end Json

end InstanceIdentity
