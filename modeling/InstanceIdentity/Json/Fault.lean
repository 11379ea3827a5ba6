import InstanceIdentity.Binary64.Decimal
import InstanceIdentity.Text.Quoted

/-!
# Faults of reading JSON

A reading fails for one cause: the text ends too early, it is not JSON, or the document has another
shape than the one asked for.  A fault may carry the place in the text where it was noticed and the
path of keys and indices that leads there.
-/

namespace InstanceIdentity.Json

/-- What a reader found where it expected something else. -/
inductive Found where
  | null
  | boolean (value : Bool)
  | integer (value : Int)
  | float (value : Binary64)
  | text (value : String)
  | sequence
  | map
  | unitVariant
  deriving DecidableEq

/-- The description of what was found. -/
def Found.describe : Found → String
  | .null => "null"
  | .boolean value => "boolean `" ++ (if value then "true" else "false") ++ "`"
  | .integer value => "integer `" ++ toString value ++ "`"
  | .float value => "floating point `" ++ value.pointedText ++ "`"
  | .text value => "string " ++ Text.quoted value
  | .sequence => "sequence"
  | .map => "map"
  | .unitVariant => "unit variant"

/-- Why a reading failed. -/
inductive Cause where
  | endInValue
  | endInList
  | endInObject
  | endInText
  | expectedValue
  | expectedIdent
  | expectedColon
  | expectedListCommaOrEnd
  | expectedObjectCommaOrEnd
  | keyMustBeText
  | trailingComma
  | trailingCharacters
  | invalidNumber
  | numberOutOfRange
  | invalidEscape
  | unfinishedEscape
  | loneSurrogate
  | controlCharacter
  | tooDeep
  | mismatch (found : Found) (expected : String)
  | invalidValue (found : Found) (expected : String)
  | invalidLength (length : Nat) (expected : String)
  | missingField (name : String)
  | duplicateField (name : String)
  | unknownVariant (name : String) (known : List String)
  | refused (message : String)
  deriving DecidableEq

/-- The three kinds of causes: the text is not JSON, it ends too early, or its content does not
fit. -/
inductive Category where
  | malformed
  | truncated
  | misfit
  deriving DecidableEq

/-- The kind of a cause. -/
def Cause.category : Cause → Category
  | .endInValue | .endInList | .endInObject | .endInText => .truncated
  | .mismatch .. | .invalidValue .. | .invalidLength .. | .missingField _ | .duplicateField _
  | .unknownVariant .. | .refused _ => .misfit
  | _ => .malformed

/-- The alternatives of a choice: two are joined by "or", more are listed. -/
def oneOf : List String → String
  | [] => "there are no variants"
  | [a] => "expected `" ++ a ++ "`"
  | [a, b] => "expected `" ++ a ++ "` or `" ++ b ++ "`"
  | names => "expected one of " ++ ", ".intercalate (names.map fun n => "`" ++ n ++ "`")

/-- The wording of a cause. -/
def Cause.message : Cause → String
  | .endInValue => "EOF while parsing a value"
  | .endInList => "EOF while parsing a list"
  | .endInObject => "EOF while parsing an object"
  | .endInText => "EOF while parsing a string"
  | .expectedValue => "expected value"
  | .expectedIdent => "expected ident"
  | .expectedColon => "expected `:`"
  | .expectedListCommaOrEnd => "expected `,` or `]`"
  | .expectedObjectCommaOrEnd => "expected `,` or `\x7d`"
  | .keyMustBeText => "key must be a string"
  | .trailingComma => "trailing comma"
  | .trailingCharacters => "trailing characters"
  | .invalidNumber => "invalid number"
  | .numberOutOfRange => "number out of range"
  | .invalidEscape => "invalid escape"
  | .unfinishedEscape => "unexpected end of hex escape"
  | .loneSurrogate => "lone leading surrogate in hex escape"
  | .controlCharacter => "control character (\\u0000-\\u001F) found while parsing a string"
  | .tooDeep => "recursion limit exceeded"
  | .mismatch found expected => "invalid type: " ++ found.describe ++ ", expected " ++ expected
  | .invalidValue found expected => "invalid value: " ++ found.describe ++ ", expected " ++ expected
  | .invalidLength length expected =>
    "invalid length " ++ toString length ++ ", expected " ++ expected
  | .missingField name => "missing field `" ++ name ++ "`"
  | .duplicateField name => "duplicate field `" ++ name ++ "`"
  | .unknownVariant name known => "unknown variant `" ++ name ++ "`, " ++ oneOf known
  | .refused message => message

/-- A place in a text: lines count from one, columns are the bytes since the last line break. -/
structure Place where
  line : Nat
  column : Nat
  deriving DecidableEq

/-- A step from a container into it. -/
inductive Segment where
  | key (name : String)
  | index (position : Nat)
  deriving DecidableEq

/-- A failed reading. -/
structure Fault where
  cause : Cause
  place : Option Place := none
  path : List Segment := []
  deriving DecidableEq

namespace Fault

/-- The wording of a fault, with its place when it has one. -/
def message (fault : Fault) : String :=
  match fault.place with
  | none => fault.cause.message
  | some place =>
    fault.cause.message ++ " at line " ++ toString place.line ++ " column " ++ toString place.column

/-- The path in front of a fault: keys joined by points, indices in brackets. -/
def pathText : List Segment → String
  | [] => ""
  | .key name :: rest => (if rest matches [] then name else name ++ next rest) ++ pathText rest
  | .index position :: rest =>
    "[" ++ toString position ++ "]" ++ (if rest matches [] then "" else next rest) ++ pathText rest
where
  next : List Segment → String
    | .key _ :: _ => "."
    | _ => ""

/-- The wording of a fault after the path that leads to it. -/
def messageWithPath (fault : Fault) : String :=
  if fault.path.isEmpty then fault.message else pathText fault.path ++ ": " ++ fault.message

end Fault

end InstanceIdentity.Json
