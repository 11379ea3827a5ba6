import InstanceIdentity.Json.Printer
import InstanceIdentity.Json.Shape.Document
import InstanceIdentity.Store.Basic
import InstanceIdentity.Text.Characters

/-!
# The content of a cache file

A token is kept in a file as a JSON object of two texts: the seconds since 1970 at which it was
obtained, as a decimal number, and its secret.  When it is read, the time may also be a JSON number,
and whatever follows the object is left unread.
-/

namespace InstanceIdentity.CacheFile

/-- The recorded time of creation. -/
inductive Time where
  | text (value : String)
  | number (seconds : Binary64)

/-- The content of a file before its time is understood. -/
structure Content where
  time : Time
  token : String

open Json (Shape Fields)

/-- A time as a text or a number. -/
def Time.ofJson? : Json → Option Time
  | .text value => some (.text value)
  | .integer value => some (.number (Binary64.ofInt value))
  | .float value => some (.number value)
  | _ => none

/-- The JSON value of a time. -/
def Time.toJson : Time → Json
  | .text value => .text value
  | .number seconds => .float seconds

/-- The layout of a time. -/
def Time.shape : Shape Time :=
  .chosen "data did not match any variant of untagged enum CacheTime" ofJson? toJson

/-- The layout of a file. -/
def Content.shape : Shape Content :=
  (Shape.record "struct CacheFile" <|
    .field "ctime" .refused Time.shape <|
    .field "token" .refused .plainText .done).via
    (fun (time, token, ()) => ⟨time, token⟩) (fun c => (c.time, c.token, ()))

/-! ## Times -/

/-- The value of a time as it was found. -/
def Time.found : Time → String
  | .text value => value
  | .number seconds => seconds.text

/-- The seconds of a time, if it names a number. -/
def Time.seconds? : Time → Option Binary64
  | .text value => Binary64.ofText? (Text.trimmed value)
  | .number seconds => some seconds

/-- The instant of a count of nanoseconds.  Counts are words of 128 bits, which do not overflow but stay
at their ends, far from every supported instant. -/
def instantOfCount? (nanos : Int) : Option Instant :=
  Instant.ofNanos? (max (-(Int.pow 2 127)) (min (Int.pow 2 127 - 1) nanos))

/-- The instant of a time: the nanoseconds are the product with `10 ^ 9`, cut to an integer. -/
def Time.instant? (time : Time) : Option Instant := do
  let seconds ← time.seconds?.filter Binary64.isFinite
  let nanos ← (seconds.scale 1000000000 1).truncate?
  instantOfCount? nanos

/-- An instant in decimal seconds. -/
def timeText (t : Instant) : String := ((Binary64.ofInt t.nanos).scale 1 1000000000).text

/-! ## Whole files -/

/-- The content of a file that holds a token. -/
def render (token : CachedToken) : String :=
  (Json.object [("ctime", .text (timeText token.createdAt)),
    ("token", .text token.secret.exposed)]).render

/-- The token in a file of a given name. -/
def parse (path content : String) : Except StoreError CachedToken := do
  match (Content.shape.read Json.Reader.nesting).run content with
  | .error fault =>
    throw (.serialization ("Failed to parse " ++ path ++ ": " ++ fault.messageWithPath))
  | .ok file =>
    match file.time.instant? with
    | none => throw (.invalidTimestamp file.time.found)
    | some createdAt => return { secret := ⟨file.token⟩, createdAt }

end InstanceIdentity.CacheFile
