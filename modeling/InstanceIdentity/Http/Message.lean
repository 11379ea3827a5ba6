import InstanceIdentity.Json.Shape
import InstanceIdentity.Url.Basic

/-!
# Requests and responses

Metadata services are asked by small requests without a body and answer with a status and a text.
-/

namespace InstanceIdentity.Http

/-- The verbs of requests. -/
inductive Method where
  /-- Asks for a document. -/
  | get
  /-- Asks for a session token. -/
  | put
  deriving DecidableEq

/-- The verb as it is sent. -/
def Method.verb : Method → String
  | .get => "GET"
  | .put => "PUT"

/-- The name of a verb. -/
def Method.name : Method → String
  | .get => "Get"
  | .put => "Put"

/-- A verb is written by its name. -/
def Method.shape : Json.Shape Method := .choice [("Get", .get), ("Put", .put)] name

/-- A request. -/
structure Request where
  method : Method
  url : Url
  /-- Names and values, in the order in which they are sent. -/
  headers : List (String × String) := []
  deriving DecidableEq

namespace Request

/-- Adds a header at the end. -/
def header (request : Request) (name value : String) : Request :=
  { request with headers := request.headers ++ [(name, value)] }

/-- Adds headers at the end, in the order of their names. -/
def headersOf (request : Request) (headers : Dictionary String) : Request :=
  { request with headers := request.headers ++ headers.entries }

end Request

/-- A name with its ASCII letters in lower case. -/
def foldedName (name : String) : String := name.map Char.toLower

/-- The value of the first header of a name, whose ASCII letters may be of either case. -/
def Request.headerValue? (request : Request) (name : String) : Option String :=
  (request.headers.find? fun header => foldedName header.1 = foldedName name).map (·.2)

/-- What a service answers. -/
structure Response where
  status : UInt16
  body : String
  deriving DecidableEq

/-- The status of a successful answer; no other one is accepted. -/
def accepted : UInt16 := 200

/-- The service answered with what was asked for. -/
def Response.isOk (response : Response) : Bool := response.status = accepted

end InstanceIdentity.Http
