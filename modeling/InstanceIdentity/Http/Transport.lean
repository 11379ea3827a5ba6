import InstanceIdentity.Http.Message
import InstanceIdentity.Text.Quoted

/-!
# Transports

A transport carries a request to its service and brings the answer back.  It fails when there was no
answer; an answer of any status is none of its failures.
-/

namespace InstanceIdentity.Http

/-- Why there was no answer. -/
structure TransportFailure where
  message : String
  /-- The form that diagnostics show. -/
  debugText : String
  deriving DecidableEq

/-- What became of a request. -/
abbrev Answer := Except TransportFailure Response

/-- The response of an answer that the service gave and that is successful. -/
def accepted? : Answer → Option Response
  | .ok response => if response.isOk then some response else none
  | .error _ => none

/-- A state that answers requests.  Nothing is assumed of its answers. -/
class Transport (τ : Type) where
  send : Request → τ → Answer × τ

/-- A refusal in given words. -/
def TransportFailure.refused (reason : String) : TransportFailure where
  message := "refused: " ++ reason
  debugText := "Refused(" ++ Text.quoted reason ++ ")"

/-- Answers prepared for the requests to come, one for each. -/
structure Script where
  answers : List Answer := []

instance : Transport Script where
  send _ script :=
    match script.answers with
    | [] => (.error (.refused "script exhausted"), script)
    | answer :: rest => (answer, ⟨rest⟩)

end InstanceIdentity.Http
