import InstanceIdentity.Http.Transport
import InstanceIdentity.Provider.Builtin
import InstanceIdentity.Store.Basic

/-!
# Failures

Everything that can go wrong on the way to a document or a token.  None of it reaches the caller of a
collector, who is told that there is no document; diagnostics show the rest.
-/

namespace InstanceIdentity.Collection

/-- What a request is after. -/
inductive Target where
  | metadata
  | signature
  | token
  deriving DecidableEq

/-- The name of a target. -/
def Target.name : Target → String
  | .metadata => "metadata"
  | .signature => "signature"
  | .token => "token"

/-- Why a request brought nothing. -/
inductive FetchError where
  /-- There was no answer. -/
  | network (url : String) (cause : Http.TransportFailure)
  /-- The answer was not a success. -/
  | unexpectedStatus (provider : ProviderId) (target : Target) (status : UInt16)
  deriving DecidableEq

namespace FetchError

/-- The wording of a failed request. -/
def message : FetchError → String
  | .network url _ => "Network error occurred while calling " ++ url ++ "."
  | .unexpectedStatus provider target status =>
    "The " ++ provider.value ++ " metadata service answered the " ++ target.name ++
      " request with HTTP " ++ toString status.toNat ++ "."

/-- What lies behind a failed request. -/
def cause? : FetchError → Option Http.TransportFailure
  | .network _ cause => some cause
  | .unexpectedStatus .. => none

/-- The form in which diagnostics show what lies behind a failed request. -/
def causeText (error : FetchError) : String :=
  match error.cause? with
  | some cause => "Some(" ++ cause.debugText ++ ")"
  | none => "None"

end FetchError

/-- Anything that can go wrong. -/
inductive Failure where
  | storage (error : StoreError)
  | config (error : ConfigError)
  | fetch (error : FetchError)
  /-- The provider cannot serve what was asked for. -/
  | unsupported (provider : ProviderId) (operation : String)
  deriving DecidableEq

namespace Failure

/-- The wording of a failure. -/
def message : Failure → String
  | .storage error => error.message
  | .config error => error.message
  | .fetch error => error.message
  | .unsupported provider operation =>
    "The " ++ provider.value ++ " collector does not support " ++ operation ++ "."

/-- The wordings of what lies behind a failure, nearest first. -/
def sources : Failure → List String
  | .storage error => [error.message]
  | .config error => error.source?.toList
  | .fetch error => (error.cause?.map (·.message)).toList
  | .unsupported .. => []

end Failure

/-- The operation that token-gated providers do not support. -/
def tokenGatedSignature : String := "token-gated signature fetch"

end InstanceIdentity.Collection
