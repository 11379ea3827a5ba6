import InstanceIdentity.Collection.Document
import InstanceIdentity.Collection.Failure
import InstanceIdentity.Detection.Detector
import InstanceIdentity.Instant

/-!
# Diagnostics

What detection and collection report while they work: events, each with a level, a message and named
texts, inside the spans of the operations under way, and counts of requests and of their outcomes.
A secret appears in them as its fingerprint only.
-/

namespace InstanceIdentity.Diagnostics

open Collection (Target FetchError Failure DocumentKind)

/-- How much an event matters. -/
inductive Level where
  | trace
  | debug
  | error
  deriving DecidableEq

/-- The name of a level. -/
def Level.name : Level → String
  | .trace => "TRACE"
  | .debug => "DEBUG"
  | .error => "ERROR"

/-- An operation of a collector, as the events inside it show it. -/
structure Span where
  provider : ProviderId
  target : Target
  stage : String
  deriving DecidableEq

/-- A span in one line. -/
def Span.text (span : Span) : String :=
  span.provider.value ++ "/" ++ span.target.name ++ "/" ++ span.stage

/-- What is reported. -/
inductive Note where
  /-- A strong signal decided for a provider. -/
  | strongSignal (provider : ProviderId) (signal : Detection.StrongSignal)
  /-- A provider's profile was evaluated for a ranking. -/
  | evaluated (result : Detection.Result)
  /-- There is no cached document. -/
  | notCached (provider : ProviderId) (document : DocumentKind) (policy : CachePolicy)
  /-- The signature is part of the metadata. -/
  | bundledSignature (provider : ProviderId)
  /-- A request is about to be sent. -/
  | requesting (provider : ProviderId) (target : Target) (method : Http.Method) (url : Url)
  /-- A request brought nothing. -/
  | fetchFailed (provider : ProviderId) (target : Target) (error : FetchError)
  /-- The service wants a token before it shows the metadata. -/
  | metadataRefused (provider : ProviderId) (error : FetchError)
  /-- The service wants a token before it shows the signature. -/
  | signatureRefused (provider : ProviderId) (error : FetchError)
  /-- There is no other way to the signature. -/
  | noSignature (provider : ProviderId) (failure : Failure)
  /-- The token in memory is still valid. -/
  | tokenReused (fingerprint : String)
  /-- The stored token is no longer valid. -/
  | storedTokenExpired (provider : ProviderId) (expiredAt : Instant)
  /-- The stored token is valid. -/
  | storedTokenUsed (provider : ProviderId) (fingerprint : String) (expiresAt : Instant)
  /-- The token store could not be read. -/
  | storeUnreadable (provider : ProviderId) (error : StoreError)
  /-- A new token was stored. -/
  | tokenStored (provider : ProviderId) (fingerprint : String)
  /-- A new token could not be stored. -/
  | tokenNotStored (provider : ProviderId) (error : StoreError)
  /-- No token was issued. -/
  | tokenRefused (provider : ProviderId) (error : FetchError)
  deriving DecidableEq

namespace Note

/-- Failures of a token store are errors, what changes nothing is a trace, and all else is for
debugging. -/
def level : Note → Level
  | .storeUnreadable .. | .tokenNotStored .. => .error
  | .notCached .. | .tokenReused _ => .trace
  | _ => .debug

/-- The wording of a note. -/
def message : Note → String
  | .strongSignal .. => "Strong provider signal matched."
  | .evaluated _ => "Evaluated provider detector."
  | .notCached .. => "Document cache not available."
  | .bundledSignature _ => "Signature is bundled with the metadata document."
  | .requesting .. => "Requesting."
  | .fetchFailed .. => "Unable to fetch from the metadata service."
  | .metadataRefused .. => "Unauthenticated metadata request failed; retrying with a session token."
  | .signatureRefused .. => "Unauthenticated signature request failed."
  | .noSignature .. => "No signature available."
  | .tokenReused _ => "Reusing in-memory session token."
  | .storedTokenExpired .. => "Cached session token expired."
  | .storedTokenUsed .. => "Using cached session token."
  | .storeUnreadable .. => "Ignoring unreadable token cache."
  | .tokenStored .. => "Persisted session token."
  | .tokenNotStored .. => "Unable to persist session token."
  | .tokenRefused .. => "Unable to obtain a session token."

/-- The text of a truth value. -/
def truthText (value : Bool) : String := if value then "true" else "false"

/-- The form in which diagnostics show a cache policy. -/
def policyText : CachePolicy → String
  | .notCacheable => "NotCacheable"
  | .reserved => "Reserved"

/-- The named texts of a note. -/
def fields : Note → List (String × String)
  | .strongSignal provider signal =>
    [("provider", provider.value), ("fact", signal.fact), ("needle", signal.needle)]
  | .evaluated result =>
    [("provider", result.provider.value), ("strong", truthText result.isOnProvider),
      ("likelihood", result.likelihood.text)]
  | .notCached provider document policy =>
    [("provider", provider.value), ("document", document.name), ("policy", policyText policy)]
  | .bundledSignature provider => [("provider", provider.value)]
  | .requesting provider target method url =>
    [("provider", provider.value), ("target", target.name), ("method", method.verb),
      ("url", url.text)]
  | .fetchFailed provider target error =>
    [("provider", provider.value), ("target", target.name), ("error", error.message),
      ("source", error.causeText)]
  | .metadataRefused provider error | .signatureRefused provider error =>
    [("provider", provider.value), ("error", error.message)]
  | .noSignature provider failure => [("provider", provider.value), ("error", failure.message)]
  | .tokenReused fingerprint => [("fingerprint", fingerprint)]
  | .storedTokenExpired provider expiredAt =>
    [("provider", provider.value), ("expired_at", expiredAt.text)]
  | .storedTokenUsed provider fingerprint expiresAt =>
    [("provider", provider.value), ("fingerprint", fingerprint), ("expires_at", expiresAt.text)]
  | .storeUnreadable provider error | .tokenNotStored provider error =>
    [("provider", provider.value), ("error", error.message)]
  | .tokenStored provider fingerprint =>
    [("provider", provider.value), ("fingerprint", fingerprint)]
  | .tokenRefused provider error =>
    [("provider", provider.value), ("error", error.message), ("source", error.causeText)]

end Note

/-- A note inside the operations that are under way, outermost first. -/
structure Event where
  note : Note
  spans : List Span := []
  deriving DecidableEq

/-- What became of a request, as it is counted. -/
inductive Outcome where
  /-- It is about to be sent. -/
  | attempt
  /-- It was answered successfully. -/
  | success
  /-- There was no answer, or one of another status. -/
  | failure
  deriving DecidableEq

/-- The name of an outcome. -/
def Outcome.name : Outcome → String
  | .attempt => "attempt"
  | .success => "success"
  | .failure => "failure"

/-- One increment of a counter. -/
structure Count where
  provider : ProviderId
  target : Target
  outcome : Outcome
  deriving DecidableEq

/-- An increment in one line: the counter, its labels and the step. -/
def Count.text (count : Count) : String :=
  "cloud_provenance_fetch_total\x7bprovider=" ++ count.provider.value ++ ",target=" ++
    count.target.name ++ ",outcome=" ++ count.outcome.name ++ "\x7d+1"

end InstanceIdentity.Diagnostics
