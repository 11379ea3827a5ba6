import InstanceIdentity.Collection.World

/-!
# Collectors

A collector serves one provider, by its descriptor.  It fetches the identity document and the
signature over it.  A service behind a token gate is first asked without credentials; when that fails,
a session token is resolved and the metadata asked for again.  A token is taken from memory, else
from the store, else from the service, and in the first two cases only while it is valid.  Only a
token from the service is saved.  No failure leaves a collector: whoever calls is told that there is
no document.
-/

namespace InstanceIdentity

namespace Descriptor

open Http (Request)

/-- A request for a document, with the headers of the provider. -/
def getRequest (d : Descriptor) (url : Url) : Request :=
  ({ method := .get, url } : Request).headersOf d.headers

/-- A request for a document that carries a token. -/
def tokenRequest (d : Descriptor) (gate : TokenGate) (secret : TokenSecret) : Request :=
  (d.getRequest d.endpoints.metadata).header gate.tokenHeader secret.exposed

/-- A request for a token. -/
def issueRequest (d : Descriptor) (gate : TokenGate) : Request :=
  (({ method := .put, url := gate.tokenUrl } : Request).headersOf d.headers).header gate.ttlHeader
    (toString gate.ttlSeconds.toNat)

end Descriptor

/-- The lifetime that tokens are asked for, in seconds. -/
def TokenGate.ttl (gate : TokenGate) : Int := gate.ttlSeconds.toNat

namespace Collection

open Http (Request Transport)
open Diagnostics (Span)

variable {σ τ : Type} (d : Descriptor) (spans : List Span)

/-! ## Fetching -/

/-- Sends a request; only a successful answer counts. -/
def fetch [Transport τ] (target : Target) (request : Request) :
    Work σ τ (Except FetchError String) := do
  Work.note spans (.requesting d.id target request.method request.url)
  Work.count d.id target .attempt
  match ← Work.send request with
  | .error cause =>
    Work.count d.id target .failure
    return .error (.network request.url.text cause)
  | .ok response =>
    if response.isOk then
      Work.count d.id target .success
      return .ok response.body
    else
      Work.count d.id target .failure
      return .error (.unexpectedStatus d.id target response.status)

/-- Sends a request; a failure is reported. -/
def fetchReported [Transport τ] (target : Target) (request : Request) :
    Work σ τ (Option String) := do
  match ← fetch d spans target request with
  | .ok body => return some body
  | .error error =>
    Work.note spans (.fetchFailed d.id target error)
    return none

/-- Looks for a document in a cache; no provider has one. -/
def cachedDocument (kind : DocumentKind) : Work σ τ (Option Document) := do
  Work.note spans (.notCached d.id kind d.documentCache)
  return none

/-! ## Session tokens -/

/-- The remembered token, while it is valid. -/
def rememberedToken (now : Instant) : Work σ τ (Option SessionToken) := do
  match (← get).session with
  | none => return none
  | some session =>
    if now.before (← Work.expiry session) then
      Work.note spans (.tokenReused session.secret.fingerprint)
      return some session
    else return none

/-- The stored token, while it is valid. -/
def storedToken [TokenStore σ] (gate : TokenGate) (now : Instant) :
    Work σ τ (Option SessionToken) := do
  match ← Work.load with
  | .error error =>
    Work.note spans (.storeUnreadable d.id error)
    return none
  | .ok none => return none
  | .ok (some cached) =>
    let session : SessionToken := ⟨cached.secret, cached.createdAt, gate.ttl⟩
    let expiry ← Work.expiry session
    if now.before expiry then
      Work.note spans (.storedTokenUsed d.id session.secret.fingerprint expiry)
      return some session
    else
      Work.note spans (.storedTokenExpired d.id expiry)
      return none

/-- Saves a token. -/
def persist [TokenStore σ] (session : SessionToken) : Work σ τ Unit := do
  match ← Work.save ⟨session.secret, session.createdAt⟩ with
  | .ok () => Work.note spans (.tokenStored d.id session.secret.fingerprint)
  | .error error => Work.note spans (.tokenNotStored d.id error)

/-- A new token from the service, which is saved. -/
def issuedToken [TokenStore σ] [Transport τ] (gate : TokenGate) (now : Instant) :
    Work σ τ (Option SessionToken) := do
  match ← fetch d spans .token (d.issueRequest gate) with
  | .ok body =>
    let session : SessionToken := ⟨⟨body⟩, now, gate.ttl⟩
    persist d spans session
    return some session
  | .error error =>
    Work.note spans (.tokenRefused d.id error)
    return none

/-- A token that was not remembered, and is from now on. -/
def adoptedToken [TokenStore σ] [Transport τ] (gate : TokenGate) (now : Instant) :
    Work σ τ (Option SessionToken) := do
  let found ←
    match ← storedToken d spans gate now with
    | some session => pure (some session)
    | none => issuedToken d spans gate now
  match found with
  | some session =>
    Work.remember session
    return some session
  | none => return none

/-- Resolves a token for a gate: from memory, from the store, from the service. -/
def resolveToken [TokenStore σ] [Transport τ] (gate : TokenGate) (now : Instant) :
    Work σ τ (Option TokenSecret) := do
  let spans := spans ++ [{ provider := d.id, target := .token, stage := "get_token" }]
  match ← rememberedToken spans now with
  | some session => return some session.secret
  | none => return (← adoptedToken d spans gate now).map (·.secret)

/-! ## Documents -/

/-- The metadata behind a token gate. -/
def gatedMetadata [TokenStore σ] [Transport τ] (gate : TokenGate) (now : Instant) :
    Work σ τ (Option String) := do
  match ← fetch d spans .metadata (d.getRequest d.endpoints.metadata) with
  | .ok body => return some body
  | .error error =>
    Work.note spans (.metadataRefused d.id error)
    match ← resolveToken d spans gate now with
    | none => return none
    | some secret => fetchReported d spans .metadata (d.tokenRequest gate secret)

/-- The signature behind a token gate, which is never asked for with a token. -/
def gatedSignature [Transport τ] (url : Url) : Work σ τ (Option String) := do
  match ← fetch d spans .signature (d.getRequest url) with
  | .ok body => return some body
  | .error error =>
    Work.note spans (.signatureRefused d.id error)
    Work.note spans (.noSignature d.id (.unsupported d.id tokenGatedSignature))
    return none

/-- A document with a body, if there is one. -/
def document (kind : DocumentKind) (contentType : String) (body : Option String) :
    Option Document :=
  body.map fun body => { provider := d.id, kind, contentType, body }

/-! ## Operations -/

/-- The identity document. -/
def getMetadata [TokenStore σ] [Transport τ] (now : Instant) : Work σ τ (Option Document) := do
  let spans := [{ provider := d.id, target := .metadata, stage := "get_metadata" }]
  match ← cachedDocument d spans .metadata with
  | some document => return some document
  | none =>
    let body ←
      match d.protocol with
      | .singlePhase => fetchReported d spans .metadata (d.getRequest d.endpoints.metadata)
      | .tokenGated gate => gatedMetadata d spans gate now
    return document d .metadata d.metadataContentType body

/-- The signature over the identity document; none when it is part of that document. -/
def getSignature [Transport τ] : Work σ τ (Option Document) := do
  let spans := [{ provider := d.id, target := .signature, stage := "get_signature" }]
  match d.signature with
  | .bundled =>
    Work.note spans (.bundledSignature d.id)
    return none
  | .separate url contentType =>
    match ← cachedDocument d spans .signature with
    | some document => return some document
    | none =>
      let body ←
        match d.protocol with
        | .singlePhase => fetchReported d spans .signature (d.getRequest url)
        | .tokenGated _ => gatedSignature d spans url
      return document d .signature contentType body

/-- The secret of a session token; none for a provider without a token gate. -/
def getToken [TokenStore σ] [Transport τ] (now : Instant) : Work σ τ (Option TokenSecret) :=
  match d.gate? with
  | none => return none
  | some gate => resolveToken d [] gate now

/-! ## Calls -/

/-- The operations that a collector offers. -/
inductive Call where
  | metadata
  | signature
  | token
  deriving DecidableEq

/-- What an operation brings. -/
inductive Yield where
  | document (found : Option Document)
  | secret (found : Option TokenSecret)
  deriving DecidableEq

/-- Performs an operation at a reading of the clock. -/
def perform [TokenStore σ] [Transport τ] (now : Instant) : Call → Work σ τ Yield
  | .metadata => return .document (← getMetadata d now)
  | .signature => return .document (← getSignature d)
  | .token => return .secret (← getToken d now)

/-- The form in which diagnostics show a collector. -/
def collectorText (session : Option SessionToken) : String :=
  let shown :=
    match session with
    | some token => "Some(" ++ token.debugText ++ ")"
    | none => "None"
  "MetadataCollector \x7b provider: " ++ d.id.debugText ++ ", session: " ++ shown ++ ", .. \x7d"

end Collection

end InstanceIdentity
