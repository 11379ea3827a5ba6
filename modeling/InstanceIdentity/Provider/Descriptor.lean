import InstanceIdentity.Detection.Profile
import InstanceIdentity.ProviderId
import InstanceIdentity.Url.Origin

/-!
# Provider descriptors

A descriptor is everything that is known about a provider: its detection profile, the endpoints of its
metadata service, the headers that every request carries, and the capabilities that decide how
documents are fetched and where their signature is found.
-/

namespace InstanceIdentity

/-- Where session tokens are issued and how requests carry them. -/
structure TokenGate where
  tokenUrl : Url
  /-- The lifetime that is asked for, in seconds. -/
  ttlSeconds : UInt32
  /-- The header in which a token request names the lifetime. -/
  ttlHeader : String
  /-- The header in which a document request carries the token. -/
  tokenHeader : String
  /-- The file that shares the token between processes; without one it stays in memory. -/
  cachePath : Option String
  deriving DecidableEq

/-- How documents are fetched. -/
inductive FetchProtocol where
  /-- One request without credentials. -/
  | singlePhase
  /-- A request without credentials, and on failure another with a session token. -/
  | tokenGated (gate : TokenGate)
  deriving DecidableEq

/-- The token gate of a protocol that has one. -/
def FetchProtocol.gate? : FetchProtocol → Option TokenGate
  | .singlePhase => none
  | .tokenGated gate => some gate

/-- Whether documents may be kept locally. -/
inductive CachePolicy where
  /-- Documents must never be stored. -/
  | notCacheable
  /-- A cache may exist some day; none does. -/
  | reserved
  deriving DecidableEq, Inhabited

/-- Where the signature over the metadata is found. -/
inductive SignatureSupport where
  /-- In a document of its own. -/
  | separate (url : Url) (contentType : String)
  /-- In the metadata document itself. -/
  | bundled
  deriving DecidableEq

/-- The endpoints of a provider. -/
structure Endpoints where
  metadata : Url
  deriving DecidableEq

/-- The description of one provider. -/
structure Descriptor where
  id : ProviderId
  detection : Detection.Profile := {}
  endpoints : Endpoints
  metadataContentType : String
  headers : Dictionary String := .empty
  protocol : FetchProtocol
  documentCache : CachePolicy := .notCacheable
  signature : SignatureSupport
  deriving DecidableEq

/-- The token gate of a provider that has one. -/
def Descriptor.gate? (d : Descriptor) : Option TokenGate := d.protocol.gate?

/-! ## Errors -/

/-- The endpoints that a descriptor can name. -/
inductive EndpointRole where
  | metadata
  | signature
  | token
  deriving DecidableEq

/-- The name of an endpoint. -/
def EndpointRole.name : EndpointRole → String
  | .metadata => "metadata"
  | .signature => "signature"
  | .token => "token"

/-- Why a descriptor is refused. -/
inductive DescriptorError where
  | missingMetadataEndpoint
  | missingSignatureSupport
  | nonPositiveTokenTtl
  | unsupportedEndpoint (endpoint : EndpointRole) (url : Url)
  | invalidHeaderName (name : String)
  | invalidBaseUrl (base : Url)
  deriving DecidableEq

/-- The wording of a refusal. -/
def DescriptorError.message : DescriptorError → String
  | .missingMetadataEndpoint => "Missing metadata endpoint."
  | .missingSignatureSupport =>
    "Descriptor must declare whether signatures are separate or bundled."
  | .nonPositiveTokenTtl => "Token TTL must be positive."
  | .unsupportedEndpoint endpoint url =>
    "The " ++ endpoint.name ++ " endpoint is not an HTTP URL: " ++ url.text ++ "."
  | .invalidHeaderName name => "Header name `" ++ name ++ "` is invalid."
  | .invalidBaseUrl base => "Base URL " ++ base.text ++ " cannot host metadata endpoints."

namespace Descriptor

/-! ## Validity -/

/-- The schemes of metadata services. -/
def servesHttp (url : Url) : Bool := (url.scheme = "http" || url.scheme = "https") && url.host?.isSome

/-- Visible ASCII without the colon. -/
def isHeaderChar (c : Char) : Bool := 0x21 ≤ c.toNat && c.toNat ≤ 0x7e && c != ':'

/-- A header name has at least one character, and only such as headers may have. -/
def isHeaderName (name : String) : Bool := name != "" && name.toList.all isHeaderChar

/-- An endpoint must be an HTTP URL with a host. -/
def checkEndpoint (role : EndpointRole) (url : Url) : Except DescriptorError Unit :=
  if servesHttp url then .ok () else .error (.unsupportedEndpoint role url)

/-- A header name must be one. -/
def checkHeaderName (name : String) : Except DescriptorError Unit :=
  if isHeaderName name then .ok () else .error (.invalidHeaderName name)

/-- The rules for a signature. -/
def checkSignature : SignatureSupport → Except DescriptorError Unit
  | .separate url _ => checkEndpoint .signature url
  | .bundled => .ok ()

/-- The rules for a protocol. -/
def checkProtocol : FetchProtocol → Except DescriptorError Unit
  | .singlePhase => .ok ()
  | .tokenGated gate => do
    if gate.ttlSeconds = 0 then throw .nonPositiveTokenTtl
    checkEndpoint .token gate.tokenUrl
    checkHeaderName gate.ttlHeader
    checkHeaderName gate.tokenHeader

/-- Checks all rules for a descriptor and reports the first that is broken. -/
def validate (d : Descriptor) : Except DescriptorError Unit := do
  checkEndpoint .metadata d.endpoints.metadata
  checkSignature d.signature
  checkProtocol d.protocol
  d.headers.keys.forM checkHeaderName

/-! ## Rebasing -/

/-- Moves one endpoint to the origin of a base. -/
def rebase (base url : Url) : Except DescriptorError Url :=
  match url.rebase? base with
  | some moved => .ok moved
  | none => .error (.invalidBaseUrl base)

/-- Moves a signature endpoint. -/
def rebaseSignature (base : Url) : SignatureSupport → Except DescriptorError SignatureSupport
  | .separate url contentType => do return .separate (← rebase base url) contentType
  | .bundled => .ok .bundled

/-- Moves a token endpoint. -/
def rebaseProtocol (base : Url) : FetchProtocol → Except DescriptorError FetchProtocol
  | .singlePhase => .ok .singlePhase
  | .tokenGated gate => do return .tokenGated { gate with tokenUrl := ← rebase base gate.tokenUrl }

/-- Moves every endpoint to the scheme, host and port of a base, keeping paths and queries. -/
def withBase (d : Descriptor) (base : Url) : Except DescriptorError Descriptor := do
  let metadata ← rebase base d.endpoints.metadata
  let signature ← rebaseSignature base d.signature
  let protocol ← rebaseProtocol base d.protocol
  return { d with endpoints := { metadata }, signature, protocol }

end Descriptor

end InstanceIdentity
