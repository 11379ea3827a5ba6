import InstanceIdentity.Provider.Descriptor

/-!
# Drafting descriptors

A descriptor is put together in steps, each of which sets one part and replaces what an earlier step
set.  The metadata endpoint and the signature must have been set; the result must be valid.
-/

namespace InstanceIdentity

/-- A descriptor in the making. -/
structure Draft where
  id : ProviderId
  detection : Detection.Profile := {}
  metadata : Option Url := none
  metadataContentType : String := "application/json"
  headers : Dictionary String := .empty
  protocol : FetchProtocol := .singlePhase
  documentCache : CachePolicy := .notCacheable
  signature : Option SignatureSupport := none

namespace Draft

/-- One step of drafting. -/
inductive Step where
  | detection (profile : Detection.Profile)
  | metadataEndpoint (url : Url) (contentType : String)
  | header (name value : String)
  | tokenGate (gate : TokenGate)
  | documentCache (policy : CachePolicy)
  | signatureEndpoint (url : Url) (contentType : String)
  | bundledSignature

/-- Takes one step. -/
def take (draft : Draft) : Step → Draft
  | .detection profile => { draft with detection := profile }
  | .metadataEndpoint url contentType =>
    { draft with metadata := some url, metadataContentType := contentType }
  | .header name value => { draft with headers := draft.headers.insert name value }
  | .tokenGate gate => { draft with protocol := .tokenGated gate }
  | .documentCache policy => { draft with documentCache := policy }
  | .signatureEndpoint url contentType => { draft with signature := some (.separate url contentType) }
  | .bundledSignature => { draft with signature := some .bundled }

/-- Takes steps one after the other. -/
def takeAll (draft : Draft) (steps : List Step) : Draft := steps.foldl take draft

/-- The drafted descriptor, if it is complete and valid. -/
def build (draft : Draft) : Except DescriptorError Descriptor :=
  match draft.metadata, draft.signature with
  | none, _ => .error .missingMetadataEndpoint
  | some _, none => .error .missingSignatureSupport
  | some metadata, some signature =>
    let descriptor : Descriptor :=
      { id := draft.id
        detection := draft.detection
        endpoints := { metadata }
        metadataContentType := draft.metadataContentType
        headers := draft.headers
        protocol := draft.protocol
        documentCache := draft.documentCache
        signature }
    descriptor.validate.map fun () => descriptor

end Draft

end InstanceIdentity
