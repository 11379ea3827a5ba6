import InstanceIdentity.Provider.Descriptor

/-!
# Descriptors in JSON

The layouts of descriptors and their parts.  Protocol and signature are told apart by a member
`kind`; profile, headers and cache policy may be left out.
-/

namespace InstanceIdentity

open Json (Shape Fields Alternatives)

/-- A path is any text. -/
def pathShape : Shape String := .text "path string" .ok id

/-- A natural number below `2 ^ 32`. -/
def wordShape : Shape UInt32 := (Shape.natural (Nat.pow 2 32) "u32").via UInt32.ofFin UInt32.toFin

/-- The fields of a token gate. -/
def TokenGate.fields :
    Fields (Option Url × Option UInt32 × Option String × Option String ×
      Option (Option String) × Unit) (Url × UInt32 × String × String × Option String × Unit) :=
  .field "token_url" .refused Url.shape <|
  .field "ttl_seconds" .refused wordShape <|
  .field "ttl_header" .refused .plainText <|
  .field "token_header" .refused .plainText <|
  .field "cache_path" (.inObject none) (.optional pathShape) .done

/-- A token gate from the values of its fields. -/
def TokenGate.ofFields : Url × UInt32 × String × String × Option String × Unit → TokenGate
  | (url, ttl, ttlHeader, tokenHeader, path, ()) => ⟨url, ttl, ttlHeader, tokenHeader, path⟩

/-- The values of the fields of a token gate. -/
def TokenGate.toFields (g : TokenGate) : Url × UInt32 × String × String × Option String × Unit :=
  (g.tokenUrl, g.ttlSeconds, g.ttlHeader, g.tokenHeader, g.cachePath, ())

/-- The layout of a token gate. -/
def TokenGate.shape : Shape TokenGate :=
  (Shape.record "struct TokenGate" fields).via ofFields toFields

/-- The layout of a protocol. -/
def FetchProtocol.shape : Shape FetchProtocol :=
  (Shape.tagged "internally tagged enum FetchProtocol" "kind" <|
    .alternative "single_phase" "unit" .done <|
    .alternative "token_gated" "struct TokenGate" TokenGate.fields .nil).via
    (fun
      | .inl () => .singlePhase
      | .inr (.inl fields) => .tokenGated (.ofFields fields))
    (fun
      | .singlePhase => .inl ()
      | .tokenGated gate => .inr (.inl gate.toFields))

/-- The name of a cache policy. -/
def CachePolicy.name : CachePolicy → String
  | .notCacheable => "not_cacheable"
  | .reserved => "reserved"

/-- The layout of a cache policy. -/
def CachePolicy.shape : Shape CachePolicy :=
  .choice [("not_cacheable", .notCacheable), ("reserved", .reserved)] name

/-- The layout of a signature. -/
def SignatureSupport.shape : Shape SignatureSupport :=
  (Shape.tagged "internally tagged enum SignatureSupport" "kind" <|
    .alternative "separate" "struct variant SignatureSupport::Separate"
      (.field "url" .refused Url.shape <| .field "content_type" .refused .plainText .done) <|
    .alternative "bundled" "unit" .done .nil).via
    (fun
      | .inl (url, contentType, ()) => .separate url contentType
      | .inr (.inl ()) => .bundled)
    (fun
      | .separate url contentType => .inl (url, contentType, ())
      | .bundled => .inr (.inl ()))

/-- The layout of the endpoints. -/
def Endpoints.shape : Shape Endpoints :=
  (Shape.record "struct ProviderEndpoints" <| .field "metadata" .refused Url.shape .done).via
    (fun (metadata, ()) => ⟨metadata⟩) (fun e => (e.metadata, ()))

/-- The layout of a descriptor. -/
def Descriptor.shape : Shape Descriptor :=
  (Shape.record "struct ProviderDescriptor" <|
    .field "id" .refused ProviderId.shape <|
    .field "detection" (.anywhere {}) Detection.Profile.shape <|
    .field "endpoints" .refused Endpoints.shape <|
    .field "metadata_content_type" .refused .plainText <|
    .field "headers" (.anywhere .empty) (.dictionary .plainText) <|
    .field "protocol" .refused FetchProtocol.shape <|
    .field "document_cache" (.anywhere .notCacheable) CachePolicy.shape <|
    .field "signature" .refused SignatureSupport.shape .done).via
    (fun (id, detection, endpoints, contentType, headers, protocol, cache, signature, ()) =>
      ⟨id, detection, endpoints, contentType, headers, protocol, cache, signature⟩)
    (fun d =>
      (d.id, d.detection, d.endpoints, d.metadataContentType, d.headers, d.protocol,
        d.documentCache, d.signature, ()))

end InstanceIdentity
