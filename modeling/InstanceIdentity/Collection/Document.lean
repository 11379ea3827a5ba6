import InstanceIdentity.ProviderId

/-!
# Documents

What a metadata service hands out: the identity document of an instance, and a signature over it.
-/

namespace InstanceIdentity.Collection

/-- The documents of a metadata service. -/
inductive DocumentKind where
  | metadata
  | signature
  deriving DecidableEq

/-- The name of a kind of document. -/
def DocumentKind.name : DocumentKind → String
  | .metadata => "metadata"
  | .signature => "signature"

open Json (Shape Fields)

/-- A kind of document is written by its name. -/
def DocumentKind.shape : Shape DocumentKind :=
  .choice [("metadata", .metadata), ("signature", .signature)] name

/-- A document, with its body as it was received. -/
structure Document where
  provider : ProviderId
  kind : DocumentKind
  contentType : String
  body : String
  deriving DecidableEq

/-- The layout of a document. -/
def Document.shape : Shape Document :=
  (Shape.record "struct Document" <|
    .field "provider" .refused ProviderId.shape <|
    .field "kind" .refused DocumentKind.shape <|
    .field "content_type" .refused .plainText <|
    .field "body" .refused .plainText .done).via
    (fun (provider, kind, contentType, body, ()) => ⟨provider, kind, contentType, body⟩)
    (fun d => (d.provider, d.kind, d.contentType, d.body, ()))

end InstanceIdentity.Collection
