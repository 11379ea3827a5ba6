import InstanceIdentity.Digest
import InstanceIdentity.Json.Shape

/-!
# Token secrets

The secret of a session token is shown nowhere but in requests and in the token store.  Diagnostics
name it by a fingerprint, which is enough to tell tokens apart.
-/

namespace InstanceIdentity

/-- A secret that diagnostics do not show. -/
structure TokenSecret where
  exposed : String
  deriving DecidableEq

namespace TokenSecret

/-- The number of characters in a fingerprint. -/
def fingerprintLength : Nat := 12

/-- The start of the digest of the secret, in base 64. -/
def fingerprint (secret : TokenSecret) : String :=
  String.ofList
    ((Base64.encode (Sha256.digest secret.exposed.toUTF8.toList)).take fingerprintLength)

/-- What takes the place of a secret. -/
def redacted : String := "<redacted>"

/-- The form that is shown to users. -/
def displayText (_ : TokenSecret) : String := redacted

/-- The form that diagnostics show. -/
def debugText (_ : TokenSecret) : String := "TokenSecret(\"" ++ redacted ++ "\")"

/-- A secret is stored as it is. -/
def shape : Json.Shape TokenSecret := Json.Shape.plainText.via mk exposed

end TokenSecret

end InstanceIdentity
