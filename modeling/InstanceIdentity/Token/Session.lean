import InstanceIdentity.Instant
import InstanceIdentity.Token.Secret

/-!
# Session tokens

A session token is known with the instant at which it was obtained and the lifetime it was asked for.
It is valid strictly before the sum of the two, whatever the service says.
-/

namespace InstanceIdentity

/-- A secret with the time it is good for. -/
structure SessionToken where
  secret : TokenSecret
  createdAt : Instant
  /-- The lifetime in seconds. -/
  ttl : Int
  deriving DecidableEq

namespace SessionToken

/-- The instant from which the token is no longer valid, if it is supported. -/
def expiresAt? (token : SessionToken) : Option Instant := token.createdAt.addSeconds? token.ttl

/-- Validity at an instant, where the end of the token's life is supported. -/
def isValidAt? (token : SessionToken) (now : Instant) : Option Bool :=
  token.expiresAt?.map now.before

/-- The form that diagnostics show. -/
def debugText (token : SessionToken) : String :=
  "SessionToken \x7b secret: " ++ token.secret.debugText ++ ", created_at: " ++ token.createdAt.text ++
    ", ttl: SignedDuration \x7b seconds: " ++ toString token.ttl ++ ", nanoseconds: 0 \x7d \x7d"

end SessionToken

/-- A secret as a token store keeps it. -/
structure CachedToken where
  secret : TokenSecret
  createdAt : Instant
  deriving DecidableEq

end InstanceIdentity
