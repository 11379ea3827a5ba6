import InstanceIdentity.Provider.Draft

/-!
# Built-in providers

The descriptors of the providers that are known out of the box.  The weights are empirical: rankings
compare likelihoods across providers, so the weights of one mean something next to the others only.
-/

namespace InstanceIdentity

/-- What is wrong with a local configuration. -/
inductive ConfigError where
  | httpClientBuild (reason : String)
  | invalidDescriptor (error : DescriptorError)
  | invalidId (error : IdentifierError)
  | invalidEndpoint (url : String) (error : UrlError)
  deriving DecidableEq

namespace ConfigError

/-- The wording of a fault in a configuration. -/
def message : ConfigError → String
  | .httpClientBuild _ => "HTTP client could not be constructed."
  | .invalidDescriptor error => error.message
  | .invalidId error => error.message
  | .invalidEndpoint url _ => "Endpoint `" ++ url ++ "` is not a valid URL."

/-- The wording of what lies behind a fault. -/
def source? : ConfigError → Option String
  | .httpClientBuild reason => some reason
  | .invalidEndpoint _ error => some error.message
  | .invalidDescriptor _ | .invalidId _ => none

end ConfigError

namespace Builtin

/-- The user agent that every metadata service sees. -/
def userAgent : String := "RHSM/1.0"

/-- The audience that identity tokens are asked for. -/
def identityAudience : String := "RHSM/1.0"

/-- The file that holds the session token of Amazon Web Services. -/
def awsTokenCacheFile : String := "/var/cache/cloud-provenance/aws_token.json"

/-- The lifetime that session tokens of Amazon Web Services are asked for, in seconds. -/
def awsTokenTtlSeconds : UInt32 := 360

/-- The header of a token request that names the lifetime. -/
def awsTokenTtlHeader : String := "X-aws-ec2-metadata-token-ttl-seconds"

/-- The header of a document request that carries the token. -/
def awsTokenHeader : String := "X-aws-ec2-metadata-token"

/-- The asset tag of virtual machines on Azure. -/
def azureAssetTag : String := "7783-7084-3265-9085-8269-3286-77"

/-- A weight in tenths. -/
def tenths (n : Nat) : Binary64 := Binary64.ofDecimal false n (-1)

/-- Names a provider. -/
def provider (name : String) : Except ConfigError ProviderId :=
  (ProviderId.ofText name).mapError .invalidId

/-- Names an endpoint. -/
def endpoint (url : String) : Except ConfigError Url :=
  (Url.ofText url).mapError (.invalidEndpoint url)

/-- Finishes a draft. -/
def assemble (draft : Draft) (steps : List Draft.Step) : Except ConfigError Descriptor :=
  (draft.takeAll steps).build.mapError .invalidDescriptor

open Detection (Profile)

/-- The signals of Amazon Web Services, on Xen and on KVM. -/
def awsProfile : Profile :=
  ({} : Profile).strong "dmi.bios.version" "amazon" .contains
    |>.strong "dmi.bios.vendor" "Amazon EC2" .contains
    |>.strong "virt.host_type" "aws" .contains
    |>.hypervisor "kvm" (tenths 3)
    |>.hypervisor "xen" (tenths 2)
    |>.startingWith "dmi.system.uuid" "ec2" (tenths 1)
    |>.keyword "amazon ec2" (tenths 3)
    |>.keyword "amazon" (tenths 2)
    |>.keyword "aws" (tenths 1)

/-- Amazon Web Services: documents without credentials, and with a session token where these are
refused. -/
def aws : Except ConfigError Descriptor := do
  let gate : TokenGate :=
    { tokenUrl := ← endpoint "http://169.254.169.254/latest/api/token"
      ttlSeconds := awsTokenTtlSeconds
      ttlHeader := awsTokenTtlHeader
      tokenHeader := awsTokenHeader
      cachePath := some awsTokenCacheFile }
  assemble { id := ← provider "aws" } [
    .detection awsProfile,
    .metadataEndpoint
      (← endpoint "http://169.254.169.254/latest/dynamic/instance-identity/document")
      "application/json",
    .signatureEndpoint
      (← endpoint "http://169.254.169.254/latest/dynamic/instance-identity/signature")
      "text/plain",
    .header "user-agent" userAgent,
    .tokenGate gate,
    .documentCache .reserved]

/-- The signals of Azure. -/
def azureProfile : Profile :=
  ({} : Profile).strong "dmi.chassis.asset_tag" azureAssetTag .equals
    |>.hypervisor "hyperv" (tenths 3)
    |>.keyword "microsoft" (tenths 3)
    |>.keyword "azure" (tenths 1)

/-- Microsoft Azure: an instance document and an attested one. -/
def azure : Except ConfigError Descriptor := do
  assemble { id := ← provider "azure" } [
    .detection azureProfile,
    .metadataEndpoint
      (← endpoint "http://169.254.169.254/metadata/instance?api-version=2021-02-01")
      "application/json",
    .signatureEndpoint
      (← endpoint "http://169.254.169.254/metadata/attested/document?api-version=2021-02-01")
      "application/json",
    .header "user-agent" userAgent,
    .header "Metadata" "true"]

/-- The signals of Google Cloud. -/
def gcpProfile : Profile :=
  ({} : Profile).strong "dmi.bios.vendor" "google" .containsIgnoringCase
    |>.hypervisor "kvm" (tenths 3)
    |>.keyword "google" (tenths 3)
    |>.keyword "gcp" (tenths 1)

/-- Google Cloud: one identity token that carries its own signature. -/
def gcp : Except ConfigError Descriptor := do
  let metadata ← endpoint
    ("http://metadata/computeMetadata/v1/instance/service-accounts/default/identity?audience=" ++
      identityAudience ++ "&format=full")
  assemble { id := ← provider "gcp" } [
    .detection gcpProfile,
    .metadataEndpoint metadata "text/html",
    .bundledSignature,
    .header "user-agent" userAgent,
    .header "Metadata-Flavor" "Google"]

end Builtin

end InstanceIdentity
