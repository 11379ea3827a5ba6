import InstanceIdentity.Collection.Document
import InstanceIdentity.Proofs.Provider.Layout
import InstanceIdentity.Provider.Builtin
import InstanceIdentity.Store.Basic

/-!
# Values survive JSON

Descriptors, profiles, results, documents and the failures of stores are written as JSON and read back.
All of them come back as they were, but for the numbers: a number is read by multiplying or dividing its
digits by a power of ten, which rounds twice, so that it need not be the number that was written.

Main results:

- Theorem `round_trips`: everything is read back, the numbers as `Binary64.reread` says.
- Theorem `likelihood_not_kept`: a likelihood next to one is read as one.
-/

namespace InstanceIdentity

open Json.Shape

theorem Collection.Document.recovers (document : Document) : shape.Recovers 1 document document :=
  recovers_structure (document.provider, document.kind, document.contentType, document.body, ())
    (by decide)
    ⟨document.provider.recovers 0, recovers_choice (by cases document.kind <;> rfl) 0,
      recovers_plainText _ 0, recovers_plainText _ 0, trivial⟩

theorem StoreError.recovers (failure : StoreError) : shape.Recovers 2 failure failure := by
  cases failure with
  | serialization message =>
    exact recovers_via (.inl (message, ()))
      (recovers_keyed _ (by decide) ⟨by decide, recovers_plainText message 0, trivial⟩) rfl
  | invalidTimestamp value =>
    exact recovers_via (.inr (.inl (value, ())))
      (recovers_keyed _ (by decide) ⟨by decide, recovers_plainText value 0, trivial⟩) rfl
  | backend message =>
    exact recovers_via (.inr (.inr (.inl (message, ()))))
      (recovers_keyed _ (by decide) ⟨by decide, recovers_plainText message 0, trivial⟩) rfl

open Detection Collection in
/-- Descriptors, profiles, results, documents and failures of stores are written and read back, when
their numbers are finite and their URLs are what their texts name.  A descriptor is read alike from any
object that has its members, in any order and among others, even if defaults are left out.  The only
change is that of numbers, each of which becomes the finite number that is read for it, and this is the
number itself when its digits and their power of ten are numbers. -/
theorem round_trips (d : Descriptor) (profile : Profile) (result : Result) (document : Document)
    (failure : StoreError) :
    ((∀ weight ∈ d.detection.allWeights, weight.isFinite = true) →
      (∀ url ∈ d.urls, url.Reparses) →
      Descriptor.shape.roundTrip d = .ok d.reread ∧
      (∀ members, d.Form members → Descriptor.shape.ofText (Json.object members).render = .ok d.reread) ∧
      (d.reread = d ↔ ∀ weight ∈ d.detection.allWeights, weight.reread = weight)) ∧
    ((∀ weight ∈ profile.allWeights, weight.isFinite = true) →
      Profile.shape.roundTrip profile = .ok profile.reread ∧
      (profile.reread = profile ↔ ∀ weight ∈ profile.allWeights, weight.reread = weight)) ∧
    (result.likelihood.isFinite = true →
      Result.shape.roundTrip result = .ok { result with likelihood := result.likelihood.reread }) ∧
    Document.shape.roundTrip document = .ok document ∧
    StoreError.shape.roundTrip failure = .ok failure ∧
    (∀ x : Binary64, x.isFinite = true → x.reread.isFinite = true) ∧
    (∀ x : Binary64, x.Plain → x.reread = x) := by
  refine ⟨fun hfinite hreparses => ⟨?_, fun members hform => ?_, Descriptor.reread_eq_self_iff⟩,
    fun hfinite => ⟨?_, Profile.reread_eq_self_iff⟩, fun hfinite => ?_, ?_, ?_,
    fun x => Binary64.reread_isFinite, fun x => Binary64.reread_of_plain⟩
  · rw [roundTrip, Descriptor.write_eq]
    exact Descriptor.ofText_form hfinite hreparses d.form_members
  · exact Descriptor.ofText_form hfinite hreparses hform
  · exact roundTrip_of_recovers (Profile.recovers hfinite) (by decide)
  · exact roundTrip_of_recovers (Result.recovers hfinite) (by decide)
  · exact roundTrip_of_recovers document.recovers (by decide)
  · exact roundTrip_of_recovers failure.recovers (by decide)

/-- A URL of a metadata service in a network of version six. -/
def localService (path : String) : Url where
  scheme := "http"
  authority := some { host := some (.ipv6 [0xfd00, 0xec2, 0, 0, 0, 0, 0, 0x254]) }
  path := path

/-- A name of a provider. -/
def awsId : ProviderId := ⟨"aws", by decide, by decide, List.all_eq_true.1 rfl⟩

/-- A descriptor with a token gate and a signature of its own. -/
def gatedDescriptor : Descriptor where
  id := awsId
  detection := Builtin.awsProfile
  endpoints := ⟨localService "/latest/dynamic/instance-identity/document"⟩
  metadataContentType := "application/json"
  protocol := .tokenGated {
    tokenUrl := localService "/latest/api/token"
    ttlSeconds := Builtin.awsTokenTtlSeconds
    ttlHeader := Builtin.awsTokenTtlHeader
    tokenHeader := Builtin.awsTokenHeader
    cachePath := some Builtin.awsTokenCacheFile }
  signature := .separate (localService "/latest/dynamic/instance-identity/rsa2048") "text/plain"

/-- Its members in another order, without two defaults, and behind a member of another name. -/
def gatedMembers : List (String × Json) :=
  ("comment", .array [.null]) ::
    (gatedDescriptor.members.filter fun m => m.1 ≠ "headers" && m.1 ≠ "document_cache").reverse

theorem gatedMembers_form : gatedDescriptor.Form gatedMembers where
  each member hmem := by
    rcases List.mem_cons.1 hmem with rfl | hmem
    · exact .inr ⟨by decide, 1, .array (by simpa using .null 0)⟩
    · exact .inl (List.mem_of_mem_filter (List.mem_reverse.1 hmem))
  once := by decide
  missing := by decide

/-- A result with a likelihood that built-in profiles have. -/
def likelyResult : Detection.Result where
  provider := awsId
  isVirtual := true
  isOnProvider := false
  likelihood := Builtin.tenths 7

/-- The weights of a built-in profile are plain, so that everything is kept. -/
theorem round_trips_gated :
    Descriptor.shape.roundTrip gatedDescriptor = .ok gatedDescriptor ∧
    Descriptor.shape.ofText (Json.object gatedMembers).render = .ok gatedDescriptor ∧
    Detection.Profile.shape.roundTrip Builtin.awsProfile = .ok Builtin.awsProfile ∧
    Detection.Result.shape.roundTrip likelyResult = .ok likelyResult := by
  obtain ⟨hofDescriptor, hofProfile, hofResult, -, -, -, hplain⟩ :=
    round_trips gatedDescriptor Builtin.awsProfile likelyResult
      ⟨awsId, .metadata, "text/plain", "document"⟩ (.backend "read-only")
  have hfinite : ∀ weight ∈ Builtin.awsProfile.allWeights, weight.isFinite = true := by decide +kernel
  have hkept : ∀ weight ∈ Builtin.awsProfile.allWeights, weight.reread = weight := fun weight hmem =>
    hplain weight ((by decide +kernel : ∀ weight ∈ Builtin.awsProfile.allWeights,
      weight.Plain) weight hmem)
  have hreparses : ∀ url ∈ gatedDescriptor.urls, url.Reparses := by decide +kernel
  obtain ⟨hwhole, hforms, hsame⟩ := hofDescriptor hfinite hreparses
  obtain ⟨hprofile, hsameProfile⟩ := hofProfile hfinite
  have hunchanged := hsame.2 hkept
  have hlikelihood := hplain likelyResult.likelihood (by decide +kernel)
  refine ⟨?_, ?_, ?_, ?_⟩
  · rw [hwhole, hunchanged]
  · rw [hforms gatedMembers gatedMembers_form, hunchanged]
  · rw [hprofile, hsameProfile.2 hkept]
  · rw [hofResult (by decide +kernel), hlikelihood]

/-- A result whose likelihood is the last number below one. -/
def nearlyCertain : Detection.Result :=
  { likelyResult with likelihood := .finite false ⟨1023 * Nat.pow 2 52 - 1, by decide⟩ }

/-- The likelihood is read as one: sixteen nines are more than the digits of a number can hold, and
rounding them alone makes them a power of ten. -/
theorem likelihood_not_kept :
    nearlyCertain.likelihood.isFinite = true ∧
      Detection.Result.shape.roundTrip nearlyCertain ≠ .ok nearlyCertain := by
  have hfinite : nearlyCertain.likelihood.isFinite = true := rfl
  have hrounded : nearlyCertain.likelihood.reread = Binary64.ofInt 1 := by decide +kernel
  have hread := roundTrip_of_recovers (Detection.Result.recovers hfinite) (by decide)
  rw [Detection.Result.reread, hrounded] at hread
  refine ⟨hfinite, fun hkept => ?_⟩
  rw [hread] at hkept
  exact absurd (Except.ok.inj hkept) (by decide +kernel)

end InstanceIdentity
