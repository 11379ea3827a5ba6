import InstanceIdentity.Proofs.Outcomes
import InstanceIdentity.Provider.Descriptor

/-!
# Valid descriptors

What the checks on a descriptor establish, said without them: a descriptor that passes is `Sound`,
and a sound one passes.

Main results:

- Theorem `Descriptor.checkProtocol_eq_ok_iff`: the rules for a protocol are those for its gate.
- Theorem `Descriptor.validate_eq_ok_iff`: the valid descriptors are the sound ones.
-/

namespace InstanceIdentity

/-- A gate issues tokens at an HTTP URL, for some time, and its headers have names. -/
structure TokenGate.Sound (gate : TokenGate) : Prop where
  lifetime : gate.ttlSeconds ≠ 0
  tokenUrl : Descriptor.servesHttp gate.tokenUrl = true
  ttlHeader : Descriptor.isHeaderName gate.ttlHeader = true
  tokenHeader : Descriptor.isHeaderName gate.tokenHeader = true

theorem TokenGate.Sound.seconds_pos {gate : TokenGate} (h : gate.Sound) :
    0 < gate.ttlSeconds.toNat :=
  Nat.pos_of_ne_zero fun hzero => h.lifetime (UInt32.toNat_inj.1 hzero)

namespace Descriptor

/-- All endpoints of a descriptor are HTTP URLs, its gate is sound, and its headers have names. -/
structure Sound (d : Descriptor) : Prop where
  metadata : servesHttp d.endpoints.metadata = true
  signature : ∀ url contentType, d.signature = .separate url contentType → servesHttp url = true
  gate : ∀ gate, d.gate? = some gate → gate.Sound
  headers : ∀ name ∈ d.headers.keys, isHeaderName name = true

theorem gate?_eq_some_iff {d : Descriptor} {gate : TokenGate} :
    d.gate? = some gate ↔ d.protocol = .tokenGated gate := by
  unfold gate?
  cases d.protocol <;> simp [FetchProtocol.gate?]

/-! ## The single checks -/

/-- A URL of HTTP that names a host. -/
def HttpWithHost (url : Url) : Prop := (url.scheme = "http" ∨ url.scheme = "https") ∧ url.host? ≠ none

/-- A name of visible ASCII characters without the colon, at least one. -/
def HeaderSpelling (name : String) : Prop :=
  name ≠ "" ∧ ∀ c ∈ name.toList, 0x21 ≤ c.toNat ∧ c.toNat ≤ 0x7e ∧ c ≠ ':'

theorem servesHttp_iff {url : Url} : servesHttp url = true ↔ HttpWithHost url := by
  simp [servesHttp, HttpWithHost, Option.isSome_iff_ne_none]

theorem isHeaderName_iff {name : String} : isHeaderName name = true ↔ HeaderSpelling name := by
  simp [isHeaderName, isHeaderChar, HeaderSpelling, and_assoc]

theorem checkEndpoint_eq_ok_iff {role : EndpointRole} {url : Url} :
    checkEndpoint role url = .ok () ↔ servesHttp url = true := by
  unfold checkEndpoint
  split <;> simp_all

theorem checkHeaderName_eq_ok_iff {name : String} :
    checkHeaderName name = .ok () ↔ isHeaderName name = true := by
  unfold checkHeaderName
  split <;> simp_all

theorem checkSignature_eq_ok_iff {signature : SignatureSupport} :
    checkSignature signature = .ok () ↔
      ∀ url contentType, signature = .separate url contentType → servesHttp url = true := by
  cases signature with
  | bundled => simp [checkSignature]
  | separate url contentType => simp [checkSignature, checkEndpoint_eq_ok_iff]

theorem checkProtocol_eq_ok_iff {protocol : FetchProtocol} :
    checkProtocol protocol = .ok () ↔ ∀ gate, protocol.gate? = some gate → gate.Sound := by
  cases protocol with
  | singlePhase => simp [checkProtocol, FetchProtocol.gate?]
  | tokenGated gate =>
    by_cases hzero : gate.ttlSeconds = 0
    · have hrefused : checkProtocol (.tokenGated gate) = .error .nonPositiveTokenTtl := by
        simp only [checkProtocol, if_pos hzero]
        rfl
      have hunsound : ¬ gate.Sound := fun hsound => hsound.lifetime hzero
      simp [hrefused, FetchProtocol.gate?, hunsound]
    · have hchecks : checkProtocol (.tokenGated gate) = .ok () ↔
          checkEndpoint .token gate.tokenUrl = .ok () ∧ checkHeaderName gate.ttlHeader = .ok () ∧
            checkHeaderName gate.tokenHeader = .ok () := by
        rw [← andThen_eq_ok_iff, ← andThen_eq_ok_iff]
        simp only [checkProtocol, if_neg hzero]
      rw [hchecks, checkEndpoint_eq_ok_iff, checkHeaderName_eq_ok_iff, checkHeaderName_eq_ok_iff]
      constructor
      · rintro ⟨hurl, httl, htoken⟩ gate hgate
        cases hgate
        exact ⟨hzero, hurl, httl, htoken⟩
      · intro hsound
        have hgate := hsound gate rfl
        exact ⟨hgate.tokenUrl, hgate.ttlHeader, hgate.tokenHeader⟩

/-! ## All checks -/

/-- The valid descriptors are the sound ones. -/
theorem validate_eq_ok_iff {d : Descriptor} : d.validate = .ok () ↔ d.Sound := by
  unfold validate
  rw [andThen_eq_ok_iff, andThen_eq_ok_iff, andThen_eq_ok_iff, checkEndpoint_eq_ok_iff,
    checkSignature_eq_ok_iff, checkProtocol_eq_ok_iff, forM_eq_ok_iff]
  simp only [checkHeaderName_eq_ok_iff]
  constructor
  · rintro ⟨hmetadata, hsignature, hgate, hheaders⟩
    exact ⟨hmetadata, hsignature, hgate, hheaders⟩
  · intro h
    exact ⟨h.metadata, h.signature, h.gate, h.headers⟩

/-! ## A sound descriptor -/

/-- A URL of the metadata service at the link-local address 169.254.169.254. -/
def linkLocalUrl (path : String) : Url :=
  { scheme := "http", authority := some { host := some (.ipv4 0xA9FEA9FE) }, path }

/-- A token gate at the link-local address. -/
def linkLocalGate : TokenGate where
  tokenUrl := linkLocalUrl "/latest/api/token"
  ttlSeconds := 360
  ttlHeader := "X-token-ttl-seconds"
  tokenHeader := "X-token"
  cachePath := none

/-- A provider with a token gate at the link-local address. -/
def linkLocal : Descriptor where
  id := ⟨"link-local", by decide, by decide, List.all_eq_true.1 rfl⟩
  endpoints := { metadata := linkLocalUrl "/latest/identity" }
  metadataContentType := "text/plain"
  protocol := .tokenGated linkLocalGate
  signature := .bundled

theorem linkLocal_validate : linkLocal.validate = .ok () :=
  rfl

theorem linkLocal_gate? : linkLocal.gate? = some linkLocalGate :=
  rfl

end Descriptor

end InstanceIdentity
