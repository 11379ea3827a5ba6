import InstanceIdentity.Proofs.Detection.Layout
import InstanceIdentity.Provider.Layout

/-!
# Descriptors are read back

A descriptor that is written is read with everything it had, but for the weights of its profile.  The
members may come in any order, others may stand among them, and those that have the value of an absent
one may be left out.

Main results:

- Definition `Descriptor.reread`: what is read; Structure `Descriptor.Form`: from which members.
- Theorem `Descriptor.ofText_form`: a descriptor is read from any of its forms.
-/

namespace InstanceIdentity

open Json.Shape

/-! ## Parts -/

/-- The text of a URL names the URL. -/
def Url.Reparses (url : Url) : Prop := ofText url.text = .ok url

instance Url.instDecidableReparses (url : Url) : Decidable url.Reparses :=
  decidable_of_iff ((ofText url.text).toOption = some url) (by
    unfold Reparses
    cases ofText url.text <;> simp [Except.toOption])

theorem Url.recovers {url : Url} (hreparses : url.Reparses)
    (depth : Nat) : shape.Recovers depth url url :=
  recovers_text (by rw [hreparses]; rfl) depth

theorem Url.aside {url : Url} (hreparses : url.Reparses) (depth : Nat) : shape.Aside depth url url :=
  aside_text (by rw [hreparses]; rfl) depth

theorem CachePolicy.recovers (policy : CachePolicy) (depth : Nat) : shape.Recovers depth policy policy :=
  recovers_choice (by cases policy <;> rfl) depth

theorem Endpoints.recovers {endpoints : Endpoints} (hreparses : endpoints.metadata.Reparses) :
    shape.Recovers 1 endpoints endpoints :=
  recovers_structure (endpoints.metadata, ()) (by decide) ⟨Url.recovers hreparses 0, trivial⟩

theorem recovers_headers (headers : Dictionary String) (depth : Nat) :
    (Json.Shape.dictionary .plainText).Recovers (depth + 1) headers headers := by
  have heach : (Json.Shape.dictionary .plainText).Recovers (depth + 1) headers (headers.map id) :=
    recovers_dictionary fun entry _ => recovers_plainText entry.2 depth
  rwa [Dictionary.map_id] at heach

/-- A path may be missing. -/
theorem aside_path (path : Option String) (depth : Nat) :
    (Json.Shape.optional pathShape).Aside depth path path := by
  cases path with
  | none => exact aside_none pathShape depth
  | some path => exact aside_some (aside_text rfl depth) (by intro habsent; cases habsent)

theorem aside_word (word : UInt32) (depth : Nat) : wordShape.Aside depth word word :=
  aside_via word.toFin (aside_natural (by decide) "u32" word.toFin depth) rfl

theorem FetchProtocol.recovers {protocol : FetchProtocol}
    (hreparses : ∀ gate ∈ protocol.gate?, gate.tokenUrl.Reparses) :
      shape.Recovers 1 protocol protocol := by
  cases protocol with
  | singlePhase =>
    exact recovers_via (.inl ()) (recovers_tagged _ (by decide) (by decide) ⟨.nil, trivial⟩) rfl
  | tokenGated gate =>
    have hfields : TokenGate.fields.Each (fun _ shape => shape.Aside 0) gate.toFields gate.toFields :=
      ⟨Url.aside (hreparses gate rfl) 0, aside_word _ 0, aside_plainText _ 0, aside_plainText _ 0,
        aside_path _ 0, trivial⟩
    exact recovers_via (.inr (.inl gate.toFields))
      (recovers_tagged _ (by decide) (by decide) ⟨by decide, hfields⟩) rfl

theorem SignatureSupport.recovers {signature : SignatureSupport}
    (hreparses : ∀ url contentType, signature = .separate url contentType → url.Reparses) :
    shape.Recovers 1 signature signature := by
  cases signature with
  | separate url contentType =>
    exact recovers_via (.inl (url, contentType, ()))
      (recovers_tagged _ (by decide) (by decide)
        ⟨by decide, Url.aside (hreparses url contentType rfl) 0, aside_plainText _ 0, trivial⟩) rfl
  | bundled =>
    exact recovers_via (.inr (.inl ())) (recovers_tagged _ (by decide) (by decide) ⟨.nil, trivial⟩) rfl

/-! ## Descriptors -/

namespace Descriptor

/-- The fields of a descriptor. -/
def fields :=
  Json.Fields.field "id" .refused ProviderId.shape <|
  .field "detection" (.anywhere {}) Detection.Profile.shape <|
  .field "endpoints" .refused Endpoints.shape <|
  .field "metadata_content_type" .refused .plainText <|
  .field "headers" (.anywhere .empty) (.dictionary .plainText) <|
  .field "protocol" .refused FetchProtocol.shape <|
  .field "document_cache" (.anywhere .notCacheable) CachePolicy.shape <|
  .field "signature" .refused SignatureSupport.shape .done

/-- The values of the fields of a descriptor. -/
def toFields (d : Descriptor) :=
  (d.id, d.detection, d.endpoints, d.metadataContentType, d.headers, d.protocol, d.documentCache,
    d.signature, ())

/-- The members that a descriptor is written with. -/
def members (d : Descriptor) : List (String × Json) := fields.write d.toFields

theorem write_eq (d : Descriptor) : shape.write d = .object d.members := rfl

/-- The URLs of a descriptor. -/
def urls (d : Descriptor) : List Url :=
  d.endpoints.metadata :: (d.gate?.toList.map (·.tokenUrl) ++
    match d.signature with
    | .separate url _ => [url]
    | .bundled => [])

/-- The descriptor with the weights that are read for its weights. -/
def reread (d : Descriptor) : Descriptor := { d with detection := d.detection.reread }

/-- A descriptor is read as it was exactly when its weights are. -/
theorem reread_eq_self_iff {d : Descriptor} :
    d.reread = d ↔ ∀ weight ∈ d.detection.allWeights, weight.reread = weight := by
  rw [← Detection.Profile.reread_eq_self_iff]
  cases d
  simp [reread]

/-- The members of an object that stands for a descriptor: they are among those that it is written with,
in any order and each once, except for such as have other keys; and the keys that are missing have the
values of absent ones. -/
structure Form (d : Descriptor) (members : List (String × Json)) : Prop where
  each : ∀ member ∈ members, member ∈ d.members ∨
    member.1 ∉ d.members.map Prod.fst ∧ ∃ depth, Json.Fits depth member.2
  once : ∀ key ∈ d.members.map Prod.fst, (members.map Prod.fst).count key ≤ 1
  missing : ∀ key ∈ d.members.map Prod.fst, key ∉ members.map Prod.fst →
    key = "detection" ∧ d.detection = {} ∨ key = "headers" ∧ d.headers = .empty ∨
      key = "document_cache" ∧ d.documentCache = .notCacheable

variable {d : Descriptor}

theorem keys_eq (d : Descriptor) : d.members.map Prod.fst = fields.names :=
  Json.Fields.keys_write fields d.toFields

theorem distinct_names : fields.names.Nodup := by decide

/-- What a descriptor is written with is one of its forms. -/
theorem form_members (d : Descriptor) : d.Form d.members where
  each member hmem := .inl hmem
  once key hmem := by
    rw [keys_eq] at hmem
    exact (Json.Fields.stands_write distinct_names d.toFields).once key hmem
  missing key hmem habsent := absurd hmem habsent

/-- The members of a form stand for the fields. -/
theorem Form.stands {members : List (String × Json)} (hform : d.Form members) :
    fields.Stands d.toFields members where
  each member hmem := by
    rw [← keys_eq d]
    exact hform.each member hmem
  once name hmem := hform.once name (by rwa [keys_eq])

/-- What is missing in a form may be missing. -/
theorem Form.completes {members : List (String × Json)} (hform : d.Form members) :
    fields.Completes d.reread.toFields (members.map Prod.fst) := by
  have hpresent (key : String) (hknown : key ∈ fields.names) :=
    Classical.or_iff_not_imp_left.2 (hform.missing key (by rwa [keys_eq]))
  have hrequired (key : String) (hknown : key ∈ fields.names)
      (hapart : key ≠ "detection" ∧ key ≠ "headers" ∧ key ≠ "document_cache") :
      key ∈ members.map Prod.fst := by
    refine (hpresent key hknown).resolve_right ?_
    rintro (⟨hsame, -⟩ | ⟨hsame, -⟩ | ⟨hsame, -⟩)
    · exact hapart.1 hsame
    · exact hapart.2.1 hsame
    · exact hapart.2.2 hsame
  have hdetection := (hpresent "detection" (by decide)).imp_right fun habsent => by
    have hempty : d.detection = {} := by simpa using habsent
    exact (show some ({} : Detection.Profile) = some d.detection.reread by rw [hempty]; rfl)
  have headers := (hpresent "headers" (by decide)).imp_right fun habsent => by
    have hempty : d.headers = .empty := by simpa using habsent
    exact (show some Dictionary.empty = some d.headers by rw [hempty])
  have hcache := (hpresent "document_cache" (by decide)).imp_right fun habsent => by
    have hdefault : d.documentCache = .notCacheable := by simpa using habsent
    exact (show some CachePolicy.notCacheable = some d.documentCache by rw [hdefault])
  exact ⟨.inl (hrequired "id" (by decide) (by decide)), hdetection,
    .inl (hrequired "endpoints" (by decide) (by decide)),
    .inl (hrequired "metadata_content_type" (by decide) (by decide)), headers,
    .inl (hrequired "protocol" (by decide) (by decide)), hcache,
    .inl (hrequired "signature" (by decide) (by decide)), trivial⟩

/-- The fields of a descriptor are read back. -/
theorem each_recovers (hfinite : ∀ weight ∈ d.detection.allWeights, weight.isFinite = true)
    (hreparses : ∀ url ∈ d.urls, url.Reparses) :
    fields.Each (fun _ shape => shape.Recovers 3) d.toFields d.reread.toFields := by
  have hmetadata : d.endpoints.metadata.Reparses := hreparses _ List.mem_cons_self
  have hgate : ∀ gate ∈ d.protocol.gate?, gate.tokenUrl.Reparses := fun gate hmem =>
    hreparses gate.tokenUrl (List.mem_cons_of_mem _ (List.mem_append_left _
      (List.mem_map_of_mem (Option.mem_toList.2 hmem))))
  have hsignature : ∀ url contentType, d.signature = .separate url contentType → url.Reparses := by
    intro url contentType hseparate
    refine hreparses url (List.mem_cons_of_mem _ (List.mem_append_right _ ?_))
    rw [hseparate]
    exact List.mem_singleton_self url
  exact ⟨d.id.recovers 3, Detection.Profile.recovers hfinite,
    (Endpoints.recovers hmetadata).mono (by decide), recovers_plainText _ 3,
      recovers_headers d.headers 2,
    (FetchProtocol.recovers hgate).mono (by decide), d.documentCache.recovers 3,
    (SignatureSupport.recovers hsignature).mono (by decide), trivial⟩

/-- A descriptor is read from any of its forms. -/
theorem ofText_form (hfinite : ∀ weight ∈ d.detection.allWeights, weight.isFinite = true)
    (hreparses : ∀ url ∈ d.urls, url.Reparses) {members : List (String × Json)}
    (hform : d.Form members) :
    shape.ofText (Json.object members).render = .ok d.reread := by
  have hroom : 3 ≤ 126 := by decide
  have hread := Json.Fields.reads_object "struct ProviderDescriptor"
    (fun room => fields.readListed "struct ProviderDescriptor" room 0) distinct_names
    (each_recovers hfinite hreparses) hroom hform.stands hform.completes []
  rw [List.append_nil] at hread
  have hinside : Json.Reader.Reads
      ((Json.Shape.record "struct ProviderDescriptor" fields).read Json.Reader.nesting)
      (Json.object members).render.toList d.reread.toFields [] := by
    rw [Json.Shape.read]
    exact hread
  exact ofText_of_reads (reads_refined _ hinside rfl)

end Descriptor

end InstanceIdentity
