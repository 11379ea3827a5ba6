import InstanceIdentity.Proofs.Dictionary
import InstanceIdentity.Proofs.Provider.Validity
import InstanceIdentity.Provider.Draft

/-!
# Drafted descriptors

What comes out of drafting depends on the last step that sets each part.  The rules for descriptors stand
in a fixed order; a descriptor that keeps them all is built as it was drafted, and otherwise the first rule
that is broken is reported.

Main results:

- Theorem `Descriptor.validate_reports`: checking a descriptor reports the first rule that it breaks.
- Theorem `Draft.view_takeAll`: after any steps each part is as the last step that sets it says.
- Theorem `Draft.drafted`: what drafting yields, for any steps.
-/

namespace InstanceIdentity

namespace Descriptor

/-! ## Rules in their order -/

/-- A rule for descriptors, and how it is reported that it is broken. -/
structure Rule where
  Holds : Prop
  error : DescriptorError

section Order

variable {α : Type} {rule : Rule} {rules more : List Rule} {error : DescriptorError}
  {check : Except DescriptorError α}

/-- The first of some rules that does not hold is reported with an error. -/
inductive FirstBroken : List Rule → DescriptorError → Prop where
  | here {rule : Rule} {rules : List Rule} : ¬ rule.Holds → FirstBroken (rule :: rules) rule.error
  | later {rule : Rule} {rules : List Rule} {error : DescriptorError} :
    rule.Holds → FirstBroken rules error → FirstBroken (rule :: rules) error

/-- All rules hold, or one is the first that does not. -/
theorem all_hold_or_firstBroken (rules : List Rule) :
    (∀ rule ∈ rules, rule.Holds) ∨ ∃ error, FirstBroken rules error := by
  induction rules with
  | nil => simp
  | cons rule rules ih =>
    by_cases hholds : rule.Holds
    · rcases ih with hall | ⟨error, hbroken⟩
      · exact .inl (List.forall_mem_cons.2 ⟨hholds, hall⟩)
      · exact .inr ⟨error, .later hholds hbroken⟩
    · exact .inr ⟨rule.error, .here hholds⟩

theorem FirstBroken.of_append (hbroken : FirstBroken (rules ++ more) error) :
    FirstBroken rules error ∨ (∀ rule ∈ rules, rule.Holds) ∧ FirstBroken more error := by
  induction rules with
  | nil => exact .inr ⟨by simp, hbroken⟩
  | cons rule rules ih =>
    cases hbroken with
    | here hfails => exact .inl (.here hfails)
    | later hholds hbroken =>
      rcases ih hbroken with hbroken | ⟨hall, hbroken⟩
      · exact .inl (.later hholds hbroken)
      · exact .inr ⟨List.forall_mem_cons.2 ⟨hholds, hall⟩, hbroken⟩

/-- A check passes when some rules hold, and otherwise reports the first that is broken. -/
structure Reports (check : Except DescriptorError α) (rules : List Rule) : Prop where
  passes : (∀ rule ∈ rules, rule.Holds) → ∃ a, check = .ok a
  refuses : ∀ error, FirstBroken rules error → check = .error error

theorem Reports.exists_ok_iff (h : Reports check rules) :
    (∃ a, check = .ok a) ↔ ∀ rule ∈ rules, rule.Holds := by
  constructor
  · rintro ⟨a, hpassed⟩
    refine (all_hold_or_firstBroken rules).resolve_right ?_
    rintro ⟨error, hbroken⟩
    rw [h.refuses error hbroken] at hpassed
    cases hpassed
  · exact h.passes

theorem Reports.eq_error_iff (h : Reports check rules) : check = .error error ↔
    FirstBroken rules error := by
  constructor
  · intro hrefused
    rcases all_hold_or_firstBroken rules with hall | ⟨other, hbroken⟩
    · obtain ⟨a, hpassed⟩ := h.passes hall
      rw [hpassed] at hrefused
      cases hrefused
    · rw [h.refuses other hbroken] at hrefused
      cases hrefused
      exact hbroken
  · exact h.refuses error

theorem Reports.nothing {a : α} : Reports (.ok a) [] where
  passes _ := ⟨a, rfl⟩
  refuses _ hbroken := by cases hbroken

/-- A check that refuses for a rule says nothing about the rules behind it. -/
theorem Reports.stop (hfails : ¬ rule.Holds) (hreported : rule.error = error) :
    Reports (.error error : Except DescriptorError α) (rule :: rules) where
  passes hall := absurd (hall rule List.mem_cons_self) hfails
  refuses other hbroken := by
    cases hbroken with
    | here _ => rw [hreported]
    | later hholds _ => exact absurd hholds hfails

/-- A check need not look at a rule that holds. -/
theorem Reports.pass (hholds : rule.Holds) (h : Reports check rules) : Reports check
    (rule :: rules) where
  passes hall := h.passes fun other hmem => hall other (List.mem_cons_of_mem _ hmem)
  refuses error hbroken := by
    cases hbroken with
    | here hfails => exact absurd hholds hfails
    | later _ hbroken => exact h.refuses error hbroken

theorem Reports.single {a : α} (hpasses : rule.Holds → check = .ok a)
    (hrefuses : ¬ rule.Holds → check = .error rule.error) : Reports check [rule] := by
  by_cases hholds : rule.Holds
  · rw [hpasses hholds]
    exact .pass hholds .nothing
  · rw [hrefuses hholds]
    exact .stop hholds rfl

theorem Reports.map {β : Type} {f : α → β} (h : Reports check rules) : Reports (check.map f) rules where
  passes hall := by
    obtain ⟨a, hpassed⟩ := h.passes hall
    exact ⟨f a, by rw [hpassed]; rfl⟩
  refuses error hbroken := by
    rw [h.refuses error hbroken]
    rfl

/-- A check after a check reports on the rules of the first and then on those of the second. -/
theorem Reports.andThen {β : Type} {next : Except DescriptorError β} (h : Reports check rules)
    (h' : Reports next more) : Reports (check >>= fun _ => next) (rules ++ more) where
  passes hall := by
    obtain ⟨a, hpassed⟩ := h.passes fun rule hmem => hall rule (List.mem_append_left _ hmem)
    rw [hpassed]
    exact h'.passes fun rule hmem => hall rule (List.mem_append_right _ hmem)
  refuses error hbroken := by
    rcases hbroken.of_append with hbroken | ⟨hall, hbroken⟩
    · rw [h.refuses error hbroken]
      rfl
    · obtain ⟨a, hpassed⟩ := h.passes hall
      rw [hpassed]
      exact h'.refuses error hbroken

/-- A check of every element reports on the rules of each in turn. -/
theorem Reports.forM {check : α → Except DescriptorError Unit} {rule : α → Rule}
    (heach : ∀ x, Reports (check x) [rule x]) (xs : List α) : Reports (xs.forM check) (xs.map rule) := by
  induction xs with
  | nil => exact .nothing
  | cons x xs ih => exact (heach x).andThen ih

end Order

/-! ## The rules for descriptors -/

/-- The rule for an endpoint. -/
def endpointRule (role : EndpointRole) (url : Url) : Rule :=
  ⟨HttpWithHost url, .unsupportedEndpoint role url⟩

/-- The rule for the name of a header. -/
def headerRule (name : String) : Rule := ⟨HeaderSpelling name, .invalidHeaderName name⟩

/-- The rules for a signature. -/
def signatureRules : SignatureSupport → List Rule
  | .separate url _ => [endpointRule .signature url]
  | .bundled => []

/-- The rules for a token gate. -/
def gateRules (gate : TokenGate) : List Rule :=
  [⟨0 < gate.ttlSeconds.toNat, .nonPositiveTokenTtl⟩, endpointRule .token gate.tokenUrl,
    headerRule gate.ttlHeader, headerRule gate.tokenHeader]

/-- The rules for a descriptor, in their order. -/
def rules (d : Descriptor) : List Rule :=
  endpointRule .metadata d.endpoints.metadata :: (signatureRules d.signature ++
    (d.gate?.toList.flatMap gateRules ++ d.headers.keys.map headerRule))

theorem checkEndpoint_reports (role : EndpointRole) (url : Url) :
    Reports (checkEndpoint role url) [endpointRule role url] :=
  .single (fun hholds => if_pos (servesHttp_iff.2 hholds)) fun hfails =>
    if_neg (mt servesHttp_iff.1 hfails)

theorem checkHeaderName_reports (name : String) : Reports (checkHeaderName name) [headerRule name] :=
  .single (fun hholds => if_pos (isHeaderName_iff.2 hholds)) fun hfails =>
    if_neg (mt isHeaderName_iff.1 hfails)

theorem checkSignature_reports (signature : SignatureSupport) :
    Reports (checkSignature signature) (signatureRules signature) := by
  cases signature with
  | separate url contentType => exact checkEndpoint_reports .signature url
  | bundled => exact .nothing

theorem checkProtocol_reports (protocol : FetchProtocol) :
    Reports (checkProtocol protocol) (protocol.gate?.toList.flatMap gateRules) := by
  cases protocol with
  | singlePhase => exact .nothing
  | tokenGated gate =>
    let lifetime : Except DescriptorError Unit :=
      if gate.ttlSeconds = 0 then .error .nonPositiveTokenTtl else .ok ()
    have hsteps : checkProtocol (.tokenGated gate) = (lifetime >>= fun _ =>
        checkEndpoint .token gate.tokenUrl >>= fun _ => checkHeaderName gate.ttlHeader >>= fun _ =>
          checkHeaderName gate.tokenHeader) := by
      simp only [lifetime, checkProtocol]
      split <;> rfl
    have hzero : gate.ttlSeconds = 0 ↔ ¬ 0 < gate.ttlSeconds.toNat := by
      rw [← UInt32.toNat_inj, Nat.pos_iff_ne_zero, not_not]
      rfl
    have hfirst : Reports lifetime [⟨0 < gate.ttlSeconds.toNat, .nonPositiveTokenTtl⟩] :=
      .single (fun hholds => if_neg fun hnone => hzero.1 hnone hholds) fun hfails =>
        if_pos (hzero.2 hfails)
    have hall := hfirst.andThen <| (checkEndpoint_reports .token gate.tokenUrl).andThen <|
      (checkHeaderName_reports gate.ttlHeader).andThen (checkHeaderName_reports gate.tokenHeader)
    rw [hsteps]
    simpa [FetchProtocol.gate?, gateRules] using hall

/-- Checking a descriptor reports the first rule that it breaks. -/
theorem validate_reports (d : Descriptor) : Reports d.validate d.rules :=
  (checkEndpoint_reports .metadata d.endpoints.metadata).andThen <|
    (checkSignature_reports d.signature).andThen <|
      (checkProtocol_reports d.protocol).andThen <| .forM checkHeaderName_reports d.headers.keys

end Descriptor

namespace Draft

open Descriptor (Rule FirstBroken Reports HttpWithHost HeaderSpelling endpointRule headerRule
  signatureRules
  gateRules)

variable {α : Type} {id : ProviderId} {steps : List Step}

/-! ## What a step sets -/

/-- The detection profile. -/
def Step.profile? : Step → Option Detection.Profile
  | .detection profile => some profile
  | _ => none

/-- The metadata endpoint and the type of what it serves. -/
def Step.endpoint? : Step → Option (Url × String)
  | .metadataEndpoint url contentType => some (url, contentType)
  | _ => none

/-- The value of a header with exactly this name. -/
def Step.headerValue? (name : String) : Step → Option String
  | .header other value => if name = other then some value else none
  | _ => none

/-- The token gate. -/
def Step.gate? : Step → Option TokenGate
  | .tokenGate gate => some gate
  | _ => none

/-- The policy for documents. -/
def Step.policy? : Step → Option CachePolicy
  | .documentCache policy => some policy
  | _ => none

/-- The signature, which two kinds of steps set. -/
def Step.signature? : Step → Option SignatureSupport
  | .signatureEndpoint url contentType => some (.separate url contentType)
  | .bundledSignature => some .bundled
  | _ => none

/-- What the last step that sets a part has set. -/
def last? (part : Step → Option α) (steps : List Step) : Option α := steps.reverse.findSome? part

theorem last?_cons {part : Step → Option α} {step : Step} :
    last? part (step :: steps) = (last? part steps).or (part step) := by
  simp [last?, List.findSome?_append]

theorem last?_headerValue?_eq_none_iff {name : String} :
    last? (Step.headerValue? name) steps = none ↔ ∀ value, .header name value ∉ steps := by
  simp only [last?, List.findSome?_eq_none_iff, List.mem_reverse]
  constructor
  · intro hnone value hmem
    simpa [Step.headerValue?] using hnone _ hmem
  · intro habsent step hmem
    cases step with
    | header other value =>
      have hapart : name ≠ other := by
        rintro rfl
        exact habsent value hmem
      simp [Step.headerValue?, hapart]
    | _ => rfl

/-! ## What many steps set -/

/-- After any steps a part is as the last step that sets it says, and as before when there is none. -/
theorem view_takeAll (view : Draft → Option α) {part : Step → Option α}
    (hsets : ∀ draft step, view (take draft step) = (part step).or (view draft)) (draft : Draft) :
    view (draft.takeAll steps) = (last? part steps).or (view draft) := by
  induction steps generalizing draft with
  | nil => rfl
  | cons step steps ih =>
    have hfirst : draft.takeAll (step :: steps) = (draft.take step).takeAll steps := rfl
    rw [hfirst, ih, hsets, last?_cons, Option.or_assoc]

/-- The same for a part that is always set. -/
theorem setting_takeAll (view : Draft → α) {part : Step → Option α}
    (hsets : ∀ draft step, view (take draft step) = (part step).getD (view draft)) (draft : Draft) :
    view (draft.takeAll steps) = (last? part steps).getD (view draft) := by
  have hwhole : some (view (draft.takeAll steps)) = (last? part steps).or (some (view draft)) := by
    apply view_takeAll fun draft => some (view draft)
    intro draft step
    rw [hsets, Option.or_some]
  rw [Option.or_some] at hwhole
  exact Option.some.inj hwhole

theorem id_take (draft : Draft) (step : Step) : (draft.take step).id = draft.id := by
  cases step <;> rfl

theorem detection_take (draft : Draft) (step : Step) :
    (draft.take step).detection = step.profile?.getD draft.detection := by
  cases step <;> rfl

theorem endpoint_take (draft : Draft) (step : Step) :
    (draft.take step).metadata.map (·, (draft.take step).metadataContentType) =
      step.endpoint?.or (draft.metadata.map (·, draft.metadataContentType)) := by
  cases step <;> rfl

theorem headers_take (name : String) (draft : Draft) (step : Step) :
    (draft.take step).headers.get? name = (step.headerValue? name).or (draft.headers.get? name) := by
  cases step with
  | header other value =>
    change (draft.headers.insert other value).get? name = _
    rw [Dictionary.get?_insert, Step.headerValue?]
    split <;> rfl
  | _ => rfl

theorem gate_take (draft : Draft) (step : Step) :
    (draft.take step).protocol.gate? = step.gate?.or draft.protocol.gate? := by
  cases step <;> rfl

theorem documentCache_take (draft : Draft) (step : Step) :
    (draft.take step).documentCache = step.policy?.getD draft.documentCache := by
  cases step <;> rfl

theorem signature_take (draft : Draft) (step : Step) :
    (draft.take step).signature = step.signature?.or draft.signature := by
  cases step <;> rfl

/-- No step changes what is drafted a descriptor of. -/
theorem id_takeAll (draft : Draft) (steps : List Step) : (draft.takeAll steps).id = draft.id := by
  induction steps generalizing draft with
  | nil => rfl
  | cons step steps ih => exact (ih (draft.take step)).trans (id_take draft step)

section Drafted

variable (id : ProviderId) (steps : List Step)

theorem detection_takeAll :
    (takeAll { id } steps).detection = (last? Step.profile? steps).getD {} :=
  setting_takeAll (fun draft => draft.detection) detection_take { id }

theorem documentCache_takeAll :
    (takeAll { id } steps).documentCache = (last? Step.policy? steps).getD .notCacheable :=
  setting_takeAll (fun draft => draft.documentCache) documentCache_take { id }

theorem endpoint_takeAll :
    (takeAll { id } steps).metadata.map (·, (takeAll { id } steps).metadataContentType) =
      last? Step.endpoint? steps := by
  rw [view_takeAll (fun draft => draft.metadata.map (·, draft.metadataContentType)) endpoint_take]
  exact Option.or_none

theorem metadata_takeAll :
    (takeAll { id } steps).metadata = (last? Step.endpoint? steps).map Prod.fst := by
  rw [← endpoint_takeAll id, Option.map_map]
  exact Option.map_id'.symm

theorem headers_takeAll (name : String) :
    (takeAll { id } steps).headers.get? name = last? (Step.headerValue? name) steps := by
  rw [view_takeAll (fun draft => draft.headers.get? name) (headers_take name)]
  exact Option.or_none

theorem gate_takeAll : (takeAll { id } steps).protocol.gate? = last? Step.gate? steps := by
  rw [view_takeAll (fun draft => draft.protocol.gate?) gate_take]
  exact Option.or_none

theorem signature_takeAll : (takeAll { id } steps).signature = last? Step.signature? steps := by
  rw [view_takeAll (fun draft => draft.signature) signature_take]
  exact Option.or_none

/-- A header is there when some step sets it. -/
theorem mem_keys_takeAll (name : String) :
    name ∈ (takeAll { id } steps).headers.keys ↔ ∃ value, .header name value ∈ steps := by
  rw [Dictionary.mem_keys_iff, headers_takeAll, ← Option.ne_none_iff_exists', ne_eq,
    last?_headerValue?_eq_none_iff]
  simp

end Drafted

/-! ## The drafted descriptor -/

/-- Every part of a descriptor is as the last step that sets it says; the parts that no step sets have
their defaults. -/
structure Describes (id : ProviderId) (steps : List Step) (d : Descriptor) : Prop where
  id : d.id = id
  detection : d.detection = (last? Step.profile? steps).getD {}
  endpoint : last? Step.endpoint? steps = some (d.endpoints.metadata, d.metadataContentType)
  headers : ∀ name, d.headers.get? name = last? (Step.headerValue? name) steps
  gate : d.gate? = last? Step.gate? steps
  documentCache : d.documentCache = (last? Step.policy? steps).getD .notCacheable
  signature : last? Step.signature? steps = some d.signature

/-- The steps that a descriptor can be built from. -/
structure Buildable (steps : List Step) : Prop where
  endpoint : ∃ url contentType, last? Step.endpoint? steps = some (url, contentType) ∧ HttpWithHost url
  signature : ∃ signature, last? Step.signature? steps = some signature ∧
    ∀ url contentType, signature = .separate url contentType → HttpWithHost url
  gate : ∀ gate, last? Step.gate? steps = some gate → 0 < gate.ttlSeconds.toNat ∧
    HttpWithHost gate.tokenUrl ∧ HeaderSpelling gate.ttlHeader ∧ HeaderSpelling gate.tokenHeader
  headers : ∀ name value, .header name value ∈ steps → HeaderSpelling name

/-- The rules for what is drafted, in their order: two parts have to be set, and those that are have rules
of their own. -/
def rules (metadata : Option Url) (signature : Option SignatureSupport) (gate : Option TokenGate)
    (names : List String) : List Rule :=
  ⟨metadata ≠ none, .missingMetadataEndpoint⟩ :: ⟨signature ≠ none, .missingSignatureSupport⟩ ::
    (metadata.toList.map (endpointRule .metadata) ++ (signature.toList.flatMap signatureRules ++
      (gate.toList.flatMap gateRules ++ names.map headerRule)))

/-! ## Building -/

/-- A draft with its endpoint and its signature. -/
def finished (draft : Draft) (metadata : Url) (signature : SignatureSupport) : Descriptor where
  id := draft.id
  detection := draft.detection
  endpoints := { metadata }
  metadataContentType := draft.metadataContentType
  headers := draft.headers
  protocol := draft.protocol
  documentCache := draft.documentCache
  signature

variable {draft : Draft} {d : Descriptor}

theorem build_eq {metadata : Url} {signature : SignatureSupport}
    (hendpoint : draft.metadata = some metadata)
    (hdeclared : draft.signature = some signature) :
    draft.build = (draft.finished metadata signature).validate.map
      fun () => draft.finished metadata signature := by
  unfold build
  rw [hendpoint, hdeclared]
  rfl

/-- What is built is the finished draft, and it is valid. -/
theorem build_eq_ok_iff :
    draft.build = .ok d ↔ ∃ metadata signature, draft.metadata = some metadata ∧
      draft.signature = some signature ∧ d = draft.finished metadata signature ∧
        d.validate = .ok () := by
  cases hendpoint : draft.metadata with
  | none => simp [build, hendpoint]
  | some metadata =>
    cases hdeclared : draft.signature with
    | none => simp [build, hendpoint, hdeclared]
    | some signature =>
      rw [build_eq hendpoint hdeclared]
      constructor
      · intro hmade
        cases hchecked : (draft.finished metadata signature).validate with
        | ok done =>
          rw [hchecked] at hmade
          cases hmade
          exact ⟨metadata, signature, rfl, rfl, rfl, hchecked⟩
        | error error =>
          rw [hchecked] at hmade
          cases hmade
      · rintro ⟨_, _, ⟨⟩, ⟨⟩, rfl, hvalid⟩
        rw [hvalid]
        rfl

/-- Building reports the first rule that is broken. -/
theorem build_reports (draft : Draft) :
    Reports draft.build
      (rules draft.metadata draft.signature draft.protocol.gate? draft.headers.keys) := by
  cases hendpoint : draft.metadata with
  | none =>
    have hrefused : draft.build = .error .missingMetadataEndpoint := by simp [build, hendpoint]
    rw [hrefused]
    exact .stop (fun hset => hset rfl) rfl
  | some metadata =>
    cases hdeclared : draft.signature with
    | none =>
      have hrefused : draft.build = .error .missingSignatureSupport := by simp [build, hendpoint,
        hdeclared]
      rw [hrefused]
      exact .pass (Option.some_ne_none metadata) (.stop (fun hset => hset rfl) rfl)
    | some signature =>
      have hparts : (some signature).toList.flatMap signatureRules = signatureRules signature :=
        List.append_nil _
      rw [build_eq hendpoint hdeclared, rules, hparts]
      exact .pass (Option.some_ne_none metadata) <| .pass (Option.some_ne_none signature) <|
        (Descriptor.validate_reports _).map

/-- The rules hold for the steps that a descriptor can be built from. -/
theorem rules_hold_iff {names : List String}
    (hnamed : ∀ name, name ∈ names ↔ ∃ value, .header name value ∈ steps) :
    (∀ rule ∈ rules ((last? Step.endpoint? steps).map Prod.fst) (last? Step.signature? steps)
        (last? Step.gate? steps) names, rule.Holds) ↔ Buildable steps := by
  have hgates : (∀ gate, last? Step.gate? steps = some gate → 0 < gate.ttlSeconds.toNat ∧
      HttpWithHost gate.tokenUrl ∧ HeaderSpelling gate.ttlHeader ∧ HeaderSpelling gate.tokenHeader) ↔
        ∀ rule ∈ (last? Step.gate? steps).toList.flatMap gateRules, rule.Holds := by
    cases last? Step.gate? steps <;> simp [gateRules, endpointRule, headerRule]
  have headers : (∀ name value, Step.header name value ∈ steps → HeaderSpelling name) ↔
      ∀ rule ∈ names.map headerRule, rule.Holds := by
    simp only [List.forall_mem_map, hnamed]
    exact ⟨fun h name ⟨value, hmem⟩ => h name value hmem, fun h name value hmem => h name ⟨value, hmem⟩⟩
  constructor
  · simp only [rules, List.forall_mem_cons, List.forall_mem_append]
    rintro ⟨hset, hdeclared, hendpoint, hsignature, hgate, hothers⟩
    obtain ⟨⟨url, contentType⟩, hfound⟩ := Option.ne_none_iff_exists'.1
      (mt Option.map_eq_none_iff.2 hset)
    obtain ⟨support, hfound'⟩ := Option.ne_none_iff_exists'.1 hdeclared
    rw [hfound] at hendpoint
    rw [hfound'] at hsignature
    constructor
    · exact ⟨url, contentType, hfound, by simpa [endpointRule] using hendpoint⟩
    · refine ⟨support, hfound', ?_⟩
      rintro url contentType rfl
      simpa [signatureRules, endpointRule] using hsignature
    · exact hgates.2 hgate
    · exact headers.2 hothers
  · rintro ⟨⟨url, contentType, hfound, hserved⟩, ⟨support, hfound', hsigned⟩, hgate, hothers⟩
    simp only [rules, List.forall_mem_cons, List.forall_mem_append]
    rw [hfound, hfound']
    refine ⟨by simp, by simp, by simpa [endpointRule] using hserved, ?_, hgates.1 hgate,
      headers.1 hothers⟩
    cases support with
    | separate url contentType => simpa [signatureRules, endpointRule] using hsigned url contentType rfl
    | bundled => simp [signatureRules]

/-- What is built is described by the last steps. -/
theorem describes_of_build (hmade : (takeAll { id } steps).build = .ok d) : Describes id steps d := by
  obtain ⟨metadata, signature, hendpoint, hdeclared, rfl, -⟩ := build_eq_ok_iff.1 hmade
  constructor
  · exact id_takeAll { id } steps
  · exact detection_takeAll id steps
  · rw [← endpoint_takeAll id, hendpoint]
    rfl
  · exact headers_takeAll id steps
  · exact gate_takeAll id steps
  · exact documentCache_takeAll id steps
  · rw [← signature_takeAll id, hdeclared]
    rfl

/-- What drafting yields, for any steps. -/
theorem drafted (id : ProviderId) (steps : List Step) :
    let outcome := (takeAll { id } steps).build
    ((∃ d, outcome = .ok d) ↔ Buildable steps) ∧
    (∀ d, outcome = .ok d → Describes id steps d ∧ d.validate = .ok ()) ∧
    ∃ names : List String, names.Pairwise (· < ·) ∧
      (∀ name, name ∈ names ↔ ∃ value, .header name value ∈ steps) ∧
      ∀ error, outcome = .error error ↔
        FirstBroken (rules ((last? Step.endpoint? steps).map Prod.fst) (last? Step.signature? steps)
          (last? Step.gate? steps) names) error := by
  intro outcome
  have hreports := build_reports (takeAll { id } steps)
  rw [metadata_takeAll, signature_takeAll, gate_takeAll] at hreports
  have hnamed := mem_keys_takeAll id steps
  refine ⟨?built, ?described, (takeAll { id } steps).headers.keys, ?ordered, hnamed, ?refused⟩
  case built =>
    rw [hreports.exists_ok_iff]
    exact rules_hold_iff hnamed
  case described =>
    intro d hmade
    obtain ⟨-, -, -, -, -, hvalid⟩ := build_eq_ok_iff.1 hmade
    exact ⟨describes_of_build hmade, hvalid⟩
  case ordered => exact List.pairwise_map.2 (takeAll { id } steps).headers.sorted
  case refused => exact fun error => hreports.eq_error_iff

/-- Of two faults the one whose rule comes first is reported, and neither counts when later steps set the
parts again. -/
theorem drafted_overruled :
    let socket : Url := { Descriptor.linkLocalUrl "/sign" with scheme := "ws" }
    let early : List Step :=
      [.metadataEndpoint (Descriptor.linkLocalUrl "/doc") "text/plain",
        .tokenGate { Descriptor.linkLocalGate with ttlSeconds := 0 },
          .signatureEndpoint socket "text/plain",
        .header "Metadata" "false"]
    let late : List Step :=
      [.tokenGate Descriptor.linkLocalGate, .header "Metadata" "true", .bundledSignature]
    let id := Descriptor.linkLocal.id
    (takeAll { id } early).build = .error (.unsupportedEndpoint .signature socket) ∧
      Buildable (early ++ late) ∧
      ∃ d, (takeAll { id } (early ++ late)).build = .ok d ∧ d.validate = .ok () ∧
        d.headers.get? "Metadata" = some "true" ∧ d.signature = .bundled := by
  intro socket early late id
  obtain ⟨-, -, names, -, -, hrefused⟩ := drafted id early
  obtain ⟨hbuilt, hdescribed, -⟩ := drafted id (early ++ late)
  have hserved (path : String) : HttpWithHost (Descriptor.linkLocalUrl path) :=
    Descriptor.servesHttp_iff.1 rfl
  have hbuildable : Buildable (early ++ late) := by
    constructor
    · exact ⟨_, _, rfl, hserved "/doc"⟩
    · exact ⟨_, rfl, by nofun⟩
    · rintro _ ⟨⟩
      exact ⟨by decide, hserved _, Descriptor.isHeaderName_iff.1 rfl, Descriptor.isHeaderName_iff.1 rfl⟩
    · intro name value hlisted
      have hown : name = "Metadata" := by
        simp only [early, late, List.cons_append, List.nil_append, List.mem_cons, reduceCtorEq, false_or,
          Step.header.injEq, List.not_mem_nil, or_false] at hlisted
        rcases hlisted with ⟨hown, -⟩ | ⟨hown, -⟩ <;> exact hown
      rw [hown]
      exact Descriptor.isHeaderName_iff.1 rfl
  obtain ⟨d, hmade⟩ := hbuilt.2 hbuildable
  obtain ⟨hparts, hvalid⟩ := hdescribed d hmade
  refine ⟨(hrefused _).2 ?_, hbuildable, d, hmade, hvalid, hparts.headers "Metadata", ?_⟩
  · refine .later (Option.some_ne_none _) <| .later (Option.some_ne_none _) <|
      .later (hserved "/doc") (.here ?_)
    rintro ⟨hscheme | hscheme, -⟩
    · exact absurd hscheme (by decide)
    · exact absurd hscheme (by decide)
  · exact (Option.some.inj hparts.signature).symm

end Draft

end InstanceIdentity
