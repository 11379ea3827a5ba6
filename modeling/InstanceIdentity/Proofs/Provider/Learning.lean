import InstanceIdentity.Proofs.Binary64.Sums
import InstanceIdentity.Proofs.Detection.Evaluation
import InstanceIdentity.Proofs.Detection.Layout
import InstanceIdentity.Proofs.Provider.Ranking

/-!
# Learning more facts

A host about which more is known still has every signal that it had, and every weight that counted still
counts.  When weights are finite and not negative, as those of the built-in providers are, a provider
that comes into question does so whatever is learned.

Main results:

- Theorems `Detection.Profile.strongMatch?_mono`, `Detection.Profile.keywordHits_mono`,
  `Detection.Profile.weights_mono`: what more facts leave as it was.
- Theorem `Registry.builtin_modest`: the weights of the built-in providers.
- Theorem `Registry.learning`: no candidate is lost by another fact.
-/

namespace InstanceIdentity

namespace FactSet

variable {facts more : FactSet}

/-- Every fact of the other set is there. -/
def Extends (more facts : FactSet) : Prop :=
  ∀ key fact, facts.get? key = some fact → more.get? key = some fact

theorem extends_insert {key : String} (habsent : facts.get? key = none) (fact : Fact) :
    (facts.insert key fact).Extends facts := by
  intro other old held
  have hapart : other ≠ key := by
    rintro rfl
    rw [habsent] at held
    cases held
  exact (Dictionary.get?_insert facts.facts key other fact).trans ((if_neg hapart).trans held)

theorem Extends.isGuest (hgrown : more.Extends facts) (hguest : facts.isGuest = true) :
    more.isGuest = true :=
  isGuest_iff.2 (hgrown _ _ (isGuest_iff.1 hguest))

end FactSet

namespace Detection

variable {facts more : FactSet}

theorem StrongSignal.matches_mono {signal : StrongSignal} (hgrown : more.Extends facts)
    (hmatched : signal.matches facts = true) : signal.matches more = true := by
  rw [StrongSignal.matches_iff] at hmatched ⊢
  obtain ⟨value, held, haccepted⟩ := hmatched
  exact ⟨value, hgrown _ _ held, haccepted⟩

theorem PrefixSignal.matches_mono {signal : PrefixSignal} (hgrown : more.Extends facts)
    (hmatched : signal.matches facts = true) : signal.matches more = true := by
  rw [PrefixSignal.matches_iff] at hmatched ⊢
  obtain ⟨value, held, hleads⟩ := hmatched
  exact ⟨value, hgrown _ _ held, hleads⟩

namespace Profile

variable {profile : Profile}

theorem strongMatch?_mono (hgrown : more.Extends facts)
    (hmatched : (profile.strongMatch? facts).isSome = true) :
    (profile.strongMatch? more).isSome = true := by
  have hguest : facts.isGuest = true := by
    by_contra hbare
    simp [strongMatch?, hbare] at hmatched
  obtain ⟨signal, hlisted, hfound⟩ := (strongMatch?_isSome hguest).1 hmatched
  exact (strongMatch?_isSome (hgrown.isGuest hguest)).2 ⟨signal, hlisted,
    StrongSignal.matches_mono hgrown hfound⟩

/-- The first hypervisor stays the first: the name of the hypervisor is known already. -/
theorem hypervisorMatch?_mono (hgrown : more.Extends facts) {entry : HypervisorWeight}
    (hfound : profile.hypervisorMatch? facts = some entry) :
    profile.hypervisorMatch? more = some entry := by
  rw [hypervisorMatch?_eq_some_iff] at hfound ⊢
  obtain ⟨name, before, after, hnamed, hfirst⟩ := hfound
  exact ⟨name, before, after, hgrown _ _ hnamed, hfirst⟩

/-- A tier is not hidden by what is learned: only keywords in the same value hide it. -/
theorem Shows.mono (hgrown : more.Extends facts) {i : Fin profile.keywordTiers.length}
    (hshown : profile.Shows facts i) : profile.Shows more i := by
  obtain ⟨key, value, held, hhighest⟩ := hshown
  exact ⟨key, value, hgrown _ _ held, hhighest⟩

theorem keywordHits_mono (hgrown : more.Extends facts) {i : Nat}
    (hit : (profile.keywordHits facts)[i]? = some true) : (profile.keywordHits more)[i]? =
      some true := by
  rw [keywordHits_eq, List.getElem?_map, Option.map_eq_some_iff] at hit ⊢
  obtain ⟨tier, hplaced, hshown⟩ := hit
  exact ⟨tier, hplaced, decide_eq_true ((of_decide_eq_true hshown).mono hgrown)⟩

/-- A weight that counts goes on counting. -/
theorem weights_mono (hgrown : more.Extends facts) : profile.weights facts ⊆ profile.weights more := by
  intro weight hcounted
  rw [mem_weights_iff] at hcounted ⊢
  rcases hcounted with ⟨entry, hfound, hown⟩ | ⟨signal, hset, hmatched, hown⟩ | ⟨i, hshown, hown⟩
  · exact .inl ⟨entry, hypervisorMatch?_mono hgrown hfound, hown⟩
  · exact .inr (.inl ⟨signal, hset, PrefixSignal.matches_mono hgrown hmatched, hown⟩)
  · exact .inr (.inr ⟨i, hshown.mono hgrown, hown⟩)

/-- The weights that count are weights of the profile. -/
theorem weights_subset : profile.weights facts ⊆ profile.allWeights := by
  intro weight hcounted
  rw [allWeights, List.mem_append, List.mem_append, or_assoc]
  rcases mem_weights_iff.1 hcounted with ⟨entry, hfound, rfl⟩ | ⟨signal, hset, -, rfl⟩ | ⟨i, -, rfl⟩
  · obtain ⟨name, before, after, -, hparts, -⟩ := hypervisorMatch?_eq_some_iff.1 hfound
    exact .inl (List.mem_map_of_mem (by simp [hparts]))
  · exact .inr (.inl (List.mem_map_of_mem (Option.mem_toList.2 hset)))
  · exact .inr (.inr (List.mem_map_of_mem (List.getElem_mem i.isLt)))

/-- A likelihood is positive when a positive weight counts. -/
theorem likelihood_pos_iff (hnonneg : ∀ weight ∈ profile.allWeights, Binary64.zero ≤ weight) :
    (profile.likelihood facts).isPositive = true ↔
      facts.isGuest = true ∧ ∃ weight ∈ profile.weights facts, weight.isPositive = true := by
  by_cases hguest : facts.isGuest = true
  · rw [likelihood_eq hguest, Binary64.isPositive_sum fun weight hcounted =>
      Binary64.zero_le_iff.1 (hnonneg weight (weights_subset hcounted))]
    exact (and_iff_right hguest).symm
  · rw [likelihood, if_neg hguest]
    exact iff_of_false (by decide) fun h => hguest h.1

/-- A likelihood that is positive stays so. -/
theorem likelihood_pos_mono (hnonneg : ∀ weight ∈ profile.allWeights, Binary64.zero ≤ weight)
    (hgrown : more.Extends facts) (hpositive : (profile.likelihood facts).isPositive = true) :
    (profile.likelihood more).isPositive = true := by
  rw [likelihood_pos_iff hnonneg] at hpositive ⊢
  obtain ⟨hguest, weight, hcounted, hpositive⟩ := hpositive
  exact ⟨hgrown.isGuest hguest, weight, weights_mono hgrown hcounted, hpositive⟩

end Profile

end Detection

namespace Registry

variable {registry : Registry}

/-- All weights are finite and not negative. -/
def Modest (registry : Registry) : Prop :=
  ∀ d ∈ registry.descriptors, ∀ weight ∈ d.detection.allWeights,
    weight.isFinite = true ∧ Binary64.zero ≤ weight

/-- So are finite weights whose positions are not below that of zero. -/
theorem modest_of_keys (hkeys : ∀ d ∈ registry.descriptors, ∀ weight ∈ d.detection.allWeights,
    weight.isFinite = true ∧ 0 ≤ weight.orderKey) : registry.Modest := by
  intro d held weight hmem
  obtain ⟨hfinite, hkey⟩ := hkeys d held weight hmem
  exact ⟨hfinite, Binary64.zero_le_of_orderKey hfinite hkey⟩

/-! ## The built-in providers -/

theorem detection_of_build {draft : Draft} {d : Descriptor} (hmade : draft.build = .ok d) :
    d.detection = draft.detection := by
  obtain ⟨metadata, signature, -, -, rfl, -⟩ := Draft.build_eq_ok_iff.1 hmade
  rfl

theorem detection_of_assemble {draft : Draft} {steps : List Draft.Step} {d : Descriptor}
    (hmade : Builtin.assemble draft steps = .ok d) : d.detection = (draft.takeAll steps).detection := by
  unfold Builtin.assemble at hmade
  cases hbuilt : (draft.takeAll steps).build with
  | error error =>
    rw [hbuilt] at hmade
    cases hmade
  | ok descriptor =>
    rw [hbuilt] at hmade
    cases hmade
    exact detection_of_build hbuilt

theorem aws_detection {d : Descriptor} (hmade : Builtin.aws = .ok d) :
    d.detection = Builtin.awsProfile := by
  unfold Builtin.aws at hmade
  obtain ⟨tokenUrl, -, hmade⟩ := bind_eq_ok_iff.1 hmade
  obtain ⟨id, -, hmade⟩ := bind_eq_ok_iff.1 hmade
  obtain ⟨metadata, -, hmade⟩ := bind_eq_ok_iff.1 hmade
  obtain ⟨signature, -, hmade⟩ := bind_eq_ok_iff.1 hmade
  exact detection_of_assemble hmade

theorem azure_detection {d : Descriptor} (hmade : Builtin.azure = .ok d) :
    d.detection = Builtin.azureProfile := by
  unfold Builtin.azure at hmade
  obtain ⟨id, -, hmade⟩ := bind_eq_ok_iff.1 hmade
  obtain ⟨metadata, -, hmade⟩ := bind_eq_ok_iff.1 hmade
  obtain ⟨signature, -, hmade⟩ := bind_eq_ok_iff.1 hmade
  exact detection_of_assemble hmade

theorem gcp_detection {d : Descriptor} (hmade : Builtin.gcp = .ok d) :
    d.detection = Builtin.gcpProfile := by
  unfold Builtin.gcp at hmade
  obtain ⟨metadata, -, hmade⟩ := bind_eq_ok_iff.1 hmade
  obtain ⟨id, -, hmade⟩ := bind_eq_ok_iff.1 hmade
  exact detection_of_assemble hmade

/-- The weights of the built-in providers are finite and not negative. -/
theorem builtin_modest (hmade : builtin = .ok registry) : registry.Modest := by
  unfold builtin at hmade
  obtain ⟨aws, hawsMade, hmade⟩ := bind_eq_ok_iff.1 hmade
  obtain ⟨azure, hazureMade, hmade⟩ := bind_eq_ok_iff.1 hmade
  obtain ⟨gcp, hgcpMade, hmade⟩ := bind_eq_ok_iff.1 hmade
  cases hmade
  have hkeys : ∀ profile ∈ [Builtin.awsProfile, Builtin.azureProfile, Builtin.gcpProfile],
      ∀ weight ∈ profile.allWeights, weight.isFinite = true ∧ 0 ≤ weight.orderKey := by decide +kernel
  refine modest_of_keys fun d hlisted => hkeys d.detection ?_
  rw [← aws_detection hawsMade, ← azure_detection hazureMade, ← gcp_detection hgcpMade]
  exact List.mem_map_of_mem (f := Descriptor.detection) hlisted

/-! ## Candidates -/

/-- A provider is listed when one of its descriptors has a strong match or a positive likelihood. -/
theorem mem_rank_iff {facts : FactSet} {id : ProviderId} :
    id ∈ registry.rank facts .combined ↔
      ∃ d ∈ registry.descriptors, d.id = id ∧
        (strong facts d = true ∨ (likelihood facts d).isPositive = true) := by
  simp only [rank_combined, List.mem_map, List.mem_append, mem_others, strongs, List.mem_filter,
    ← Binary64.isPositive_iff]
  refine exists_congr fun d => ?_
  cases strong facts d <;> simp [and_comm, and_left_comm]

/-- No candidate is lost by another fact.  A provider that is named by a strong signal still is, a
keyword tier that was found is found again, and when weights are finite and not negative, as those of
the built-in providers are, every provider that was listed is listed. -/
theorem learning (registry : Registry) {facts : FactSet} {key : String} (habsent : facts.get? key = none)
    (fact : Fact) :
    let more := facts.insert key fact
    (builtin = .ok registry → registry.Modest) ∧
    (∀ d ∈ registry.descriptors, (d.detection.evaluate d.id facts).isOnProvider = true →
      (d.detection.evaluate d.id more).isOnProvider = true) ∧
    (∀ d ∈ registry.descriptors, ∀ i : Nat, (d.detection.keywordHits facts)[i]? = some true →
      (d.detection.keywordHits more)[i]? = some true) ∧
    (registry.Modest → ∀ id ∈ registry.rank facts .combined, id ∈ registry.rank more .combined) := by
  intro more
  have hgrown : more.Extends facts := FactSet.extends_insert habsent fact
  refine ⟨builtin_modest, fun d _ => Detection.Profile.strongMatch?_mono hgrown,
    fun d _ i hit => Detection.Profile.keywordHits_mono hgrown hit, fun hmodest id hlisted => ?_⟩
  rw [mem_rank_iff] at hlisted ⊢
  obtain ⟨d, held, hnamed, hcandidate⟩ := hlisted
  have hnonneg (weight : Binary64) (hmem : weight ∈ d.detection.allWeights) : Binary64.zero ≤ weight :=
    (hmodest d held weight hmem).2
  exact ⟨d, held, hnamed, hcandidate.imp (Detection.Profile.strongMatch?_mono hgrown)
    (Detection.Profile.likelihood_pos_mono hnonneg hgrown)⟩

/-- A provider that is likely for its hypervisor still is when a vendor is learned that names another. -/
theorem learning_vendor :
    let likely := { Descriptor.linkLocal with detection := Builtin.gcpProfile }
    let other := { Descriptor.linkLocal with
      id := ⟨"other", by decide, by decide, List.all_eq_true.1 rfl⟩
      detection := Builtin.azureProfile }
    let registry : Registry := ⟨[likely, other]⟩
    let facts := FactSet.ofList [(guestKey, .flag true), (hypervisorKey, .text "kvm")]
    let more := facts.insert "bios.vendor" (.text "Microsoft")
    facts.get? "bios.vendor" = none ∧ registry.Modest ∧ registry.rank facts .combined = [likely.id] ∧
      likely.id ∈ registry.rank more .combined := by
  intro likely other registry facts more
  have habsent : facts.get? "bios.vendor" = none := rfl
  have hmodest : registry.Modest := modest_of_keys (by decide +kernel)
  have hlisted : registry.rank facts .combined = [likely.id] := by decide +kernel
  obtain ⟨-, -, -, hkept⟩ := learning registry habsent (.text "Microsoft")
  exact ⟨habsent, hmodest, hlisted, hkept hmodest likely.id
    (by rw [hlisted]; exact List.mem_singleton_self _)⟩

end Registry

end InstanceIdentity
