import InstanceIdentity.Detection.Detector
import InstanceIdentity.Proofs.Json.Recovery

/-!
# Profiles and results are read back

A profile that is written is read with the same signals, whose weights are those that are read for the
written numbers.

Main results:

- Definitions `Detection.Profile.reread`, `Detection.Result.reread`: what is read.
- Theorems `Detection.Profile.recovers`, `Detection.Result.recovers`: it is read.
- Theorem `Detection.Profile.reread_eq_self_iff`: a profile is kept when its weights are.
-/

namespace InstanceIdentity

/-- An identifier is read back. -/
theorem ProviderId.recovers (id : ProviderId) (depth : Nat) : shape.Recovers depth id id :=
  Json.Shape.recovers_refined (Json.Shape.recovers_plainText id.value depth)
    (by rw [ofText_eq_ok_iff.2 rfl]; rfl)

end InstanceIdentity

namespace InstanceIdentity.Detection

open Json.Shape

theorem Matcher.recovers (matcher : Matcher) (depth : Nat) : shape.Recovers depth matcher matcher :=
  recovers_choice (by cases matcher <;> rfl) depth

theorem StrongSignal.recovers (signal : StrongSignal) : shape.Recovers 1 signal signal :=
  recovers_structure (signal.fact, signal.needle, signal.matcher, ()) (by decide)
    ⟨recovers_plainText _ 0, recovers_plainText _ 0, signal.matcher.recovers 0, trivial⟩

/-! ## Weights -/

/-- The entry with the weight that is read for its weight. -/
def HypervisorWeight.reread (entry : HypervisorWeight) : HypervisorWeight :=
  { entry with weight := entry.weight.reread }

/-- The signal with the weight that is read for its weight. -/
def PrefixSignal.reread (signal : PrefixSignal) : PrefixSignal :=
  { signal with weight := signal.weight.reread }

/-- The tier with the weight that is read for its weight. -/
def KeywordTier.reread (tier : KeywordTier) : KeywordTier := { tier with weight := tier.weight.reread }

theorem HypervisorWeight.reread_eq_self_iff {entry : HypervisorWeight} :
    entry.reread = entry ↔ entry.weight.reread = entry.weight := by
  cases entry
  simp [reread]

theorem PrefixSignal.reread_eq_self_iff {signal : PrefixSignal} :
    signal.reread = signal ↔ signal.weight.reread = signal.weight := by
  cases signal
  simp [reread]

theorem KeywordTier.reread_eq_self_iff {tier : KeywordTier} :
    tier.reread = tier ↔ tier.weight.reread = tier.weight := by
  cases tier
  simp [reread]

theorem HypervisorWeight.recovers {entry : HypervisorWeight} (hfinite : entry.weight.isFinite = true) :
    shape.Recovers 1 entry entry.reread :=
  recovers_structure (entry.needle, entry.weight.reread, ()) (by decide)
    ⟨recovers_plainText _ 0, recovers_float hfinite 0, trivial⟩

theorem PrefixSignal.recovers {signal : PrefixSignal} (hfinite : signal.weight.isFinite = true) :
    shape.Recovers 1 signal signal.reread :=
  recovers_structure (signal.fact, signal.start, signal.weight.reread, ()) (by decide)
    ⟨recovers_plainText _ 0, recovers_plainText _ 0, recovers_float hfinite 0, trivial⟩

theorem KeywordTier.recovers {tier : KeywordTier} (hfinite : tier.weight.isFinite = true) :
    shape.Recovers 1 tier tier.reread :=
  recovers_structure (tier.keyword, tier.weight.reread, ()) (by decide)
    ⟨recovers_plainText _ 0, recovers_float hfinite 0, trivial⟩

/-! ## Profiles -/

namespace Profile

/-- The weights of all signals. -/
def allWeights (profile : Profile) : List Binary64 :=
  profile.hypervisorWeights.map (·.weight) ++ profile.prefixSignal.toList.map (·.weight) ++
    profile.keywordTiers.map (·.weight)

/-- The profile with the weights that are read for its weights. -/
def reread (profile : Profile) : Profile where
  strongSignals := profile.strongSignals
  hypervisorWeights := profile.hypervisorWeights.map HypervisorWeight.reread
  prefixSignal := profile.prefixSignal.map PrefixSignal.reread
  keywordTiers := profile.keywordTiers.map KeywordTier.reread

theorem forall_allWeights {profile : Profile} {p : Binary64 → Prop} :
    (∀ weight ∈ profile.allWeights, p weight) ↔
      (∀ entry ∈ profile.hypervisorWeights, p entry.weight) ∧
        (∀ signal ∈ profile.prefixSignal, p signal.weight) ∧
          ∀ tier ∈ profile.keywordTiers, p tier.weight := by
  simp only [allWeights, List.forall_mem_append, List.forall_mem_map, Option.mem_toList, Option.mem_def,
    and_assoc]

/-- A profile whose weights are finite is read back. -/
theorem recovers {profile : Profile} (hfinite : ∀ weight ∈ profile.allWeights, weight.isFinite = true) :
    shape.Recovers 3 profile profile.reread := by
  obtain ⟨hypervisor, hstart, hkeyword⟩ := forall_allWeights.1 hfinite
  have hstrong : (Json.Shape.list StrongSignal.shape).Recovers 2 profile.strongSignals
      profile.strongSignals := by
    have heach := recovers_list (f := id) fun signal (_ : signal ∈ profile.strongSignals) =>
      signal.recovers
    rwa [List.map_id] at heach
  have hoptional : (Json.Shape.optional PrefixSignal.shape).Recovers 2 profile.prefixSignal
      (profile.prefixSignal.map PrefixSignal.reread) := by
    cases hpresent : profile.prefixSignal with
    | none => exact recovers_none _ 2
    | some signal =>
      have hown := PrefixSignal.recovers (hstart signal hpresent)
      exact recovers_some (hown.mono (by decide)) (by intro habsent; cases habsent)
  exact recovers_structure
    (profile.strongSignals, profile.hypervisorWeights.map HypervisorWeight.reread,
      profile.prefixSignal.map PrefixSignal.reread, profile.keywordTiers.map KeywordTier.reread, ())
    (by decide)
    ⟨hstrong, recovers_list fun entry hmem => HypervisorWeight.recovers (hypervisor entry hmem),
      hoptional,
      recovers_list fun tier hmem => KeywordTier.recovers (hkeyword tier hmem), trivial⟩

theorem map_eq_self_iff {α : Type} {f : α → α} {values : List α} :
    values.map f = values ↔ ∀ value ∈ values, f value = value := by
  have hinj := List.map_inj_left (l := values) (f := f) (g := id)
  rwa [List.map_id] at hinj

/-- A profile is read as it was exactly when its weights are. -/
theorem reread_eq_self_iff {profile : Profile} :
    profile.reread = profile ↔ ∀ weight ∈ profile.allWeights, weight.reread = weight := by
  obtain ⟨strong, hypervisor, start, keyword⟩ := profile
  have hsignal : start.map PrefixSignal.reread = start ↔ ∀ signal ∈ start, signal.reread = signal := by
    cases start <;> simp
  rw [forall_allWeights]
  simp only [reread, mk.injEq, true_and, map_eq_self_iff, hsignal, HypervisorWeight.reread_eq_self_iff,
    PrefixSignal.reread_eq_self_iff, KeywordTier.reread_eq_self_iff]

end Profile

/-! ## Results -/

namespace Result

/-- The result with the number that is read for its likelihood. -/
def reread (result : Result) : Result := { result with likelihood := result.likelihood.reread }

/-- A result whose likelihood is finite is read back. -/
theorem recovers {result : Result} (hfinite : result.likelihood.isFinite = true) :
    shape.Recovers 1 result result.reread :=
  recovers_structure
    (result.provider, result.isVirtual, result.isOnProvider, result.likelihood.reread, ()) (by decide)
    ⟨result.provider.recovers 0, recovers_boolean _ 0, recovers_boolean _ 0, recovers_float hfinite 0,
      trivial⟩

end Result

end InstanceIdentity.Detection
