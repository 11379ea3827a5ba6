import InstanceIdentity.Detection.Profile
import InstanceIdentity.ProviderId

/-!
# Evaluating a profile

A profile answers three questions about a host: whether it is a virtual machine at all, whether a
strong signal names the provider, and how likely the provider is by its weaker signals.  Bare metal
never matches.  Likelihoods are not normalised; they compare providers on one set of facts.
-/

namespace InstanceIdentity.Detection

/-- What a profile says about a host. -/
structure Result where
  provider : ProviderId
  isVirtual : Bool
  isOnProvider : Bool
  likelihood : Binary64
  deriving DecidableEq

namespace Profile

/-- The first strong signal that matches on a guest. -/
def strongMatch? (profile : Profile) (facts : FactSet) : Option StrongSignal :=
  if facts.isGuest then profile.strongSignals.find? (·.matches facts) else none

/-- The first hypervisor weight that matches. -/
def hypervisorMatch? (profile : Profile) (facts : FactSet) : Option HypervisorWeight :=
  (facts.text? hypervisorKey).bind fun name => profile.hypervisorWeights.find? (·.matches name)

/-- Marks the highest tier whose keyword a text contains. -/
def markTier (tiers : List KeywordTier) (hits : List Bool) (value : String) : List Bool :=
  match tiers.findIdx? (·.foundIn (Text.lower value)) with
  | some index => hits.set index true
  | none => hits

/-- For each tier, whether it is the highest one in some text. -/
def keywordHits (profile : Profile) (facts : FactSet) : List Bool :=
  facts.texts.foldl (markTier profile.keywordTiers)
    (List.replicate profile.keywordTiers.length false)

/-- The weights that count, in the order in which they are added. -/
def weights (profile : Profile) (facts : FactSet) : List Binary64 :=
  ((profile.hypervisorMatch? facts).map (·.weight)).toList ++
    ((profile.prefixSignal.filter (·.matches facts)).map (·.weight)).toList ++
    (profile.keywordTiers.zip (profile.keywordHits facts)).filterMap fun (tier, hit) =>
      if hit then some tier.weight else none

/-- The sum of the weights that count; zero for a host that is no guest. -/
def likelihood (profile : Profile) (facts : FactSet) : Binary64 :=
  if facts.isGuest then (profile.weights facts).foldl (· + ·) Binary64.zero else Binary64.zero

/-- All answers of a profile. -/
def evaluate (profile : Profile) (provider : ProviderId) (facts : FactSet) : Result where
  provider := provider
  isVirtual := facts.isGuest
  isOnProvider := (profile.strongMatch? facts).isSome
  likelihood := profile.likelihood facts

end Profile

open Json (Shape Fields)

/-- The layout of a result. -/
def Result.shape : Shape Result :=
  (Shape.record "struct DetectionResult" <|
    .field "provider_id" .refused ProviderId.shape <|
    .field "is_vm" .refused .boolean <|
    .field "is_on_provider" .refused .boolean <|
    .field "likelihood" .refused .float .done).via
    (fun (provider, isVirtual, isOnProvider, likelihood, ()) =>
      ⟨provider, isVirtual, isOnProvider, likelihood⟩)
    (fun r => (r.provider, r.isVirtual, r.isOnProvider, r.likelihood, ()))

end InstanceIdentity.Detection
