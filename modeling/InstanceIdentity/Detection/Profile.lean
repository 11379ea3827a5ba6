import InstanceIdentity.Detection.Signal

/-!
# Detection profiles

A profile is the whole detection table of one provider.  Its lists are ordered: of strong signals
and hypervisor weights the first match counts, and within one fact a keyword of a higher tier hides
those below it.
-/

namespace InstanceIdentity.Detection

/-- The signals of one provider. -/
structure Profile where
  strongSignals : List StrongSignal := []
  hypervisorWeights : List HypervisorWeight := []
  prefixSignal : Option PrefixSignal := none
  /-- Highest priority first. -/
  keywordTiers : List KeywordTier := []
  deriving DecidableEq, Inhabited

namespace Profile

/-- Appends a strong signal. -/
def strong (profile : Profile) (fact needle : String) (matcher : Matcher) : Profile :=
  { profile with strongSignals := profile.strongSignals ++ [⟨fact, needle, matcher⟩] }

/-- Appends a hypervisor weight. -/
def hypervisor (profile : Profile) (needle : String) (weight : Binary64) : Profile :=
  { profile with hypervisorWeights := profile.hypervisorWeights ++ [⟨needle, weight⟩] }

/-- Sets the signal on the start of a fact. -/
def startingWith (profile : Profile) (fact start : String) (weight : Binary64) : Profile :=
  { profile with prefixSignal := some ⟨fact, start, weight⟩ }

/-- Appends a keyword tier below the existing ones. -/
def keyword (profile : Profile) (keyword : String) (weight : Binary64) : Profile :=
  { profile with keywordTiers := profile.keywordTiers ++ [⟨keyword, weight⟩] }

open Json (Shape Fields)

/-- The layout of a profile, of which every part may be left out. -/
def shape : Shape Profile :=
  (Shape.record "struct DetectionProfile" <|
    .field "strong_signals" (.anywhere []) (.list StrongSignal.shape) <|
    .field "hypervisor_weights" (.anywhere []) (.list HypervisorWeight.shape) <|
    .field "prefix_signal" (.anywhere none) (.optional PrefixSignal.shape) <|
    .field "keyword_tiers" (.anywhere []) (.list KeywordTier.shape) .done).via
    (fun (strong, hypervisor, start, keywords, ()) => ⟨strong, hypervisor, start, keywords⟩)
    (fun p => (p.strongSignals, p.hypervisorWeights, p.prefixSignal, p.keywordTiers, ()))

end Profile

end InstanceIdentity.Detection
