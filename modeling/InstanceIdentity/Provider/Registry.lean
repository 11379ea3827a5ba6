import InstanceIdentity.Detection.Detector
import InstanceIdentity.Provider.Builtin

/-!
# Registries and rankings

A registry holds valid descriptors in the order in which their providers were first registered.  All
of them judge the same facts, and the providers that come into question are ranked: those named by a
strong signal in the order of registration, then the others by falling likelihood.
-/

namespace InstanceIdentity

/-- What a ranking does with weaker candidates. -/
inductive RankingMode where
  /-- Strong matches first, then the providers with a positive likelihood. -/
  | combined
  /-- Strong matches alone when there are any. -/
  | strongPreferred
  deriving DecidableEq, Inhabited

/-- The name of a ranking mode. -/
def RankingMode.name : RankingMode → String
  | .combined => "combined"
  | .strongPreferred => "strong_preferred"

/-- A ranking mode is written by its name. -/
def RankingMode.shape : Json.Shape RankingMode :=
  .choice [("combined", .combined), ("strong_preferred", .strongPreferred)] name

namespace Detection

/-- Results with a positive likelihood and without a strong signal, by falling likelihood; equal ones
keep their order. -/
def weakCandidates (results : List Result) : List Result :=
  (results.filter fun r => !r.isOnProvider && r.likelihood.isPositive).mergeSort
    fun a b => decide (b.likelihood.orderKey ≤ a.likelihood.orderKey)

/-- Ranks results. -/
def rankResults (results : List Result) (mode : RankingMode) : List ProviderId :=
  let strong := results.filter (·.isOnProvider)
  match mode, strong with
  | .strongPreferred, _ :: _ => strong.map (·.provider)
  | _, _ => (strong ++ weakCandidates results).map (·.provider)

end Detection

/-- An ordered set of descriptors. -/
structure Registry where
  descriptors : List Descriptor := []
  deriving DecidableEq

namespace Registry

/-- Puts a descriptor in the place of the one with the same id, or at the end. -/
def place (d : Descriptor) : List Descriptor → List Descriptor
  | [] => [d]
  | e :: rest => if e.id = d.id then d :: rest else e :: place d rest

/-- Adds a valid descriptor, or replaces the one with the same id. -/
def register (registry : Registry) (d : Descriptor) : Except DescriptorError Registry :=
  d.validate.map fun () => ⟨place d registry.descriptors⟩

/-- A registry of the given descriptors; the first one that is not valid is reported. -/
def ofDescriptors (descriptors : List Descriptor) : Except DescriptorError Registry :=
  descriptors.foldlM register {}

/-- The registry of the built-in providers. -/
def builtin : Except ConfigError Registry := do
  return ⟨[← Builtin.aws, ← Builtin.azure, ← Builtin.gcp]⟩

/-- The descriptor of a provider. -/
def get? (registry : Registry) (id : String) : Option Descriptor :=
  registry.descriptors.find? (·.id.value = id)

/-- The registered providers. -/
def ids (registry : Registry) : List ProviderId := registry.descriptors.map (·.id)

/-- What every provider's profile says about a host. -/
def detect (registry : Registry) (facts : FactSet) : List Detection.Result :=
  registry.descriptors.map fun d => d.detection.evaluate d.id facts

/-- The providers that come into question, most likely first. -/
def rank (registry : Registry) (facts : FactSet) (mode : RankingMode) : List ProviderId :=
  Detection.rankResults (registry.detect facts) mode

/-- The built-in providers that come into question, most likely first. -/
def candidates (facts : FactSet) : List ProviderId :=
  match builtin with
  | .ok registry => registry.rank facts .combined
  | .error _ => []

end Registry

end InstanceIdentity
