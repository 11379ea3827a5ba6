import InstanceIdentity.Diagnostics.Event
import InstanceIdentity.Provider.Registry

/-!
# Reports of detection

The events that detecting and ranking give rise to.
-/

namespace InstanceIdentity.Registry

open Diagnostics (Event)

/-- The events of judging facts: one for every provider that a strong signal names. -/
def detectEvents (registry : Registry) (facts : FactSet) : List Event :=
  registry.descriptors.filterMap fun d =>
    (d.detection.strongMatch? facts).map fun signal => { note := .strongSignal d.id signal }

/-- The events of a ranking: those of judging, then the result of every provider. -/
def rankEvents (registry : Registry) (facts : FactSet) : List Event :=
  registry.detectEvents facts ++
    (registry.detect facts).map fun result => { note := .evaluated result }

/-- The events of ranking the built-in providers. -/
def candidateEvents (facts : FactSet) : List Event :=
  match builtin with
  | .ok registry => registry.rankEvents facts
  | .error _ => []

end InstanceIdentity.Registry
