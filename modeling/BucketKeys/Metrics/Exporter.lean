import BucketKeys.Metrics.Exposition

/-!
Metrics are counted from the start, and shown once they are registered; they can be registered
only once.
-/

namespace BucketKeys.Metrics

structure Exporter where
  registered : Bool
  metrics : Metrics

namespace Exporter

def fresh : Exporter := ⟨false, .zero⟩

def register? (exporter : Exporter) : Option Exporter :=
  if exporter.registered then none else some { exporter with registered := true }

def refusal : String := "Duplicate metrics collector registration attempted"

def count (event : Event) (exporter : Exporter) : Exporter :=
  { exporter with metrics := exporter.metrics.record event }

def text (exporter : Exporter) : String :=
  if exporter.registered then exporter.metrics.text else ""

end Exporter

end BucketKeys.Metrics
