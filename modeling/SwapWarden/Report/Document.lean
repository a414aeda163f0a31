import SwapWarden.Report.Health
import SwapWarden.Report.Journal
import SwapWarden.Text.Json.Access

/-!
# Reports as documents

The forms in which health, counters and events are handed over.
-/

namespace SwapWarden

open Text (Json)

namespace HealthRegistry

/-- Writes the status, the reports and the readiness. -/
def toDocument (registry : HealthRegistry) : Json :=
  let readiness := registry.readiness
  .record [("status", .text registry.status.name),
    ("components", .record (registry.sortedReports.map (fun report =>
      (report.1, .array [.text report.2.status.name,
        .optional Json.text report.2.message])))),
    ("ready", .bool readiness.ready),
    ("reason", .optional Json.text readiness.reason)]

end HealthRegistry

namespace Metrics

/-- The samples of a family; of a histogram only the count. -/
def shownSamples (family : MetricFamily) : List MetricSample :=
  family.samples.filter (fun sample =>
    family.kind != .histogram || sample.suffix == "_count")

/-- Writes the counters and gauges. -/
def toDocument (metrics : Metrics) : Json :=
  .record (metrics.families.flatMap (fun family =>
    (shownSamples family).map (fun sample =>
      (family.name ++ sample.suffix,
        Json.text (Text.floatText sample.value)))))

end Metrics

namespace Event

/-- Writes an event on a node. -/
def toDocument (node : String) (event : Event) : Json :=
  .record ((event.fields node).map (fun field =>
    (field.1, Json.text field.2)))

end Event

end SwapWarden
