import AnomalyWindows.Calendar.Conversion
import AnomalyWindows.Data
import AnomalyWindows.Metric.Urn

namespace AnomalyWindows

open Calendar

/-- An anomaly that a detector reports for one window. The detector gives its bounds, score and
properties; the rest tells of the run that it was found in. -/
structure Anomaly where
  start : Moment
  finish : Moment
  metric : Option String := none
  dataset : Option String := none
  urn : Option String := none
  detection : Option Int := none
  dimensions : Filters := []
  properties : List (Data × Data) := []
  score : Data := .null

namespace Anomaly

/-- An anomaly between two moments, both read in UTC. -/
def between (start finish : Moment) (properties : List (Data × Data)) (score : Data) :
    Except Fault Anomaly := do
  let start ← start.asUtc
  let finish ← finish.asUtc
  return { start, finish, properties, score }

def filtersData (filters : Filters) : Data :=
  .ofFields (filters.map fun (key, values) => (key, .list (values.map .text)))

def toData (a : Anomaly) : Data :=
  .ofFields [
    ("start", .text a.start.iso),
    ("end", .text a.finish.iso),
    ("metric", .ofOption .text a.metric),
    ("collection", .ofOption .text a.dataset),
    ("metric_urn", .ofOption .text a.urn),
    ("detection_config_id", .ofOption .int a.detection),
    ("dimensions", filtersData a.dimensions),
    ("properties", .map a.properties),
    ("score", a.score)]

end Anomaly

/-- An item of what a detector gives: the record of an anomaly, or a value that is none. -/
inductive Finding
  | record (anomaly : Anomaly)
  | other

/-- What a run has found: the anomalies that the data confirm, and the moment from which the next
run goes on. Without a watermark nothing is known about the data, and the next run must not go
on. -/
structure Outcome where
  anomalies : List Anomaly
  watermark : Option Moment

def Outcome.toData (o : Outcome) : Data :=
  .ofFields [
    ("anomalies", .list (o.anomalies.map Anomaly.toData)),
    ("watermark", .ofOption (fun m => .text m.iso) o.watermark)]

end AnomalyWindows
