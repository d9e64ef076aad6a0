import AnomalyWindows.Catalog.Store
import AnomalyWindows.Detector.Registry
import AnomalyWindows.Metric.Selector
import AnomalyWindows.Tsdb

namespace AnomalyWindows

structure Equipment where
  store : Store
  tsdb : Tsdb
  detectors : Detector.Registry
  network : Network

namespace Equipment

def onStore {α : Type} (a : Act Store α) : Act Equipment α :=
  a.within Equipment.store fun store e => { e with store }

def query (q : RangeQuery) : Act Equipment (List Series.Sample) :=
  Act.ofFunction fun e =>
    let (result, tsdb, network) := e.tsdb.queryRange q e.network
    (result, { e with tsdb, network })

/-- What the database knows of the metric of a slice, summed up for each instant. -/
def totals (slice : Slice) : Act Equipment (List Series.Total) := do
  let some metric ← onStore (Store.metric? slice.metric)
    | throw (.unknownMetric slice.metric)
  let dataset ← onStore (Store.dataset? metric.dataset)
  let selector ← Act.ofResult (metric.selector slice.filters)
  let step := ((dataset.map Dataset.granularity).getD .hourly).step
  return Series.totals (← query ⟨selector, slice.start, slice.finish, step⟩)

def series (slice : Slice) : Act Equipment (List Point) :=
  return (← totals slice).map Series.Total.toPoint

def detect (name : String) (window : Window) (urn : String) :
    Act Equipment (Option (List Finding)) :=
  Act.ofFunction fun e =>
    match e.detectors.find? name with
    | some detector =>
      let (result, detector, network) := detector.ask window urn e.network
      (result.map fun found => some (found.map .record),
        { e with detectors := e.detectors.put name detector, network })
    | none => (.error (.missingKey name), e)

/-- What a run can ask for, given the names of the detectors. -/
def surroundings (detectors : List String) : Surroundings Equipment where
  metric id := onStore (Store.metric? id)
  dataset name := onStore (Store.dataset? name)
  series
  detectors
  detect

def close : Act Equipment Unit :=
  Act.change fun e =>
    let (detectors, network) := e.detectors.close e.network
    let (tsdb, network) := e.tsdb.close network
    { e with detectors, tsdb, network }

end Equipment

end AnomalyWindows
