import AnomalyWindows.Keyed
import AnomalyWindows.Action
import AnomalyWindows.Validation.Models

namespace AnomalyWindows

structure Catalog where
  datasets : List Dataset := []
  metrics : List Metric := []
  detectors : List Data := []
  detections : List Detection := []

namespace Catalog

def putDataset (d : Dataset) (c : Catalog) : Catalog :=
  { c with datasets := Keyed.put Dataset.name d c.datasets }

def putMetric (m : Metric) (c : Catalog) : Catalog :=
  { c with metrics := Keyed.put Metric.id m c.metrics }

def putDetection (d : Detection) (c : Catalog) : Catalog :=
  { c with detections := Keyed.put Detection.name d c.detections }

def eraseDetection (name : String) (c : Catalog) : Catalog :=
  { c with detections := Keyed.erase Detection.name name c.detections }

def dataset? (name : String) (c : Catalog) : Option Dataset :=
  Keyed.find? Dataset.name name c.datasets

def metric? (id : Int) (c : Catalog) : Option Metric :=
  Keyed.find? Metric.id id c.metrics

def detection? (name : String) (c : Catalog) : Option Detection :=
  Keyed.find? Detection.name name c.detections

def section? (name : String) (data : Record) : Option (List Data) :=
  match Data.named? name data with
  | some value => value.parts?
  | none => some []

def sectionOf (name : String) (data : Record) : Except Fault (List Data) :=
  match section? name data with
  | some entries => .ok entries
  | none => .error .wrongKind

def addEntries {α : Type} (read : Record → Checked α) (put : α → Catalog → Catalog) :
    List Data → Act Catalog Unit
  | [] => return ()
  | entry :: rest => do
    let record ← Act.ofResult (Record.ofEntry entry)
    match read record with
    | .valid a => Act.change (put a)
    | .wrong _ => pure ()
    addEntries read put rest

def addSection {α : Type} (name : String) (read : Record → Checked α)
    (put : α → Catalog → Catalog) (data : Record) : Act Catalog Unit := do
  addEntries read put (← Act.ofResult (sectionOf name data))

def datasetsName : String := "datasets"
def metricsName : String := "metrics"
def detectorsName : String := "detectors"
def detectionsName : String := "detections"

/-- Adds what the sections hold. The entries of detectors replace those that were known. -/
def addSections (data : Record) : Act Catalog Unit := do
  addSection datasetsName (Dataset.ofRecord .modelType) putDataset data
  addSection metricsName Metric.ofRecord putMetric data
  let detectors ← Act.ofResult (sectionOf detectorsName data)
  Act.change fun c => { c with detectors }
  addSection detectionsName (Detection.ofRecord .modelType) putDetection data

/-- Adds what data hold. Data that count as nothing hold nothing. -/
def addData (data : Data) : Act Catalog Unit :=
  if data.isPresent then
    match data with
    | .map r => addSections r
    | _ => throw .noNamedParts
  else addSections []

def toData (c : Catalog) : Data :=
  .ofFields [
    (datasetsName, .list (c.datasets.map Dataset.toData)),
    (metricsName, .list (c.metrics.map fun m => m.toData.withoutNulls)),
    (detectorsName, .list c.detectors),
    (detectionsName, .list (c.detections.map fun d => d.toData.withoutNulls))]

end Catalog

end AnomalyWindows
