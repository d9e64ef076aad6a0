import AnomalyWindows.Watermark
import AnomalyWindows.Windows

/-!
Runs of a detection over an interval. A run warms up the data, asks the detector about one window
after another, tolerates windows that fail unless all of the first ones do, and keeps the anomalies
that the watermark confirms.
-/

namespace AnomalyWindows

open Calendar

variable [ZoneDatabase]

/-- A detection with everything that it refers to, ready to run over an interval. -/
structure Run where
  detection : Detection
  interval : Interval
  scheduling : Scheduling
  entity : MetricEntity
  metric : Metric
  dataset : Dataset
  policy : WindowPolicy
  deriving DecidableEq, Repr

/-- A world together with the log of a run, the last entry first. -/
structure Logged (σ : Type) where
  world : σ
  log : List LogEntry := []

namespace Logged

variable {σ α : Type}

def outside (a : Act σ α) : Act (Logged σ) α :=
  a.within Logged.world fun s l => { l with world := s }

def note (e : LogEntry) : Act (Logged σ) Unit :=
  Act.change fun l => { l with log := e :: l.log }

def notes (es : List LogEntry) : Act (Logged σ) Unit :=
  Act.change fun l => { l with log := es.reverse ++ l.log }

end Logged

namespace Run

variable {σ : Type}

def detector (r : Run) : String :=
  r.detection.detectorName

def configured {α : Type} (cause : ConfigurationFault) : Option α → Except Fault α
  | some a => .ok a
  | none => .error (.configuration cause)

def entityOf (d : Detection) : Except Fault MetricEntity :=
  match MetricEntity.ofUrn d.metricUrn with
  | .ok e => .ok e
  | .error fault => .error (.configuration (.unusableUrn d.name fault.message))

/-- The window policy of a detection, where faults in its values count as faults of the
configuration. -/
def policyOf (d : Detection) (dataset : Dataset) (interval : Interval) (s : Scheduling) :
    Except Fault (WindowPolicy × Option WindowPolicy.SpeedUp) :=
  match WindowPolicy.derive d dataset interval s with
  | .ok p => .ok p
  | .error fault =>
    if fault.isUnusableValue then
      .error (.configuration (.unusablePolicy d.name fault.message))
    else .error fault

/-- That a zone is known. A record that cannot be opened is no fault of the configuration. -/
def checkZone (d : Detection) (zone : String) : Except Fault Unit :=
  match zoneNamed zone with
  | .ok _ => .ok ()
  | .error (.unreadableZone name) => .error (.unreadableZone name)
  | .error _ => .error (.configuration (.unknownTimezone d.name zone))

def speedUpEntries (s : Option WindowPolicy.SpeedUp) : List LogEntry :=
  match s with
  | some s => [.spedUp s.bucket s.span]
  | none => []

def prepare (around : Surroundings σ) (d : Detection) (interval : Interval) (s : Scheduling) :
    Act (Logged σ) Run := do
  let entity ← Act.ofResult (entityOf d)
  let metric ← Logged.outside (around.metric entity.id)
  let metric ← Act.ofResult (configured (.metricNotFound d.name entity.id) metric)
  let dataset ← Logged.outside (around.dataset metric.dataset)
  let dataset ← Act.ofResult (configured (.datasetNotFound d.name metric.dataset) dataset)
  if !around.detectors.contains d.detectorName then
    throw (.configuration (.detectorNotRegistered d.name d.detectorName))
  let (policy, replaced) ← Act.ofResult (policyOf d dataset interval s)
  Logged.notes (speedUpEntries replaced)
  Act.ofResult (checkZone d policy.timezone)
  Act.ofResult (checkZone d dataset.timezone)
  return { detection := d, interval, scheduling := s, entity, metric, dataset, policy }

def warmUpSlice (r : Run) : Except Fault Slice := do
  let lookback ← checkedDuration (r.policy.cachingLookback * 1000)
  let wall ← checkedWall (r.interval.start.wall - lookback)
  return ⟨r.entity.id, { r.interval.start with wall }, r.interval.finish, r.entity.filters⟩

/-- Reads the data of the lookback, unless that is switched off. -/
def warmUp (around : Surroundings σ) (r : Run) : Act (Logged σ) Unit := do
  if r.policy.cachingLookback < 0 then return ()
  let slice ← Act.ofResult r.warmUpSlice
  let _ ← Logged.outside (around.series slice)

def plan (r : Run) : WindowPlan :=
  WindowPlan.of r.policy r.interval r.detection.movingWindow

def planEntries : WindowPlan → List LogEntry
  | .moving windows => windows.map .planned
  | .off => []
  | .fallback reason => [.noMovingWindows reason]

/-- What the windows have given so far. -/
structure Progress where
  succeeded : Nat := 0
  lastFault : Option Fault := none
  findings : List Finding := []

def Progress.after (p : Progress) : Except Fault (List Finding) → Progress
  | .ok found => { p with succeeded := p.succeeded + 1, findings := p.findings ++ found }
  | .error fault => { p with lastFault := some fault }

/-- What comes of asking a detector: a fault too if it gives no items. -/
def answered : Except Fault (Option (List Finding)) → Except Fault (List Finding)
  | .ok (some found) => .ok found
  | .ok none => .error .wrongKind
  | .error fault => .error fault

def outcomeEntry (w : WindowRun) : Except Fault (List Finding) → LogEntry
  | .ok found => .ended w found.length
  | .error (.insufficientData _) => .insufficientData w.detection w.window
  | .error _ => .windowFailed w.detection w.window

def tryWindow (around : Surroundings σ) (r : Run) (w : WindowRun) :
    Act (Logged σ) (Except Fault (List Finding)) := do
  Logged.note (.started w)
  let answer ← (Logged.outside (around.detect r.detector w.window r.detection.metricUrn)).attempt
  let result := answered answer
  Logged.note (outcomeEntry w result)
  return result

def givesUp (r : Run) (index : Nat) (p : Progress) : Bool :=
  (index : Int) == r.scheduling.earlyTerminateWindow && p.succeeded == 0

def abort (r : Run) (total : Nat) : Abort where
  limit := r.scheduling.earlyTerminateWindow
  total
  detection := r.detection.id
  urn := r.detection.metricUrn
  start := r.interval.start
  finish := r.interval.finish

def failure (r : Run) : Failure where
  detection := r.detection.id
  detector := r.detector
  start := r.interval.start
  finish := r.interval.finish

/-- Asks the detector about windows in order, the first of which has the given index. -/
def tryWindows (around : Surroundings σ) (r : Run) (total : Nat) :
    Nat → Progress → List Window → Act (Logged σ) Progress
  | _, p, [] => return p
  | index, p, w :: rest => do
    if r.givesUp index p then throw (.aborted (r.abort total) p.lastFault)
    let result ← tryWindow around r ⟨r.detection.id, r.detection.metricUrn, index + 1, total, w⟩
    tryWindows around r total (index + 1) (p.after result) rest

def detectorProperty : String := "detectorComponentName"

def enrich (r : Run) (a : Anomaly) : Anomaly :=
  { a with
    detection := r.detection.id
    urn := some r.detection.metricUrn
    metric := some r.metric.name
    dataset := some r.metric.dataset
    dimensions := r.entity.filters
    properties := Data.put (.text detectorProperty) (.text r.detector) a.properties }

/-- The anomalies that windows have found, with what they tell of the run. Other values than records
cannot tell it. -/
def enriched (r : Run) (findings : List Finding) : Except Fault (List Anomaly) :=
  findings.mapM fun
    | .record a => .ok (r.enrich a)
    | .other => .error .noNamedParts

def isConfirmed (watermark : Option Moment) (a : Anomaly) : Bool :=
  match watermark with
  | some m => a.finish.instant ≤ m.instant
  | none => false

def dropEntries (all kept : List Anomaly) (watermark : Option Moment) : List LogEntry :=
  if kept.length < all.length then [.dropped (all.length - kept.length) watermark] else []

def run (around : Surroundings σ) (r : Run) : Act (Logged σ) Outcome := do
  r.warmUp around
  let plan := r.plan
  Logged.notes (planEntries plan)
  let windows := plan.windows r.interval
  let p ← tryWindows around r windows.length 0 {} windows
  if p.succeeded = 0 ∧ windows ≠ [] then throw (.failed r.failure p.lastFault)
  let anomalies ← Act.ofResult (r.enriched p.findings)
  let (watermark, entries) ← Logged.outside
    (Watermark.resolve around r.interval r.entity.id r.entity.filters (some r.dataset))
  Logged.notes entries
  let confirmed := anomalies.filter (isConfirmed watermark)
  Logged.notes (dropEntries anomalies confirmed watermark)
  return ⟨confirmed, watermark⟩

end Run

end AnomalyWindows
