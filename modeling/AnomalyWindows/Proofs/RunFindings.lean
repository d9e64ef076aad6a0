import AnomalyWindows.Calendar.ZoneTable
import AnomalyWindows.Proofs.RunVerdict
import Mathlib.Data.List.Forall2

namespace AnomalyWindows.Proofs.RunFindings

open Calendar
open AnomalyWindows.Run
open AnomalyWindows.Proofs.WindowAnswers
open AnomalyWindows.Proofs.RunVerdict

variable {σ : Type}

def entriesBeside (name : String) (entries : List (Data × Data)) : List (Data × Data) :=
  entries.filter fun entry => !entry.1.isKey (.text name)

theorem entriesBeside_put (name : String) (value : Data) (entries : List (Data × Data)) :
    entriesBeside name (Data.put (.text name) value entries) = entriesBeside name entries := by
  induction entries with
  | nil => simp [entriesBeside, Data.put, Data.isKey]
  | cons entry rest ih =>
      obtain ⟨k, v⟩ := entry
      unfold entriesBeside at ih ⊢
      by_cases hkey : k.isKey (.text name)
      · simp [Data.put, hkey]
      · simp [Data.put, hkey, ih]

/-- A returned anomaly is what the detector reported, but for what it tells of the run. -/
structure ReportedIn (r : Run) (reported returned : Anomaly) : Prop where
  start : returned.start = reported.start
  finish : returned.finish = reported.finish
  score : returned.score = reported.score
  properties : entriesBeside detectorProperty returned.properties =
    entriesBeside detectorProperty reported.properties
  detector : Data.named? detectorProperty returned.properties = some (.text r.detector)
  detection : returned.detection = r.detection.id
  urn : returned.urn = some r.detection.metricUrn
  metric : returned.metric = some r.metric.name
  dataset : returned.dataset = some r.metric.dataset
  dimensions : returned.dimensions = r.entity.filters

theorem reportedIn_enrich (r : Run) (a : Anomaly) : ReportedIn r a (r.enrich a) where
  start := rfl
  finish := rfl
  score := rfl
  properties := entriesBeside_put detectorProperty _ a.properties
  detector := Data.named?_put_self detectorProperty _ a.properties
  detection := rfl
  urn := rfl
  metric := rfl
  dataset := rfl
  dimensions := rfl

/-- Whether an anomaly ends no later than a watermark, as instants; none does if the watermark is
unknown. -/
def endsBy (watermark : Option Moment) (a : Anomaly) : Bool :=
  watermark.any fun m => a.finish.instant ≤ m.instant

theorem isConfirmed_enrich (r : Run) (watermark : Option Moment) (a : Anomaly) :
    isConfirmed watermark (r.enrich a) = endsBy watermark a := by
  cases watermark with
  | none => rfl
  | some m => rfl

theorem forall₂_outcomeAt (r : Run) (anomalies : List Anomaly) (watermark : Option Moment) :
    List.Forall₂ (ReportedIn r) (anomalies.filter (endsBy watermark))
      (outcomeAt r anomalies watermark).anomalies := by
  have hfilter : isConfirmed watermark ∘ r.enrich = endsBy watermark :=
    funext (isConfirmed_enrich r watermark)
  rw [outcomeAt, List.filter_map, hfilter, List.forall₂_map_right_iff, List.forall₂_same]
  intro a _
  exact reportedIn_enrich r a

/-- What the windows of a run that returns have found are records, and the anomalies that it returns
are those, in order and each as often as it was found, up to the watermark that the series gives. -/
theorem run_returns_found_by_watermark [ZoneDatabase] (around : Surroundings σ) (r : Run)
    (l l' : Logged σ) (outcome : Outcome)
    (hrun : (r.run around).apply l = (.ok outcome, l')) :
    ∃ l₁, ∃ records : List Anomaly, (r.warmUp around).apply l = (.ok (), l₁) ∧
      found (answers around r (windowsOf r) l₁.world) = records.map .record ∧
      ((around.series (watermarkSlice r)).apply
        (worldBehind around r (windowsOf r) l₁.world)).1.bind (watermarkOf r) =
          .ok outcome.watermark ∧
      List.Forall₂ (ReportedIn r) (records.filter (endsBy outcome.watermark))
        outcome.anomalies := by
  obtain ⟨l₁, records, watermark, hwarm, hfound, hread, rfl⟩ :=
    exists_of_run_ok around r l l' outcome hrun
  exact ⟨l₁, records, hwarm, hfound, hread, forall₂_outcomeAt r _ watermark⟩

/-- An anomaly between two hours, found by a detector that names another one. -/
def spike (start finish : Int) : Anomaly where
  start := .ofInstant (start * hour)
  finish := .ofInstant (finish * hour)
  properties := [(.text "peak", .int finish), (.text detectorProperty, .text "other")]

def spikesAroundFailure : List (Except Fault (Option (List Finding))) :=
  [.ok (some [.record (spike 0 1), .record (spike 0 3)]), .error (.runtime "down"),
    .ok (some [.record (spike 1 2)])]

open scoped ZoneTable

/-- The last point lies at one hour, so that the watermark lies at two. -/
theorem threeHours_returns :
    let around := scripted [⟨.ofInstant 0, 5⟩, ⟨.ofInstant hour, 7⟩]
    let start : Logged _ := ⟨spikesAroundFailure, []⟩
    let outcome : Outcome := ⟨[threeHours.enrich (spike 0 1), threeHours.enrich (spike 1 2)],
      some ⟨2 * hour, false, .zone Zone.utc⟩⟩
    (threeHours.run around).apply start =
      (.ok outcome, ((threeHours.run around).apply start).2) ∧
    ∃ l₁, ∃ records : List Anomaly, (threeHours.warmUp around).apply start = (.ok (), l₁) ∧
      found (answers around threeHours (windowsOf threeHours) l₁.world) = records.map .record ∧
      ((around.series (watermarkSlice threeHours)).apply
        (worldBehind around threeHours (windowsOf threeHours) l₁.world)).1.bind
          (watermarkOf threeHours) = .ok outcome.watermark ∧
      List.Forall₂ (ReportedIn threeHours) (records.filter (endsBy outcome.watermark))
        outcome.anomalies := by
  intro around start outcome
  have hrun : (threeHours.run around).apply start =
      (.ok outcome, ((threeHours.run around).apply start).2) := rfl
  exact ⟨hrun, run_returns_found_by_watermark around threeHours start _ outcome hrun⟩

end AnomalyWindows.Proofs.RunFindings
