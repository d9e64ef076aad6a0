import AnomalyWindows.Period.Shift
import AnomalyWindows.RunLog
import AnomalyWindows.Surroundings

namespace AnomalyWindows

open Calendar

variable [ZoneDatabase]

namespace Watermark

/-- A moment that a series tells; naive ones are moments of UTC. -/
def observed (m : Moment) : Moment :=
  if m.isNaive then { m with clock := .utc } else m

/-- One granularity behind the last point, on the clock of the dataset. -/
def estimate (dataset : Dataset) (last : Moment) : Except Fault Moment := do
  let zone ← zoneNamed dataset.timezone
  let onZone ← (observed last).convert (.zone zone)
  dataset.granularity.toPeriod.addTo onZone

def clamp (interval : Interval) (estimate : Moment) : Moment :=
  if interval.finish.instant < estimate.instant then interval.finish else estimate

/-- The watermark of an interval whose series ends with a point. -/
def ofLast (interval : Interval) (dataset : Dataset) (last : Moment) : Except Fault Moment :=
  (estimate dataset last).map (clamp interval)

/-- The watermark of a run, and what there is to tell about it. Without a dataset the data count
as complete; without a point nothing is known. -/
def resolve {σ : Type} (around : Surroundings σ) (interval : Interval) (metric : Int)
    (filters : Filters) (dataset : Option Dataset) : Act σ (Option Moment × List LogEntry) :=
  match dataset with
  | none => return (some interval.finish, [])
  | some dataset => do
    let points ← around.series ⟨metric, interval.start, interval.finish, filters⟩
    match points.getLast? with
    | none => return (none, [.noData metric interval])
    | some last => return (some (← Act.ofResult (ofLast interval dataset last.time)), [])

end Watermark

end AnomalyWindows
