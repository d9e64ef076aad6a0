import AnomalyWindows.Calendar.Conversion
import AnomalyWindows.Granularity

namespace AnomalyWindows

open Calendar

variable [ZoneDatabase]

namespace Alignment

/-- The largest minute frequency used for alignment unless a policy says otherwise. -/
def defaultMaxMinutes : Int := 30

/-- Whether windows of a dataset are aligned by the minutes of the run frequency. -/
def usesMinutes (unit : TimeUnit) (frequency : Granularity) (maxMinutes : Int) : Bool :=
  unit.isSubHour && frequency.unit == .minutes && frequency.size ≤ maxMinutes

/-- The step between the ends of consecutive windows: the run frequency where it is used for
alignment, an hour for other datasets finer than that, else one unit of the dataset. -/
def bucket (unit : TimeUnit) (frequency : Granularity) (maxMinutes : Int) : Period :=
  if usesMinutes unit frequency maxMinutes then { Period.zero with minutes := frequency.size }
  else if unit.isSubHour then { Period.zero with hours := 1 }
  else Period.of 1 unit

/-- A wall time without what exceeds the multiples of a step. -/
def floorWall (step : Int) (m : Moment) : Moment :=
  { m with wall := m.wall - m.wall % step }

/-- A moment at the start of its unit on its own clock. The start of a day is moved past a gap that
the clock skips there, and read in UTC if the clock is unknown. -/
def floorTo (unit : TimeUnit) (m : Moment) : Except Fault Moment :=
  match unit with
  | .days => do
    let floored := floorWall day m
    if m.isNaive then floored.convert .utc else floored.settled
  | .hours => .ok (floorWall hour m)
  | .minutes => .ok (floorWall minute m)
  | .seconds => .ok (floorWall second m)
  | .milliseconds => .ok (floorWall 1000 m)

/-- A moment at the last multiple of some minutes within its hour. -/
def floorMinutes (size : Int) (m : Moment) : Except Fault Moment :=
  if size = 0 then .error .zeroStep
  else
    let start := Int.fdiv (m.wall / minute % 60) size * size
    if 0 ≤ start ∧ start < 60 then
      let hourStart := floorWall hour m
      .ok { hourStart with wall := hourStart.wall + start * minute }
    else .error .minuteOutOfHour

/-- A moment rounded down to the bucket boundary of a dataset, on the clock of a zone. -/
def align (zone : String) (unit : TimeUnit) (frequency : Granularity) (maxMinutes : Int)
    (m : Moment) : Except Fault Moment := do
  let zone ← zoneNamed zone
  let onZone ← m.convert (.zone zone)
  if usesMinutes unit frequency maxMinutes then floorMinutes frequency.size onZone
  else if unit.isSubHour then floorTo .hours onZone
  else floorTo unit onZone

end Alignment

end AnomalyWindows
