import AnomalyWindows.Calendar.Zone

/-!
Moments: a wall time read on a clock. Times are whole microseconds from the start of 1970, on the
wall or in UTC, and durations are whole microseconds too.
-/

namespace AnomalyWindows.Calendar

def second : Int := 1000000
def minute : Int := 60 * second
def hour : Int := 60 * minute
def day : Int := 24 * hour

def firstWall : Int := -62135596800 * second

def lastWall : Int := 253402300800 * second - 1

/-- The shortest and the longest duration: a thousand million days, less one unit, either way. -/
def shortestDuration : Int := -999999999 * day
def longestDuration : Int := 1000000000 * day - 1

/-- What a wall time is read on: nothing, a fixed offset from UTC in microseconds, or a zone. -/
inductive Clock
  | naive
  | fixed (offset : Int)
  | zone (zone : Zone)
  deriving DecidableEq, Repr

namespace Clock

def utc : Clock := .fixed 0

/-- Whether two clocks are the same one. Zones are told apart by name, and a fixed offset of zero
is not the zone of that offset. -/
def same : Clock → Clock → Bool
  | .naive, .naive => true
  | .fixed a, .fixed b => a == b
  | .zone a, .zone b => a.name == b.name
  | _, _ => false

def offsetOfWall (clock : Clock) (wall : Int) (fold : Bool) : Int :=
  match clock with
  | .naive => 0
  | .fixed offset => offset
  | .zone z => z.offsetOfWall (wall / second) fold * second

/-- How far the wall time of an instant is ahead of UTC. -/
def offsetAt (clock : Clock) (instant : Int) : Int :=
  match clock with
  | .naive => 0
  | .fixed offset => offset
  | .zone z => z.offsetAt (instant / second) * second

/-- Whether the wall time of an instant repeats an earlier one. -/
def foldAt (clock : Clock) (instant : Int) : Bool :=
  match clock with
  | .zone z => z.foldAt (instant / second)
  | _ => false

end Clock

/-- A wall time on a clock; `fold` tells the second pass of a repeated wall time. -/
structure Moment where
  wall : Int
  fold : Bool
  clock : Clock
  deriving DecidableEq, Repr

namespace Moment

def ofInstant (instant : Int) : Moment :=
  ⟨instant, false, .utc⟩

/-- How far the wall time is ahead of UTC. -/
def offset (m : Moment) : Int :=
  m.clock.offsetOfWall m.wall m.fold

/-- The instant in UTC. A naive moment is read as on a machine whose own clock is UTC. -/
def instant (m : Moment) : Int :=
  m.wall - m.offset

def isNaive (m : Moment) : Bool :=
  match m.clock with
  | .naive => true
  | _ => false

def onClock (clock : Clock) (instant : Int) : Moment :=
  ⟨instant + clock.offsetAt instant, clock.foldAt instant, clock⟩

/-- Whether one moment lies before another: by wall time on one and the same clock, else by
instant. Nothing if just one of them is naive. -/
def isBefore? (a b : Moment) : Option Bool :=
  if a.isNaive != b.isNaive then none
  else if a.clock.same b.clock then some (a.wall < b.wall)
  else some (a.instant < b.instant)

/-- The time between two moments, by wall time on one and the same clock, else by instant. -/
def since (a b : Moment) : Int :=
  if a.clock.same b.clock then a.wall - b.wall else a.instant - b.instant

end Moment

end AnomalyWindows.Calendar
