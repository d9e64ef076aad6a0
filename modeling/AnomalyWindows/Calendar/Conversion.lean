import AnomalyWindows.Fault
import AnomalyWindows.Text.Split

namespace AnomalyWindows

open Calendar

namespace Calendar

def checkedWall (wall : Int) : Except Fault Int :=
  if firstWall ≤ wall ∧ wall ≤ lastWall then .ok wall else .error .outOfRange

def checkedDuration (duration : Int) : Except Fault Int :=
  if shortestDuration ≤ duration ∧ duration ≤ longestDuration then .ok duration
  else .error .outOfRange

/-- Whether a part of a name leads somewhere else, or nowhere. -/
def isStep (part : List Char) : Bool :=
  part == [] || part == ['.'] || part == ['.', '.']

/-- Whether a name has parts, none of which is empty or leads elsewhere. -/
def isZonePath (name : String) : Bool :=
  (Text.splitAt '/' name.toList).all (fun part => !isStep part) && !name.toList.contains '\x00'

def zoneNamed [ZoneDatabase] (name : String) : Except Fault Zone :=
  if isZonePath name then
    match ZoneDatabase.find name with
    | .ok z => .ok { z with name }
    | .error .missing => .error (.unknownZone name)
    | .error .malformed => .error (.unusableZoneName name)
    | .error .unreadable => .error (.unreadableZone name)
  else .error (.unusableZoneName name)

theorem name_of_zoneNamed [ZoneDatabase] {name : String} {z : Zone}
    (h : zoneNamed name = .ok z) : z.name = name := by
  rw [zoneNamed] at h
  split at h
  · split at h
    · rw [← Except.ok.inj h]
    all_goals cases h
  · cases h

theorem zoneNamed_utc [ZoneDatabase] : zoneNamed "UTC" = .ok .utc := by
  rw [zoneNamed, if_pos (by decide), ZoneDatabase.find_utc]
  rfl

namespace Moment

/-- The instant in UTC, which has to lie in years 1 to 9999 too. A naive moment is read by way of
the day before it on a first pass, and of the day behind it on a second one. -/
def checkedInstant (m : Moment) : Except Fault Int :=
  match m.clock with
  | .naive =>
    if m.wall - day < firstWall ∧ !m.fold then .error (.yearOutOfRange 0)
    else if lastWall < m.wall + day ∧ m.fold then .error (.yearOutOfRange 10000)
    else .ok m.wall
  | _ => checkedWall m.instant

/-- The same instant on another clock. A moment that is on that clock already stays as it is, also
at a wall time that the clock skips. -/
def convert (m : Moment) (target : Clock) : Except Fault Moment :=
  if m.clock.same target then .ok m
  else do
    let instant ← m.checkedInstant
    let moved := onClock target instant
    let _ ← checkedWall moved.wall
    return moved

/-- The same instant in UTC. A naive moment is taken for one of UTC as it stands. -/
def asUtc (m : Moment) : Except Fault Moment :=
  if m.isNaive then .ok { m with clock := .utc } else m.convert .utc

/-- The moment after a passage through UTC, which moves a skipped wall time past the gap. -/
def settled (m : Moment) : Except Fault Moment := do
  let utc ← m.convert .utc
  utc.convert m.clock

end Moment

end Calendar

end AnomalyWindows
