import AnomalyWindows.Calendar.Conversion

/-!
Moments moved by periods: first by the calendar days on the wall clock, then by the exact part in
real time.
-/

namespace AnomalyWindows

open Calendar

namespace Period

def duration (p : Period) : Except Fault Int :=
  checkedDuration p.total

/-- A moment moved by whole days on its wall clock, to the first pass of the wall time it reaches;
if the clock skips that wall time, past the gap. -/
def moveDays (days sign : Int) (m : Moment) : Except Fault Moment := do
  let step ← checkedDuration (days * day)
  let step ← checkedDuration (sign * step)
  let wall ← checkedWall (m.wall + step)
  let moved : Moment := ⟨wall, false, m.clock⟩
  if m.isNaive then return moved else moved.settled

def moveExact (step sign : Int) (m : Moment) : Except Fault Moment := do
  let step ← checkedDuration (sign * step)
  if m.isNaive then
    let wall ← checkedWall (m.wall + step)
    return ⟨wall, false, .naive⟩
  else
    let utc ← m.convert .utc
    let wall ← checkedWall (utc.wall + step)
    (⟨wall, false, .utc⟩ : Moment).convert m.clock

/-- A moment moved by the period, forward for sign 1 and backward for sign -1. -/
def shift (p : Period) (sign : Int) (m : Moment) : Except Fault Moment := do
  let m ← if p.calendarDays = 0 then pure m else moveDays p.calendarDays sign m
  let step ← checkedDuration p.exact
  if step = 0 then return m else moveExact step sign m

def addTo (p : Period) (m : Moment) : Except Fault Moment :=
  p.shift 1 m

def subtractFrom (p : Period) (m : Moment) : Except Fault Moment :=
  p.shift (-1) m

end Period

end AnomalyWindows
