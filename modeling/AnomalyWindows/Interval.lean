import AnomalyWindows.Calendar.Conversion

namespace AnomalyWindows

open Calendar

/-- Two moments of UTC, the first before the second. -/
structure Interval where
  start : Moment
  finish : Moment
  deriving DecidableEq, Repr

namespace Interval

/-- The interval between two moments, naive ones being read as UTC. -/
def ofMoments (start finish : Moment) : Except Fault Interval := do
  let start ← start.asUtc
  let finish ← finish.asUtc
  if start.wall < finish.wall then return ⟨start, finish⟩
  else throw (.emptyInterval start finish)

def span (i : Interval) : Int :=
  i.finish.since i.start

end Interval

/-- A span from its start up to but not including its end. -/
structure Window where
  start : Moment
  finish : Moment
  deriving DecidableEq, Repr

namespace Window

/-- The window between two moments, the first of which has to lie before the second. -/
def ofMoments (start finish : Moment) : Except Fault Window :=
  match start.isBefore? finish with
  | some true => .ok ⟨start, finish⟩
  | some false => .error (.emptyWindow start finish)
  | none => .error .clocksDiffer

def covering (i : Interval) : Window :=
  ⟨i.start, i.finish⟩

def text (w : Window) : String :=
  w.start.iso ++ "/" ++ w.finish.iso

end Window

end AnomalyWindows
