import AnomalyWindows.WindowPolicy

/-!
Monitoring windows. Their ends are anchors that walk from the aligned start of an interval to its
aligned end in steps of the bucket period; each anchor yields the window that ends the delay before
it and is as long as the window size. Consecutive windows may overlap or leave gaps.
-/

namespace AnomalyWindows

open Calendar

variable [ZoneDatabase]

namespace WindowPolicy

/-- A moment rounded down to the bucket boundary of the policy. -/
def align (p : WindowPolicy) (m : Moment) : Except Fault Moment :=
  Alignment.align p.timezone p.datasetUnit p.frequency p.maxMinuteFrequency m

def walkLimit : Nat :=
  2 * (lastWall - firstWall + 1).toNat

/-- The places reached by steps of a bucket until one is not before the end, latest first, in front
of those reached so far. -/
def walk (bucket : Period) (finish : Moment) : Nat → Moment → List Moment →
    Except Fault (List Moment)
  | 0, _, _ => .error .endlessWalk
  | fuel + 1, place, reached =>
    match place.isBefore? finish with
    | some true =>
      match bucket.addTo place with
      | .ok next => walk bucket finish fuel next (next :: reached)
      | .error fault => .error fault
    | some false => .ok reached
    | none => .error .clocksDiffer

/-- The window ends of an interval before the delay is taken off, in order. The walk steps first
and collects afterwards: the first anchor lies one bucket after the aligned start, and the last one
is the first that is not before the aligned end. -/
def anchors (p : WindowPolicy) (interval : Interval) : Except Fault (List Moment) := do
  let bucket ← p.bucketPeriod.duration
  if bucket ≤ 0 then throw (.bucketDoesNotAdvance p.bucketPeriod)
  let finish ← p.align interval.finish
  let start ← p.align interval.start
  let reached ← walk p.bucketPeriod finish (walkLimit + 1) start []
  return reached.reverse

def windowAt (p : WindowPolicy) (anchor : Moment) : Except Fault Window := do
  let finish ← p.windowDelayPeriod.subtractFrom anchor
  let start ← p.windowSizePeriod.subtractFrom finish
  Window.ofMoments start finish

def movingWindows (p : WindowPolicy) (interval : Interval) : Except Fault (List Window) := do
  let anchors ← p.anchors interval
  anchors.mapM p.windowAt

end WindowPolicy

/-- How an interval is split: into moving windows, or not at all, because moving windows are off
or cannot be had. -/
inductive WindowPlan
  | moving (windows : List Window)
  | off
  | fallback (reason : Fault)

namespace WindowPlan

def of (p : WindowPolicy) (interval : Interval) (moving : Bool) : WindowPlan :=
  if moving then
    match p.movingWindows interval with
    | .ok windows => .moving windows
    | .error reason => .fallback reason
  else .off

def windows (interval : Interval) : WindowPlan → List Window
  | .moving windows => windows
  | .off | .fallback _ => [Window.covering interval]

end WindowPlan

/-- The monitoring windows of an interval. Without moving windows, or when these cannot be had, the
whole interval is the only one. -/
def monitoringWindows (p : WindowPolicy) (interval : Interval) (moving : Bool) : List Window :=
  (WindowPlan.of p interval moving).windows interval

end AnomalyWindows
