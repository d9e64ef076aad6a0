import AnomalyWindows.Alignment
import AnomalyWindows.Detection
import AnomalyWindows.Interval
import AnomalyWindows.Period.Reader
import AnomalyWindows.Period.Shift
import AnomalyWindows.Settings

/-!
The window settings of a run: defaults and overrides resolved, and small buckets over long intervals
replaced by daily windows.
-/

namespace AnomalyWindows

open Calendar

structure WindowPolicy where
  timezone : String
  datasetUnit : TimeUnit
  frequency : Granularity
  bucketPeriod : Period
  windowSize : Int := 1
  windowUnit : TimeUnit := .days
  windowDelay : Int := 0
  windowDelayUnit : TimeUnit := .days
  /-- The warm-up lookback in milliseconds; a negative one switches the warm-up off. -/
  cachingLookback : Int := -1
  maxMinuteFrequency : Int := 30
  spedUp : Bool := false
  deriving DecidableEq, Repr

namespace WindowPolicy

def windowSizePeriod (p : WindowPolicy) : Period :=
  Period.of p.windowSize p.windowUnit

def windowDelayPeriod (p : WindowPolicy) : Period :=
  Period.of p.windowDelay p.windowDelayUnit

/-- The policy with windows of one day that step by one day. -/
def withDailyBuckets (p : WindowPolicy) : WindowPolicy :=
  { p with
    bucketPeriod := { Period.zero with days := 1 }
    windowSize := 1
    windowUnit := .days
    spedUp := true }

/-- A bucket replaced by daily windows over an interval. -/
structure SpeedUp where
  bucket : Period
  span : Int
  deriving DecidableEq, Repr

def speedUpApplies (p : WindowPolicy) (interval : Interval) (s : Scheduling) :
    Except Fault Bool := do
  let bucket ← p.bucketPeriod.duration
  return bucket ≤ s.speedUpMaxBucket && s.speedUpMinSpan ≤ interval.span

/-- The policy over an interval, with daily windows where the bucket is small and the interval
long, and the replacement that was made. -/
def speedUp (p : WindowPolicy) (interval : Interval) (s : Scheduling) :
    Except Fault (WindowPolicy × Option SpeedUp) := do
  if ← p.speedUpApplies interval s then
    return (p.withDailyBuckets, some ⟨p.bucketPeriod, interval.span⟩)
  else return (p, none)

def cachingLookbackFor (unit : TimeUnit) (s : Scheduling) : Int :=
  match unit with
  | .days => s.dailyLookback
  | .hours => s.hourlyLookback
  | .minutes => s.minutelyLookback
  | _ => s.otherLookback

/-- The explicit bucket period of a detection; an empty text counts as none. -/
def explicitBucket? (d : Detection) : Option String :=
  d.bucketPeriod.filter (· != "")

def bucketFor (d : Detection) (unit : TimeUnit) (s : Scheduling) : Except Fault Period :=
  match explicitBucket? d with
  | some text => Period.ofText text
  | none => .ok (Alignment.bucket unit d.frequency s.maxMinuteFrequency)

def plain (d : Detection) (dataset : Dataset) (s : Scheduling) : Except Fault WindowPolicy := do
  let unit := dataset.granularity.unit
  let bucket ← bucketFor d unit s
  return {
    timezone := (d.timezone.filter (· != "")).getD dataset.timezone
    datasetUnit := unit
    frequency := d.frequency
    bucketPeriod := bucket
    windowSize := d.windowSize
    windowUnit := d.windowUnit
    windowDelay := d.windowDelay
    windowDelayUnit := d.windowDelayUnit
    cachingLookback := d.cachingPeriodLookback.getD (cachingLookbackFor unit s)
    maxMinuteFrequency := s.maxMinuteFrequency }

/-- The policy of a detection on a dataset over an interval, and the speed-up it took. -/
def derive (d : Detection) (dataset : Dataset) (interval : Interval) (s : Scheduling) :
    Except Fault (WindowPolicy × Option SpeedUp) := do
  let p ← plain d dataset s
  p.speedUp interval s

end WindowPolicy

end AnomalyWindows
