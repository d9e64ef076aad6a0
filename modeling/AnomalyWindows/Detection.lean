import AnomalyWindows.Granularity

namespace AnomalyWindows

/-- The configuration of one pair of a metric and a detector. -/
structure Detection where
  id : Option Int := none
  name : String
  description : String := ""
  metricUrn : String
  detector : String
  movingWindow : Bool := false
  windowDelay : Int := 0
  windowDelayUnit : TimeUnit := .days
  windowSize : Int := 1
  windowUnit : TimeUnit := .days
  /-- How often the detection runs; only datasets finer than an hour use it. -/
  frequency : Granularity := ⟨15, .minutes⟩
  timezone : Option String := none
  bucketPeriod : Option String := none
  cachingPeriodLookback : Option Int := none
  deriving DecidableEq, Repr

/-- The name that a component reference means: one dollar sign at its start does not count. -/
def componentName (reference : String) : String :=
  match reference.toList with
  | '$' :: rest => String.ofList rest
  | _ => reference

def Detection.detectorName (d : Detection) : String :=
  componentName d.detector

structure Metric where
  id : Int
  name : String
  dataset : String
  query : Option String := none
  deriving DecidableEq, Repr

structure Dataset where
  name : String
  granularity : Granularity := .daily
  timezone : String := "UTC"
  deriving DecidableEq, Repr

end AnomalyWindows
