import AnomalyWindows.Action
import AnomalyWindows.Anomaly
import AnomalyWindows.Detection
import AnomalyWindows.Interval

/-!
What a run meets outside of itself: the catalog's metadata, the series of a database, and detectors.
-/

namespace AnomalyWindows

open Calendar

/-- The part of a metric's series that is asked for. -/
structure Slice where
  metric : Int
  start : Moment
  finish : Moment
  filters : Filters
  deriving DecidableEq, Repr

structure Point where
  time : Moment
  value : Float

/-- What a run can ask for, on a world that the answers may change. A detector that is asked about
a window gives items, among which there may be other values than records, or something that has no
items at all. -/
structure Surroundings (σ : Type) where
  metric : Int → Act σ (Option Metric)
  dataset : String → Act σ (Option Dataset)
  series : Slice → Act σ (List Point)
  detectors : List String
  detect : String → Window → String → Act σ (Option (List Finding))

end AnomalyWindows
