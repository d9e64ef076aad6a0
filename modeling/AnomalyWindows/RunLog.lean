import AnomalyWindows.Fault
import AnomalyWindows.Interval

namespace AnomalyWindows

open Calendar

/-- A window within a run: the detection, the metric, and which one of how many it is. -/
structure WindowRun where
  detection : Option Int
  urn : String
  number : Nat
  total : Nat
  window : Window
  deriving DecidableEq, Repr

inductive LogEntry
  | spedUp (bucket : Period) (span : Int)
  | noMovingWindows (reason : Fault)
  | planned (window : Window)
  | started (run : WindowRun)
  | ended (run : WindowRun) (found : Nat)
  | insufficientData (detection : Option Int) (window : Window)
  | windowFailed (detection : Option Int) (window : Window)
  | dropped (count : Nat) (watermark : Option Moment)
  | noData (metric : Int) (interval : Interval)

namespace LogEntry

def isWarning : LogEntry → Bool
  | insufficientData _ _ | windowFailed _ _ | noData _ _ => true
  | _ => false

def windowText (verb : String) (r : WindowRun) : String :=
  s!"[Detection {idText r.detection}] {verb} detection for metric {r.urn} " ++
    s!"window ({r.number}/{r.total}) - "

/-- The text of an entry. `elapsed` is the time that a window took, in milliseconds. -/
def text (elapsed : String) : LogEntry → String
  | spedUp bucket span =>
    s!"Speeding up detection: bucket {bucket.text} over {durationText span} replaced by " ++
      "daily windows"
  | noMovingWindows reason =>
    "Can't generate moving monitoring windows, calling with single detection window: " ++
      reason.message
  | planned window => s!"Will run detection in window {window.text}"
  | started r =>
    windowText "start" r ++ s!"start {r.window.start.spaced} end {r.window.finish.spaced}"
  | ended r found =>
    windowText "end" r ++ s!"used {elapsed} milliseconds, detected {found} anomalies"
  | insufficientData detection window =>
    s!"[Detection {idText detection}] Insufficient data to run detection for window {window.text}"
  | windowFailed detection window =>
    s!"[Detection {idText detection}] detecting anomalies for window {window.text} failed"
  | dropped count watermark =>
    s!"Dropped {count} anomalies ending after watermark " ++
      (watermark.map Moment.spaced).getD "None"
  | noData metric interval =>
    s!"No data for metric {metric} between {interval.start.spaced} and " ++
      s!"{interval.finish.spaced}, watermark unknown"

def level (e : LogEntry) : String :=
  if e.isWarning then "WARNING" else "INFO"

end LogEntry

end AnomalyWindows
