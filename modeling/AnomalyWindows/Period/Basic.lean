import AnomalyWindows.Calendar.Moment
import AnomalyWindows.Calendar.Iso
import AnomalyWindows.TimeUnit

namespace AnomalyWindows

open Calendar

structure Period where
  weeks : Int
  days : Int
  hours : Int
  minutes : Int
  seconds : Int
  millis : Int
  deriving DecidableEq, Repr

namespace Period

def zero : Period := ⟨0, 0, 0, 0, 0, 0⟩

def of (amount : Int) : TimeUnit → Period
  | .days => { zero with days := amount }
  | .hours => { zero with hours := amount }
  | .minutes => { zero with minutes := amount }
  | .seconds => { zero with seconds := amount }
  | .milliseconds => { zero with millis := amount }

def calendarDays (p : Period) : Int :=
  p.weeks * 7 + p.days

def exact (p : Period) : Int :=
  p.hours * hour + p.minutes * minute + p.seconds * second + p.millis * 1000

def total (p : Period) : Int :=
  p.calendarDays * day + p.exact

/-- Milliseconds as at least three digits, a minus counting as one of them. -/
def millisText (millis : Int) : String :=
  if millis < 0 then "-" ++ padded 2 (-millis).toNat else padded 3 millis.toNat

def part (amount : Int) (suffix : String) : String :=
  if amount = 0 then "" else toString amount ++ suffix

/-- The written form. Fields that are zero are left out, and seconds carry the milliseconds as a
fraction. -/
def text (p : Period) : String :=
  let date := part p.weeks "W" ++ part p.days "D"
  let seconds :=
    if p.millis ≠ 0 then toString p.seconds ++ "." ++ millisText p.millis ++ "S"
    else part p.seconds "S"
  let time := part p.hours "H" ++ part p.minutes "M" ++ seconds
  if date = "" ∧ time = "" then "PT0S"
  else "P" ++ date ++ (if time = "" then "" else "T" ++ time)

end Period

end AnomalyWindows
