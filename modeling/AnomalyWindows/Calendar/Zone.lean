import AnomalyWindows.Calendar.Date

/-!
Time zones: the changes of a zone's offset from UTC, and the offset in force at an instant or at a
wall time. A wall time that a change repeats is told apart by a fold, which is false on the first
pass and true on the second. All times here are whole seconds from the start of 1970.
-/

namespace AnomalyWindows.Calendar

/-- A change of offset at an instant. -/
structure Transition where
  instant : Int
  before : Int
  after : Int
  deriving DecidableEq, Repr

namespace Transition

/-- The wall time from which the new offset is read. On the first pass a repeated or skipped span
still belongs to the old offset, on the second pass to the new one. -/
def wallStart (fold : Bool) (t : Transition) : Int :=
  t.instant + if fold then min t.before t.after else max t.before t.after

end Transition

/-- The day of a year on which a yearly change falls, as month, week (5 for the last) and weekday,
and the wall time of the change in seconds of that day. -/
structure YearlyRule where
  month : Int
  week : Int
  weekday : Int
  seconds : Int
  deriving DecidableEq, Repr

namespace YearlyRule

def wall (r : YearlyRule) (year : Int) : Int :=
  let first := Date.toDays ⟨year, r.month, 1⟩
  let day := (r.weekday - Calendar.weekday first) % 7 + (r.week - 1) * 7
  let day := if daysInMonth year r.month ≤ day then day - 7 else day
  (first + day) * 86400 + r.seconds

end YearlyRule

/-- Two offsets that take turns every year. -/
structure Daylight where
  standard : Int
  daylight : Int
  starts : YearlyRule
  ends : YearlyRule
  deriving DecidableEq, Repr

namespace Daylight

def changes (d : Daylight) (year : Int) : List Transition :=
  let on : Transition := ⟨d.starts.wall year - d.standard, d.standard, d.daylight⟩
  let off : Transition := ⟨d.ends.wall year - d.daylight, d.daylight, d.standard⟩
  if on.instant < off.instant then [on, off] else [off, on]

end Daylight

/-- What holds after the last recorded change of a zone. -/
inductive Tail
  | constant
  | yearly (rule : Daylight)
  deriving DecidableEq, Repr

/-- A named time zone: its offset before the first recorded change, the recorded changes in order,
and what holds after them. -/
structure Zone where
  name : String
  initial : Int
  history : List Transition
  tail : Tail
  deriving DecidableEq, Repr

namespace Zone

/-- The changes that lead from an initial offset through a list of instants and new offsets. -/
def chain (before : Int) : List (Int × Int) → List Transition
  | [] => []
  | (instant, after) :: rest => ⟨instant, before, after⟩ :: chain after rest

def yearOf (seconds : Int) : Int :=
  (Date.ofDays (seconds / 86400)).year

/-- The offset before some changes, and these changes: those of the year once every recorded
change lies in the past and a yearly rule follows, else the recorded ones. -/
def changesAround (z : Zone) (start : Transition → Int) (seconds : Int) : Int × List Transition :=
  match z.tail with
  | .constant => (z.initial, z.history)
  | .yearly rule =>
    if z.history.all (fun t => start t < seconds) then
      let changes := rule.changes (yearOf seconds)
      (match changes.head? with | some t => t.before | none => rule.standard, changes)
    else (z.initial, z.history)

/-- The last change in force, when changes count from the time that `start` gives. -/
def lastChange (start : Transition → Int) (seconds : Int) (changes : List Transition) :
    Option Transition :=
  (changes.takeWhile fun t => start t ≤ seconds).getLast?

/-- The offset in force, when changes count from the time that `start` gives. -/
def offsetBy (z : Zone) (start : Transition → Int) (seconds : Int) : Int :=
  let (opening, changes) := z.changesAround start seconds
  match lastChange start seconds changes with
  | some t => t.after
  | none => opening

def offsetAt (z : Zone) (instant : Int) : Int :=
  z.offsetBy Transition.instant instant

/-- Whether the wall time of an instant repeats one from before the last change. -/
def foldAt (z : Zone) (instant : Int) : Bool :=
  match lastChange Transition.instant instant (z.changesAround Transition.instant instant).2 with
  | some t => instant - t.instant < t.before - t.after
  | none => false

def offsetOfWall (z : Zone) (wall : Int) (fold : Bool) : Int :=
  z.offsetBy (Transition.wallStart fold) wall

def utc : Zone := ⟨"UTC", 0, [], .constant⟩

end Zone

/-- Why a record of a zone cannot be had: there is none, it makes no sense, or it cannot be
opened. -/
inductive ZoneFailure
  | missing
  | malformed
  | unreadable
  deriving DecidableEq, Repr

/-- The records of zones, which are found by name. -/
class ZoneDatabase where
  find : String → Except ZoneFailure Zone
  find_utc : find "UTC" = .ok .utc

end AnomalyWindows.Calendar
