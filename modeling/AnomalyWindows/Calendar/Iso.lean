import AnomalyWindows.Calendar.Moment

namespace AnomalyWindows.Calendar

/-- A number in decimal, filled up with zeros to a width. -/
def padded (width : Nat) (n : Nat) : String :=
  let digits := toString n
  "".pushn '0' (width - digits.length) ++ digits

/-- Hours and minutes, then seconds and microseconds if asked for. -/
def clockText (t : Int) (withSeconds : Bool) : String :=
  let hours := (t / hour).toNat
  let minutes := (t / minute % 60).toNat
  let seconds := (t / second % 60).toNat
  let micros := (t % second).toNat
  padded 2 hours ++ ":" ++ padded 2 minutes ++
    (if withSeconds then ":" ++ padded 2 seconds else "") ++
    (if micros = 0 then "" else "." ++ padded 6 micros)

/-- An offset as sign, hours and minutes; seconds and microseconds only where they are not zero. -/
def offsetText (offset : Int) : String :=
  let size := if offset < 0 then -offset else offset
  (if offset < 0 then "-" else "+") ++ clockText size (size % minute != 0)

def Date.text (d : Date) : String :=
  padded 4 d.year.toNat ++ "-" ++ padded 2 d.month.toNat ++ "-" ++ padded 2 d.day.toNat

namespace Moment

/-- Date and time with a separator between them, then the offset of a moment that is not naive. -/
def textWith (separator : String) (m : Moment) : String :=
  (Date.ofDays (m.wall / day)).text ++ separator ++ clockText (m.wall % day) true ++
    (if m.isNaive then "" else offsetText m.offset)

def iso (m : Moment) : String := m.textWith "T"

/-- The form with a space between date and time, used in messages. -/
def spaced (m : Moment) : String := m.textWith " "

end Moment

/-- A duration as days and time of day, both counted up from the whole days below it. -/
def durationText (duration : Int) : String :=
  let days := duration / day
  let rest := duration % day
  let time := toString (rest / hour) ++ ":" ++ padded 2 (rest / minute % 60).toNat ++ ":" ++
    padded 2 (rest / second % 60).toNat ++
    (if rest % second = 0 then "" else "." ++ padded 6 (rest % second).toNat)
  if days = 0 then time
  else toString days ++ (if days = 1 ∨ days = -1 then " day, " else " days, ") ++ time

end AnomalyWindows.Calendar
