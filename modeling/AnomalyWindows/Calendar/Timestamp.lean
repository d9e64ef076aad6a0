import AnomalyWindows.Fault
import AnomalyWindows.Number.Decimal

namespace AnomalyWindows.Calendar

open Number

/-- Counts of seconds have to fit a signed number of 64 bits. -/
def secondLimit : Float := 9223372036854775808.0

def yearLimit : Int := 2147483648

/-- The microseconds that a count of seconds amounts to; halves go to the even neighbour. -/
def microsOfSeconds (x : Float) : Int :=
  let whole := truncate x
  whole * second + roundEven ((x - ofInt whole) * 1000000.0)

def Moment.ofSeconds (x : Float) : Except Fault Moment :=
  if x.isNaN then .error (.unusableValue "not a number")
  else if x < -secondLimit || secondLimit ≤ x then .error .outOfRange
  else
    let instant := microsOfSeconds x
    let year := (Date.ofDays (instant / day)).year
    if yearLimit ≤ year - 1900 ∨ year - 1900 < -yearLimit then .error .timestampTooFar
    else if firstWall ≤ instant ∧ instant ≤ lastWall then .ok (.ofInstant instant)
    else .error .timestampOutOfRange

end AnomalyWindows.Calendar
