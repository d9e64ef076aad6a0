import AnomalyWindows.Fault
import AnomalyWindows.Text.Integer
import AnomalyWindows.Text.Letter

namespace AnomalyWindows

open Text

namespace Period

/-- The digits of the number that stands before a letter, if the text starts with such a pair. -/
def takeAmount (letter : Char) (cs : List Char) : Option (List Nat) × List Char :=
  match takeDigits digit? cs with
  | (d :: ds, c :: rest) => if c = letter then (some (d :: ds), rest) else (none, cs)
  | _ => (none, cs)

/-- Whole and fractional digits of the seconds, if the text starts with them. A fraction has one to
three digits. -/
def takeSeconds (cs : List Char) : Option (List Nat × List Nat) × List Char :=
  match takeDigits digit? cs with
  | (d :: ds, 'S' :: rest) => (some (d :: ds, []), rest)
  | (d :: ds, '.' :: rest) =>
    match takeDigits digit? rest with
    | (f :: fs, 'S' :: rest') =>
      if fs.length ≤ 2 then (some (d :: ds, f :: fs), rest') else (none, cs)
    | _ => (none, cs)
  | _ => (none, cs)

/-- The digits of each field of a period, nothing for a field that is not written. -/
structure Digits where
  weeks : Option (List Nat)
  days : Option (List Nat)
  hours : Option (List Nat)
  minutes : Option (List Nat)
  seconds : Option (List Nat × List Nat)
  deriving Repr

/-- The digits of a period text in upper case. At least one field has to be written, and at least
one after a T. -/
def digitsOf? (cs : List Char) : Option Digits :=
  match cs with
  | 'P' :: cs =>
    let (weeks, cs) := takeAmount 'W' cs
    let (days, cs) := takeAmount 'D' cs
    match cs with
    | [] => if weeks.isSome || days.isSome then some ⟨weeks, days, none, none, none⟩ else none
    | 'T' :: cs =>
      let (hours, cs) := takeAmount 'H' cs
      let (minutes, cs) := takeAmount 'M' cs
      let (seconds, cs) := takeSeconds cs
      if cs = [] ∧ (hours.isSome || minutes.isSome || seconds.isSome) then
        some ⟨weeks, days, hours, minutes, seconds⟩
      else none
    | _ => none
  | _ => none

/-- The number that digits write, if there are not too many of them. -/
def amountOf (digits : List Nat) : Except Fault Int :=
  if digits.length ≤ maxDigits then .ok (ofDigits digits) else .error (.tooManyDigits digits.length)

def fieldOf (digits : Option (List Nat)) : Except Fault Int :=
  match digits with
  | some ds => amountOf ds
  | none => .ok 0

def millisOf : List Nat → Int
  | [a] => 100 * a
  | [a, b] => 100 * a + 10 * b
  | [a, b, c] => 100 * a + 10 * b + c
  | _ => 0

def ofDigits (d : Digits) : Except Fault Period := do
  let weeks ← fieldOf d.weeks
  let days ← fieldOf d.days
  let hours ← fieldOf d.hours
  let minutes ← fieldOf d.minutes
  let seconds ← fieldOf (d.seconds.map (·.1))
  return ⟨weeks, days, hours, minutes, seconds, millisOf ((d.seconds.map (·.2)).getD [])⟩

/-- Reads a period. Blanks around it and the case of its letters do not count. -/
def ofText (text : String) : Except Fault Period :=
  match digitsOf? ((trim text.toList).map upper) with
  | some digits => ofDigits digits
  | none => .error (.unsupportedPeriod text)

end Period

end AnomalyWindows
