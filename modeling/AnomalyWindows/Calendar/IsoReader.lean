import AnomalyWindows.Calendar.Moment
import AnomalyWindows.Text.Digit

namespace AnomalyWindows.Calendar.IsoReader

open Text

/-- The number that exactly so many ASCII digits at the head write, and the rest. -/
def takeNumber? (count : Nat) (cs : List Char) : Option (Nat × List Char) := do
  let digits ← (cs.take count).mapM asciiDigit?
  if digits.length = count then some (ofDigits digits, cs.drop count) else none

/-- The day of a week of a year. Week 1 is the first one with at least four days in the year. -/
def ofWeek? (year : Int) (week day : Nat) : Option Date :=
  let first := Date.toDays ⟨year, 1, 1⟩
  let firstWeekday := (first + 3) % 7
  let firstMonday := first - firstWeekday + if 3 < firstWeekday then 7 else 0
  let isLong := firstWeekday = 3 ∨ (firstWeekday = 2 ∧ isLeap year)
  if week = 0 ∨ 53 < week ∨ (week = 53 ∧ ¬ isLong) ∨ day = 0 ∨ 7 < day then none
  else some (Date.ofDays (firstMonday + (week - 1) * 7 + (day - 1)))

def afterHyphen? (hyphens : Bool) (cs : List Char) : Option (List Char) :=
  if hyphens then
    match cs with
    | '-' :: rest => some rest
    | _ => none
  else some cs

def date? (cs : List Char) : Option Date := do
  let (year, cs) ← takeNumber? 4 cs
  let hyphens := cs.head? = some '-'
  let cs ← afterHyphen? hyphens cs
  match cs with
  | 'W' :: cs =>
    let (week, cs) ← takeNumber? 2 cs
    if cs = [] then ofWeek? year week 1
    else
      let cs ← afterHyphen? hyphens cs
      let (day, _) ← takeNumber? 1 cs
      ofWeek? year week day
  | _ =>
    let (month, cs) ← takeNumber? 2 cs
    let cs ← afterHyphen? hyphens cs
    let (day, cs) ← takeNumber? 2 cs
    if cs = [] then some ⟨year, month, day⟩ else none

/-- The length of the date at the head of a text. A week without hyphens is followed by a day if
that leaves the digits of the time in pairs; a hyphen behind a week that digits follow separates
the time. -/
def dateLength (cs : List Char) : Nat :=
  let isDigit (c : Char) := (asciiDigit? c).isSome
  if cs.length = 7 then 7
  else
    match cs.drop 4 with
    | '-' :: 'W' :: _ =>
      match cs.drop 8 with
      | '-' :: _ :: c :: _ => if isDigit c then 8 else 10
      | '-' :: _ => 10
      | _ => 8
    | '-' :: _ => 10
    | 'W' :: _ =>
      let stop := 7 + ((cs.drop 7).takeWhile isDigit).length
      if stop < 9 then stop else if stop % 2 = 0 then 7 else 8
    | _ => 8

/-- A time of day or an offset in fields, with whether unread text is left behind it. -/
structure Fields where
  hours : Nat
  minutes : Nat
  seconds : Nat
  micros : Nat
  left : Bool
  deriving Repr

def takeMicros? (cs : List Char) : Option (Nat × Bool) := do
  let digits ← (cs.take 6).mapM asciiDigit?
  let micros := ofDigits ((digits ++ List.replicate 6 0).take 6)
  return (micros, (cs.drop 6).any fun c => (asciiDigit? c).isNone)

/-- One, two or three fields of two digits, with colons between them if there is one behind the
first, then perhaps a fraction. -/
def takeFields? : Nat → Option Bool → List Char → Option (List Nat × Nat × Bool)
  | 0, _, cs => do
    let (micros, left) ← takeMicros? cs
    return ([], micros, left)
  | count + 1, colons, cs => do
    let (field, cs) ← takeNumber? 2 cs
    match cs with
    | [] => return ([field], 0, false)
    | [c] => if c.toNat < 128 then return ([field], 0, true) else none
    | c :: rest =>
      let colons := colons.getD (c == ':')
      if colons && c == ':' then
        let (fields, micros, left) ← takeFields? count (some colons) rest
        return (field :: fields, micros, left)
      else if c = '.' ∨ c = ',' then
        let (micros, left) ← takeMicros? rest
        return ([field], micros, left)
      else if !colons then
        let (fields, micros, left) ← takeFields? count (some colons) (c :: rest)
        return (field :: fields, micros, left)
      else none

def fields? (cs : List Char) : Option Fields := do
  let (fields, micros, left) ← takeFields? 3 none cs
  return ⟨fields.getD 0 0, fields.getD 1 0, fields.getD 2 0, micros, left⟩

def Fields.total (f : Fields) : Int :=
  f.hours * hour + f.minutes * minute + f.seconds * second + f.micros

/-- The clock of an offset. An offset of less than a second is none. -/
def clockOf? (negative : Bool) (f : Fields) : Option Clock :=
  if f.left then none
  else if f.total < second then some .utc
  else if f.total < day then some (.fixed (if negative then -f.total else f.total))
  else none

/-- Reads a time of day and the clock that its offset gives. Text that is left over between a time
and its offset does not count. -/
def time? (cs : List Char) : Option (Int × Clock) := do
  let (body, rest) := cs.span fun c => c != '+' && c != '-' && c != 'Z'
  let fields ← fields? body
  if 23 < fields.hours ∨ 59 < fields.minutes ∨ 59 < fields.seconds then none
  match rest with
  | [] => if fields.left then none else some (fields.total, .naive)
  | 'Z' :: rest => if rest = [] then some (fields.total, .utc) else none
  | sign :: rest =>
    let offset ← fields? rest
    let clock ← clockOf? (sign == '-') offset
    return (fields.total, clock)

def ofText? (cs : List Char) : Option Moment := do
  if cs.length < 7 then none
  let length := dateLength cs
  let date ← date? (cs.take length)
  if !date.isValid then none
  match cs.drop length with
  | [] => some ⟨date.toDays * day, false, .naive⟩
  | _ :: rest =>
    let (time, clock) ← time? rest
    return ⟨date.toDays * day + time, false, clock⟩

end AnomalyWindows.Calendar.IsoReader
