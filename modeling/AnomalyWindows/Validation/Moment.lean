import AnomalyWindows.Calendar.Timestamp
import AnomalyWindows.Validation.Duration

namespace AnomalyWindows.Calendar.Moment

open Text Number Duration

/-- Counts beyond this one, either way, are of milliseconds. -/
def secondsLimit : Int := 20000000000

/-- The moment of UTC that a count means, with microseconds on top of it. -/
def ofCount? (count : Int) (micros : Nat) : Option Moment :=
  let seconds := if secondsLimit < count.natAbs then count * 1000 else count * second
  let instant := seconds + micros
  if firstWall ≤ instant ∧ instant ≤ lastWall then some (.ofInstant instant) else none

def microsBehind (x : Float) : Nat :=
  (x * 1000000.0).round.toUInt64.toNat

/-- The whole number below a double, cut to 64 bits. -/
def floorWord (x : Float) : Int :=
  if x < -secondLimit then -wordLimit
  else if secondLimit ≤ x then wordLimit - 1
  else truncate x.floor

/-- The moment of a number. The size of its fraction counts from the whole number below. -/
def ofFloat? (x : Float) : Option Moment :=
  if x.isNaN then none
  else
    let size := x.abs
    let fraction := if x.isInf then 0.0 else size - size.floor
    ofCount? (floorWord x) (microsBehind fraction)

/-- The moment of a decimal number in text: perhaps a sign, digits, perhaps a point and digits. -/
def ofNumberText? (cs : List Char) : Option Moment :=
  let (negative, body) := takeSign cs
  match takeDigits asciiDigit? body with
  | ([], _) => none
  | (whole, rest) =>
    let count := ofDigits whole
    if wordLimit ≤ count then none
    else
      match rest with
      | [] => ofCount? (signed negative count) 0
      | '.' :: rest =>
        match takeDigits asciiDigit? rest with
        | (digits, []) =>
          let (size, _) := digits.foldl
            (fun (x, weight) d => (x + ofInt (d : Nat) / weight, weight * 10.0)) (ofInt count, 10.0)
          let x := if negative then -size else size
          let x := if ofInt secondsLimit < size then x / 1000.0 else x
          ofCount? (floorWord x) (microsBehind (x - x.floor))
        | _ => none
      | _ => none

/-- A year, a month and a day with hyphens between them, and the rest. -/
def takeDate? (cs : List Char) : Option (Date × List Char) := do
  let (century, cs) ← takeTwo? cs
  let (year, cs) ← takeTwo? cs
  match cs with
  | '-' :: cs =>
    let (month, cs) ← takeTwo? cs
    match cs with
    | '-' :: cs =>
      let (day, cs) ← takeTwo? cs
      let date : Date := ⟨100 * century + year, month, day⟩
      if date.isValid then some (date, cs) else none
    | _ => none
  | _ => none

def takeSeconds? (cs : List Char) : Option (Int × List Char) :=
  match cs with
  | ':' :: cs => do
    let (s, cs) ← takeTwo? cs
    if 59 < s then none
    match cs with
    | mark :: rest =>
      if mark = '.' ∨ mark = ',' then
        match takeDigits asciiDigit? rest with
        | ([], _) => none
        | (digits, rest) => some (s * second + microsOfDigits digits, rest)
      else some (s * second, cs)
    | [] => some (s * second, [])
  | _ => some (0, cs)

def takeTime? (cs : List Char) : Option (Int × List Char) := do
  let (hours, cs) ← takeTwo? cs
  match cs with
  | ':' :: cs =>
    let (minutes, cs) ← takeTwo? cs
    if 23 < hours ∨ 59 < minutes then none
    let (seconds, cs) ← takeSeconds? cs
    return (hours * hour + minutes * minute + seconds, cs)
  | _ => none

def clockOf? (cs : List Char) : Option Clock :=
  match cs with
  | [] => some .naive
  | ['Z'] | ['z'] => some .utc
  | sign :: cs => do
    if sign ≠ '+' ∧ sign ≠ '-' ∧ sign ≠ '\u2212' then none
    let (hours, cs) ← takeTwo? cs
    let (minutes, cs) ← takeTwo? (dropOne ':' cs)
    if 59 < minutes ∨ 23 < hours ∨ cs ≠ [] then none
    let offset := hours * hour + minutes * minute
    return .fixed (if sign = '+' then offset else -offset)

/-- The moment of a text in ISO form. A date alone is the start of its day. -/
def ofIsoText? (cs : List Char) : Option Moment := do
  let (date, cs) ← takeDate? cs
  match cs with
  | [] => some ⟨date.toDays * day, false, .naive⟩
  | mark :: cs =>
    if mark ≠ 'T' ∧ mark ≠ 't' ∧ mark ≠ ' ' ∧ mark ≠ '_' then none
    let (time, cs) ← takeTime? cs
    let clock ← clockOf? cs
    return ⟨date.toDays * day + time, false, clock⟩

def ofData : Data → Checked Moment
  | .text s =>
    match (ofIsoText? s.toList).orElse fun _ => ofNumberText? s.toList with
    | some m => .valid m
    | none => .wrongKind .momentParsing
  | .int n =>
    if fitsWord n then counted (ofCount? n 0)
    else if (ofInt n).isInf then .wrongKind .momentType
    else .wrongKind .momentRange
  | .float x => counted (ofFloat? x)
  | _ => .wrongKind .momentType
where
  counted : Option Moment → Checked Moment
    | some m => .valid m
    | none => .wrongKind .momentRange

end AnomalyWindows.Calendar.Moment
