import AnomalyWindows.Validation.Checked

namespace AnomalyWindows.Duration

open Text Calendar

/-- A duration in days, seconds and microseconds, all of them counting up. -/
structure Parts where
  days : Nat
  seconds : Nat
  micros : Nat
  deriving Repr

def partLimit : Nat := 4294967296

def Parts.fits (p : Parts) : Bool :=
  p.days < partLimit && p.seconds < partLimit && p.micros < partLimit

/-- The fraction that digits behind a point write, in double precision. -/
def fraction (digits : List Nat) : Float :=
  let top := digits.foldl (fun x (d : Nat) => x * 10.0 + Number.ofInt d) 0.0
  let bottom := digits.foldl (fun x (_ : Nat) => x * 10.0) 1.0
  top / bottom

def microsOf (x : Float) : Nat :=
  ((x - x.floor) * 1000000.0).round.toUInt64.toNat

def daysOf? : Char → Option Nat
  | 'Y' => some 365
  | 'M' => some 30
  | 'W' => some 7
  | 'D' => some 1
  | _ => none

def secondsOf? : Char → Option Nat
  | 'H' => some 3600
  | 'M' => some 60
  | 'S' => some 1
  | _ => none

def Parts.addDays (p : Parts) (amount size : Nat) (part : Option Float) : Parts :=
  match part with
  | none => { p with days := p.days + amount * size }
  | some x =>
    let days := x * Number.ofInt size
    let seconds := (days - days.floor) * 86400.0
    ⟨p.days + amount * size + days.floor.toUInt64.toNat,
      p.seconds + seconds.floor.toUInt64.toNat, p.micros + microsOf seconds⟩

def Parts.addSeconds (p : Parts) (amount size : Nat) (part : Option Float) : Parts :=
  match part with
  | none => { p with seconds := p.seconds + amount * size }
  | some x =>
    let seconds := x * Number.ofInt size
    ⟨p.days, p.seconds + amount * size + seconds.floor.toUInt64.toNat,
      p.micros + microsOf seconds⟩

def takeNumber? (cs : List Char) : Option (Nat × Option Float × List Char) :=
  match takeDigits asciiDigit? cs with
  | ([], _) => none
  | (digits, '.' :: rest) =>
    let (behind, rest) := takeDigits asciiDigit? rest
    some (ofDigits digits, some (fraction behind), rest)
  | (digits, rest) => some (ofDigits digits, none, rest)

def isoFields : Nat → List Char → Bool → Bool → Parts → Option Parts
  | 0, _, _, _, _ => none
  | _ + 1, [], _, _, parts => some parts
  | fuel + 1, 'T' :: cs, inTime, done, parts =>
    if inTime then none else isoFields fuel cs true done parts
  | fuel + 1, cs, inTime, done, parts => do
    let (amount, part, rest) ← takeNumber? cs
    if done || partLimit ≤ amount then none
    match rest with
    | [] => none
    | unit :: rest =>
      let parts ←
        if inTime then (secondsOf? unit).map fun size => parts.addSeconds amount size part
        else (daysOf? unit).map fun size => parts.addDays amount size part
      if parts.fits then isoFields fuel rest inTime part.isSome parts else none

def takeTwo? : List Char → Option (Nat × List Char)
  | a :: b :: rest => do
    let a ← asciiDigit? a
    let b ← asciiDigit? b
    return (10 * a + b, rest)
  | _ => none

def microsOfDigits (digits : List Nat) : Nat :=
  ofDigits ((digits ++ List.replicate 6 0).take 6)

def timeOfDay? (cs : List Char) : Option Parts := do
  let (hours, cs) ← takeTwo? cs
  match cs with
  | ':' :: cs =>
    let (minutes, cs) ← takeTwo? cs
    if 23 < hours ∨ 59 < minutes then none
    let seconds := hours * 3600 + minutes * 60
    match cs with
    | [] => some ⟨0, seconds, 0⟩
    | ':' :: cs =>
      let (s, cs) ← takeTwo? cs
      if 59 < s then none
      match cs with
      | [] => some ⟨0, seconds + s, 0⟩
      | mark :: cs =>
        if mark = '.' ∨ mark = ',' then
          match takeDigits asciiDigit? cs with
          | (digits@(_ :: _), []) => some ⟨0, seconds + s, microsOfDigits digits⟩
          | _ => none
        else none
    | _ => none
  | _ => none

def afterWord? (word : String) (cs : List Char) : Option (List Char) :=
  if word.toList.isPrefixOf cs then some (cs.drop word.length) else none

/-- The text behind the word for days, which may be cut to its first letter. -/
def afterDays? (cs : List Char) : Option (List Char) :=
  match cs with
  | d :: rest =>
    if d = 'd' ∨ d = 'D' then
      match (afterWord? "ay" rest).orElse fun _ => afterWord? "AY" rest with
      | some ('s' :: rest) => some rest
      | some ('S' :: rest) => some rest
      | some rest => some rest
      | none => some rest
    else none
  | [] => none

/-- A text without the given character at its head. -/
def dropOne (c : Char) : List Char → List Char
  | d :: rest => if d = c then rest else d :: rest
  | [] => []

def daysAndTime? (cs : List Char) : Option Parts := do
  match takeDigits asciiDigit? cs with
  | ([], _) => none
  | (digits, rest) =>
    if partLimit ≤ ofDigits digits then none
    let rest ← afterDays? (dropOne ' ' rest)
    match dropOne ' ' (dropOne ',' rest) with
    | [] => some ⟨ofDigits digits, 0, 0⟩
    | rest => (timeOfDay? rest).map fun time => { time with days := ofDigits digits }

/-- A duration in microseconds, if it has less than a thousand million days. -/
def Parts.total? (p : Parts) (negative : Bool) : Option Int :=
  let seconds := p.seconds + p.micros / 1000000
  if p.days + seconds / 86400 ≤ 999999999 then
    some (signed negative (p.days * 86400000000 + p.seconds * 1000000 + p.micros))
  else none

def ofText? (text : String) : Option Int :=
  let cs := text.toList
  let (negative, body) := takeSign cs
  let parts :=
    match body with
    | 'P' :: fields =>
      if cs.length < 3 then none else isoFields (cs.length + 1) fields false false ⟨0, 0, 0⟩
    | body =>
      if cs.any (fun c => c == 'd' || c == 'D') || cs.length < 5 then daysAndTime? body
      else timeOfDay? body
  parts.bind fun p => p.total? negative

def ofSeconds? (n : Int) : Option Int :=
  (Parts.mk (n.natAbs / 86400 % partLimit) (n.natAbs % 86400) 0).total? (n < 0)

def ofFloat? (x : Float) : Option Int :=
  if x.isNaN then none
  else
    let size := x.abs
    let days := (size / 86400.0).floor
    if Number.ofInt partLimit ≤ days then none
    else
      let days := days.toUInt64.toNat
      let seconds := size.floor.toUInt64.toNat % 86400
      (Parts.mk days seconds (microsOf size)).total? (x < 0)

def ofData : Data → Checked Int
  | .int n =>
    if Number.fitsWord n then parsed (ofSeconds? n) else parsed (ofFloat? (Number.ofInt n))
  | .bool b => parsed (ofSeconds? (if b then 1 else 0))
  | .float x => parsed (ofFloat? x)
  | .text s => parsed (ofText? s)
  | _ => .wrongKind .durationType
where
  parsed : Option Int → Checked Int
    | some d => .valid d
    | none => .wrongKind .durationParsing

end AnomalyWindows.Duration
