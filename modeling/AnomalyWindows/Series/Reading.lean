import AnomalyWindows.Calendar.Timestamp
import AnomalyWindows.Data
import AnomalyWindows.Json.Reader
import AnomalyWindows.Text.Quoted

namespace AnomalyWindows.Series

open Text Number Calendar

def isGap (c : Char) : Bool :=
  c == ' ' || (9 ≤ c.toNat && c.toNat ≤ 13)

def powerOfTen (n : Nat) : Float :=
  Float.ofScientific 1 false n

/-- A number times a power of ten, in double precision. -/
def scale (x : Float) (power : Int) : Float :=
  if 308 < power then (if x == 0.0 then 0.0 else if x < 0.0 then -1.0 / 0.0 else 1.0 / 0.0)
  else if 0 < power then x * powerOfTen power.toNat
  else if power < -616 then x * 0.0
  else if power < -308 then x / powerOfTen (-308 - power).toNat / powerOfTen 308
  else x / powerOfTen (-power).toNat

/-- The number of digits of a value that count, zeros in front included. -/
def countedDigits : Nat := 17

def floatOfDigits (digits : List Nat) : Float :=
  digits.foldl (fun x (d : Nat) => x * 10.0 + ofInt d) 0.0

/-- What a text in a point reads as: its number, and its integer if it is written as one. -/
structure Reading where
  value : Float
  whole : Option Int

def Reading.unknown : Reading := ⟨0.0 / 0.0, none⟩

/-- A decimal number, perhaps with a sign, a point and an exponent, between blanks. -/
def decimal? (cs : List Char) : Option Reading := do
  let (negative, cs) := takeSign (cs.dropWhile isGap)
  let (whole, cs) := takeDigits asciiDigit? cs
  let (fraction, hasPoint, cs) :=
    match cs with
    | '.' :: rest =>
      let (digits, rest) := takeDigits asciiDigit? rest
      (digits, true, rest)
    | _ => ([], false, cs)
  if whole = [] ∧ fraction = [] then none
  let (exponent, cs) := Json.takeExponent cs
  if cs.any fun c => !isGap c then none
  let counted := fraction.take (countedDigits - whole.length)
  let x := floatOfDigits (whole.take countedDigits ++ counted)
  let power : Int := (whole.length - countedDigits : Nat) - counted.length + exponent.getD 0
  let value := scale (if negative then -x else x) power
  let isWhole := !hasPoint && exponent.isNone
  return ⟨value, if isWhole then some (signed negative (ofDigits whole)) else none⟩

/-- A value written as text: a decimal number, or infinity with perhaps a sign. -/
def ofText (text : String) : Reading :=
  let cs := text.toList
  let (negative, body) := takeSign cs
  if isWord ["inf", "infinity"] body then ⟨if negative then -1.0 / 0.0 else 1.0 / 0.0, none⟩
  else (decimal? cs).getD .unknown

def readingOf : Data → Reading
  | .text s => ofText s
  | .bool b => ⟨if b then 1.0 else 0.0, some (if b then 1 else 0)⟩
  | .int n => ⟨ofInt n, some n⟩
  | .float x => ⟨x, none⟩
  | _ => .unknown

/-- A value as the column of its series holds it: an integer of 64 bits with a sign or without, or a
double. -/
inductive Amount
  | word (n : Int)
  | natural (n : Int)
  | double (x : Float)
  deriving DecidableEq

namespace Amount

def float : Amount → Float
  | word n => ofInt n
  | natural n => ofInt n
  | double x => x

def word? : Amount → Option Int
  | word n => some n
  | _ => none

def natural? : Amount → Option Int
  | natural n => some n
  | _ => none

/-- An amount in a column with others. Only integers of one kind are held together as they are. -/
def beside (others : List Amount) (amount : Amount) : Amount :=
  if others.all (·.word?.isSome) || others.all (·.natural?.isSome) then amount
  else double amount.float

end Amount

def Reading.fits (p : Int → Bool) (r : Reading) : Bool := r.whole.any p

def Reading.exactly (make : Int → Amount) (r : Reading) : Amount :=
  (r.whole.map make).getD (.double r.value)

/-- How a column holds what it reads. Integers are held exactly if there is nothing else and all of
them fit 64 bits. -/
def holding (column : List Reading) (r : Reading) : Amount :=
  if column.all (·.fits fitsWord) then r.exactly .word
  else if column.all (·.fits fitsNatural) then r.exactly .natural
  else .double r.value

def valuesOf (column : List Data) : List Amount :=
  let readings := column.map readingOf
  readings.map (holding readings)

/-- A text in which underscores between digits are left out and digits are those of ASCII, if no
underscore stands elsewhere. -/
def plainDigits? : List Char → Bool → Option (List Char)
  | [], _ => some []
  | '_' :: c :: rest, true =>
    match digit? c with
    | some d => (plainDigits? rest true).map (hexDigit d :: ·)
    | none => none
  | '_' :: _, _ => none
  | c :: rest, _ =>
    match digit? c with
    | some d => (plainDigits? rest true).map (hexDigit d :: ·)
    | none => (plainDigits? rest false).map (c :: ·)

def secondsOf : Data → Except Fault Float
  | .null => .ok (0.0 / 0.0)
  | .text s =>
    match (plainDigits? (trimWith isSpace s.toList) false).bind Number.float? with
    | some x => .ok x
    | none => .error (.unusableValue ("could not convert string to float: " ++ quoted s))
  | .list _ => .error (.unusableValue "setting an array element with a sequence.")
  | .int n => if (ofInt n).isInf then .error .outOfRange else .ok (ofInt n)
  | data =>
    match data.float? with
    | some x => .ok x
    | none => .error .wrongKind

/-- The nanoseconds that a number of seconds amounts to: its fraction is rounded to nine places and
then cut to whole nanoseconds. -/
def nanosOf (x : Float) : Int :=
  let whole := truncate x
  let part := x - ofInt whole
  let rounded := ofInt (roundEven (part * 1000000000.0)) / 1000000000.0
  whole * 1000000000 + truncate (rounded * 1000000000.0)

/-- The instant of a time in nanoseconds. A number of seconds beyond 64 bits tells no instant; one
whose nanoseconds are beyond 64 bits is an error. -/
def instantOf (x : Float) : Except Fault (Option Int) :=
  if x.isNaN || x ≤ -secondLimit || secondLimit ≤ x then .ok none
  else
    let nanos := nanosOf x
    if -wordLimit < nanos ∧ nanos < wordLimit then .ok (some nanos)
    else .error (.unusableValue "time out of bounds")

end AnomalyWindows.Series
