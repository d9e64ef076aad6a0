import AnomalyWindows.Data
import AnomalyWindows.Fault
import AnomalyWindows.Text.Hex

/-!
What the text of a scalar means: null, a truth value, a number, a date, a moment or just the text.
-/

namespace AnomalyWindows.Yaml

open Text Number Calendar

inductive ScalarKind
  | null
  | bool
  | int
  | float
  | timestamp
  | text
  | merge
  | value
  deriving DecidableEq, Repr

namespace ScalarKind

def isSign (c : Char) : Bool := c == '+' || c == '-'

def unsigned (cs : List Char) : List Char :=
  match cs with
  | c :: rest => if isSign c then rest else cs
  | [] => []

def isDigitOrLow (c : Char) : Bool := c.isDigit || c == '_'

/-- Parts between colons, one or two digits each and at most 59, with none but the first one
excepted. -/
def areSixtieths (cs : List Char) : Bool :=
  match cs with
  | [a] => a.isDigit
  | [a, b] => '0' ≤ a && a ≤ '5' && b.isDigit
  | ':' :: _ => false
  | a :: ':' :: rest => a.isDigit && areSixtieths rest
  | a :: b :: ':' :: rest => '0' ≤ a && a ≤ '5' && b.isDigit && areSixtieths rest
  | _ => false

/-- Whether a text without sign writes an integer: in base two, eight, ten, sixteen or sixty. -/
def isInt (cs : List Char) : Bool :=
  match cs with
  | ['0'] => true
  | '0' :: 'b' :: rest => rest != [] && rest.all fun c => c == '0' || c == '1' || c == '_'
  | '0' :: 'x' :: rest => rest != [] && rest.all fun c =>
      c.isDigit || ('a' ≤ c && c ≤ 'f') || ('A' ≤ c && c ≤ 'F') || c == '_'
  | '0' :: rest => rest.all fun c => ('0' ≤ c && c ≤ '7') || c == '_'
  | c :: rest =>
    c.isDigit &&
      match rest.span isDigitOrLow with
      | (_, []) => true
      | (_, ':' :: parts) => areSixtieths parts
      | _ => false
  | [] => false

def isExponent (cs : List Char) : Bool :=
  match cs with
  | [] => true
  | e :: s :: rest =>
    (e == 'e' || e == 'E') && isSign s && rest != [] && rest.all Char.isDigit
  | _ => false

/-- Whether a text writes a decimal number with a point, the name of infinity or of what is not a
number. A number in base sixty has its point behind the last part. -/
def isFloat (cs : List Char) : Bool :=
  let body := unsigned cs
  let isPlainSign := body == cs
  match body with
  | '.' :: rest =>
    (["inf", "Inf", "INF"].map String.toList).contains rest ||
      (isPlainSign && (["nan", "NaN", "NAN"].map String.toList).contains rest) ||
      (isPlainSign && (rest.head?.map Char.isDigit).getD false &&
        isExponent (rest.dropWhile isDigitOrLow))
  | c :: rest =>
    c.isDigit &&
      match rest.span isDigitOrLow with
      | (_, '.' :: rest) => isExponent (rest.dropWhile isDigitOrLow)
      | (_, ':' :: parts) =>
        let (sixtieths, rest) := parts.span (· != '.')
        areSixtieths sixtieths && rest != [] && (rest.drop 1).all isDigitOrLow
      | _ => false
  | [] => false

/-- A year, a month and a day with hyphens between them, month and day of one or two digits, and
the text behind them. -/
def takeDate? (cs : List Char) : Option (Nat × List Nat × List Nat × List Char) := do
  let (year, cs) := takeDigits asciiDigit? cs
  if year.length ≠ 4 then none
  match cs with
  | '-' :: cs =>
    let (month, cs) := takeDigits asciiDigit? cs
    if month.length = 0 ∨ 2 < month.length then none
    match cs with
    | '-' :: cs =>
      let (day, cs) := takeDigits asciiDigit? cs
      if day.length = 0 ∨ 2 < day.length then none
      some (ofDigits year, month, day, cs)
    | _ => none
  | _ => none

def takeField? (least : Nat) (cs : List Char) : Option (Nat × List Char) :=
  let (digits, rest) := takeDigits asciiDigit? (cs.take 2)
  if least ≤ digits.length then some (ofDigits digits, rest ++ cs.drop 2) else none

/-- An offset from UTC: hours and perhaps minutes, in microseconds. -/
def offset? (cs : List Char) : Option Clock :=
  match cs with
  | ['Z'] => some .utc
  | sign :: rest => do
    if !isSign sign then none
    let (hours, rest) ← takeField? 1 rest
    let minutes ←
      match rest with
      | [] => some 0
      | ':' :: rest => do
        let (minutes, rest) ← takeField? 2 rest
        if rest = [] then some minutes else none
      | _ => none
    let size : Int := hours * hour + minutes * minute
    return .fixed (if sign = '-' then -size else size)
  | [] => none

def isGap (c : Char) : Bool := c == ' ' || c == '\t'

/-- A date, or a date with a time of day and perhaps an offset; not yet checked to exist. -/
def timestamp? (cs : List Char) : Option (Date × Option (List Nat × Nat × Clock)) := do
  let (year, month, day, cs) ← takeDate? cs
  let date : Date := ⟨year, ofDigits month, ofDigits day⟩
  match cs with
  | [] => some (date, none)
  | c :: rest =>
    let cs ←
      if c = 'T' ∨ c = 't' then some rest
      else if isGap c then some (rest.dropWhile isGap)
      else none
    let (hours, cs) ← takeField? 1 cs
    let cs ← if cs.head? = some ':' then some (cs.drop 1) else none
    let (minutes, cs) ← takeField? 2 cs
    let cs ← if cs.head? = some ':' then some (cs.drop 1) else none
    let (seconds, cs) ← takeField? 2 cs
    let (fraction, cs) :=
      match cs with
      | '.' :: rest => takeDigits asciiDigit? rest
      | _ => ([], cs)
    let micros := ofDigits ((fraction ++ List.replicate 6 0).take 6)
    let time := [hours, minutes, seconds]
    match cs with
    | [] => some (date, some (time, micros, .naive))
    | cs => do
      let clock ← offset? (cs.dropWhile isGap)
      some (date, some (time, micros, clock))

/-- Whether a plain scalar reads as a date or a moment. A date alone needs two digits each for
month and day. -/
def isTimestamp (cs : List Char) : Bool :=
  match timestamp? cs with
  | some (_, none) => cs.length == 10
  | some (_, some _) => true
  | none => false

def trueWords : List String := ["yes", "true", "on"]
def falseWords : List String := ["no", "false", "off"]

def inCases (word : String) : List String :=
  [word, word.toUpper, word.capitalize]

def ofPlain (text : String) : ScalarKind :=
  let cs := text.toList
  if ((trueWords ++ falseWords).flatMap inCases).contains text then .bool
  else if isFloat cs then .float
  else if isInt (unsigned cs) then .int
  else if text = "<<" then .merge
  else if ("" :: "~" :: inCases "null").contains text then .null
  else if isTimestamp cs then .timestamp
  else if text = "=" then .value
  else .text

def ofTag? (tag : String) : Option ScalarKind :=
  match tag with
  | "tag:yaml.org,2002:null" => some .null
  | "tag:yaml.org,2002:bool" => some .bool
  | "tag:yaml.org,2002:int" => some .int
  | "tag:yaml.org,2002:float" => some .float
  | "tag:yaml.org,2002:timestamp" => some .timestamp
  | "tag:yaml.org,2002:str" => some .text
  | "tag:yaml.org,2002:merge" => some .merge
  | "tag:yaml.org,2002:value" => some .value
  | _ => none

end ScalarKind

/-- The value of parts in base sixty, the first one weighing most. -/
def sixtieths (parts : List Int) : Int :=
  parts.foldl (fun n part => 60 * n + part) 0

def colonParts (cs : List Char) : List (List Char) :=
  cs.splitOn ':'

/-- A number in a base of at most sixteen. Digits too large for it are refused, and so is an empty
text. -/
def inBase? (base : Nat) (cs : List Char) : Option Nat :=
  if cs = [] then none
  else do
    let digits ← cs.mapM fun c => (Text.hexDigit? c).filter (· < base)
    return digits.foldl (fun n d => base * n + d) 0

def takeSign (cs : List Char) : Bool × List Char :=
  (cs.head? = some '-', ScalarKind.unsigned cs)

def unusable (text : String) : Fault := .unusableValue text

def intOf (text : String) : Except Fault Int :=
  let (negative, body) := takeSign (text.toList.filter (· != '_'))
  let found : Option Int :=
    match body with
    | ['0'] => some 0
    | '0' :: 'b' :: rest => (inBase? 2 rest).map Int.ofNat
    | '0' :: 'x' :: rest => (inBase? 16 rest).map Int.ofNat
    | '0' :: rest => (inBase? 8 ('0' :: rest)).map Int.ofNat
    | _ =>
      if body.contains ':' then ((colonParts body).mapM integer?).map sixtieths
      else integer? body
  match found with
  | some n => .ok (if negative then -n else n)
  | none => .error (unusable text)

def floatOf (text : String) : Except Fault Float :=
  let (negative, body) := takeSign ((text.toList.filter (· != '_')).map Char.toLower)
  let read (cs : List Char) : Option Float := Number.float? (trimWith isSpace cs)
  let found : Option Float :=
    if body = ".inf".toList then some (1.0 / 0.0)
    else if body = ".nan".toList then some (0.0 / 0.0)
    else if body.contains ':' then
      ((colonParts body).mapM read).map fun parts =>
        (parts.reverse.foldl (fun (sum : Float × Float) part =>
          (sum.1 + part * sum.2, sum.2 * 60.0)) (0.0, 1.0)).1
    else read body
  match found with
  | some x => .ok (if negative then -1.0 * x else x)
  | none => .error (unusable text)

def timestampOf (text : String) : Except Fault Data :=
  match ScalarKind.timestamp? text.toList with
  | none => .error .noNamedParts
  | some (date, time) =>
    if !date.isValid then .error (unusable text)
    else
      match time with
      | none => .ok (.date date)
      | some (fields, micros, clock) =>
        let hours := fields.getD 0 0
        let minutes := fields.getD 1 0
        let seconds := fields.getD 2 0
        let isClock :=
          match clock with
          | .fixed offset => -day < offset && offset < day
          | _ => true
        if 23 < hours ∨ 59 < minutes ∨ 59 < seconds ∨ !isClock then .error (unusable text)
        else
          let wall :=
            date.toDays * day + hours * hour + minutes * minute + seconds * second + micros
          .ok (.moment ⟨wall, false, clock⟩)

/-- The value of a scalar of a kind. The keys with a meaning of their own are no values. -/
def valueOf (kind : ScalarKind) (text : String) : Except Fault Data :=
  match kind with
  | .null => .ok .null
  | .bool =>
    if ScalarKind.trueWords.contains text.toLower then .ok (.bool true)
    else if ScalarKind.falseWords.contains text.toLower then .ok (.bool false)
    else .error (.missingKey text)
  | .int => (intOf text).map .int
  | .float => (floatOf text).map .float
  | .timestamp => timestampOf text
  | .text => .ok (.text text)
  | .merge | .value => .error .notYaml

end AnomalyWindows.Yaml
