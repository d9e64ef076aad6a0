import AnomalyWindows.TimeUnit
import AnomalyWindows.Validation.Checked

namespace AnomalyWindows.Data

open Text Number

def readText : Data → Checked String
  | text s => .valid s
  | _ => .wrongKind .stringType

/-- The digits in front of a point that only zeros follow; all of the text if there is no point. -/
def beforePoint? (cs : List Char) : Option (List Char) :=
  match cs.span (· != '.') with
  | (whole, []) => some whole
  | (whole, _ :: zeros) => if zeros ≠ [] ∧ zeros.all (· == '0') then some whole else none

/-- The integer that a text in a field writes: blanks are trimmed, single underscores may stand
between the digits, and a point with zeros behind it does not count. -/
def integerText? (cs : List Char) : Option Int :=
  let (negative, body) := takeSign cs
  match beforePoint? body with
  | some whole => (digitGroups? asciiDigit? whole).map fun ds => signed negative (ofDigits ds)
  | none => none

/-- The integer that a double stands for. The smallest one of a word is not taken. -/
def integerOfFloat (x : Float) : Checked Int :=
  if x.isNaN || x.isInf then .wrongKind .finiteNumber
  else
    match wholeOf? x with
    | none => .wrongKind .intFromFloat
    | some n =>
      if -wordLimit < n ∧ n < wordLimit then .valid n else .wrongKind .intParsingSize

def readInt : Data → Checked Int
  | int n => .valid n
  | bool b => .valid (if b then 1 else 0)
  | float x => integerOfFloat x
  | text s =>
    let cs := trimWith isSpace s.toList
    if maxDigits < cs.length then .wrongKind .intParsingSize
    else
      match integerText? cs with
      | some n => .valid n
      | none => .wrongKind .intParsing
  | _ => .wrongKind .intType

def trueWords : List String := ["1", "on", "t", "true", "y", "yes"]
def falseWords : List String := ["0", "off", "f", "false", "n", "no"]

def boolOfInt (n : Int) : Checked Bool :=
  if n = 0 then .valid false else if n = 1 then .valid true else .wrongKind .boolParsing

def readBool : Data → Checked Bool
  | bool b => .valid b
  | int n => if fitsWord n then boolOfInt n else .wrongKind .boolType
  | float x =>
    match integerOfFloat x with
    | .valid n => boolOfInt n
    | .wrong _ => .wrongKind .boolType
  | text s =>
    if isWord trueWords s.toList then .valid true
    else if isWord falseWords s.toList then .valid false
    else .wrongKind .boolParsing
  | _ => .wrongKind .boolType

/-- The text without underscores, if these stand singly and inside of it. -/
def joinUnderscores? (cs : List Char) : Option (List Char) :=
  if cs.head? = some '_' ∨ cs.getLast? = some '_' then none
  else if (cs.zip cs.tail).any (· == ('_', '_')) then none
  else if cs.contains '_' then some (cs.filter (· != '_'))
  else none

def readFloat : Data → Checked Float
  | float x => .valid x
  | bool b => .valid (if b then 1 else 0)
  | int n =>
    let x := ofInt n
    if x.isInf then .wrongKind .floatType else .valid x
  | text s =>
    match Number.float? (trimWith isSpace s.toList) with
    | some x => .valid x
    | none =>
      match (joinUnderscores? s.toList).bind Number.float? with
      | some x => .valid x
      | none => .wrongKind .floatParsing
  | _ => .wrongKind .floatType

def readUnit : Data → Checked TimeUnit
  | text s =>
    match TimeUnit.ofName? s with
    | some unit => .valid unit
    | none => .wrongKind .enum
  | _ => .wrongKind .enum

@[simp] theorem readText_text (s : String) : readText (.text s) = .valid s := rfl

@[simp] theorem readInt_int (n : Int) : readInt (.int n) = .valid n := rfl

@[simp] theorem readBool_bool (b : Bool) : readBool (.bool b) = .valid b := rfl

@[simp] theorem readUnit_name (u : TimeUnit) : readUnit (.text u.name) = .valid u := by
  rw [readUnit, TimeUnit.ofName?_name]

end AnomalyWindows.Data
