import AnomalyWindows.Data
import AnomalyWindows.Fault
import AnomalyWindows.Text.Hex

/-!
Reading JSON. Besides the standard values the names of what is not a number and of the infinities
are read. The value of a repeated name is the last one. A text that is no JSON is refused with the
place where it stops being so.
-/

namespace AnomalyWindows.Json

open Text Number

/-- Why reading stops: something was expected at the head of what is left of the text, or an
integer has too many digits. -/
inductive Stop
  | expected (what : String) (left : List Char)
  | tooManyDigits (count : Nat)

/-- The text from its first character that is not a space, tab or line end on. -/
def skipSpace : List Char → List Char
  | c :: cs => if c = ' ' ∨ c = '\t' ∨ c = '\n' ∨ c = '\r' then skipSpace cs else c :: cs
  | [] => []

/-- The number that four hexadecimal digits at the head write, and the rest. -/
def takeHex4? : List Char → Option (Nat × List Char)
  | a :: b :: c :: d :: rest => do
    let a ← hexDigit? a
    let b ← hexDigit? b
    let c ← hexDigit? c
    let d ← hexDigit? d
    return (((a * 16 + b) * 16 + c) * 16 + d, rest)
  | _ => none

def escaped? : Char → Option Char
  | '"' => some '"'
  | '\\' => some '\\'
  | '/' => some '/'
  | 'b' => some '\x08'
  | 'f' => some '\x0c'
  | 'n' => some '\n'
  | 'r' => some '\r'
  | 't' => some '\t'
  | _ => none

/-- The character of a `u` escape whose digits come next. Two escapes that make up a pair of
surrogates give one character. `mark` is the text from the `u` on. A closing quote has to follow
the digits. -/
def unicodeEscape (mark cs : List Char) : Except Stop (Char × List Char) :=
  match takeHex4? cs with
  | some (n, rest@(_ :: _)) =>
    match rest with
    | '\\' :: mark'@('u' :: cs') =>
      if 0xd800 ≤ n ∧ n ≤ 0xdbff ∧ 5 ≤ cs'.length then
        match takeHex4? cs' with
        | some (low, rest') =>
          if 0xdc00 ≤ low ∧ low ≤ 0xdfff then
            .ok (Char.ofNat (0x10000 + (n - 0xd800) * 0x400 + (low - 0xdc00)), rest')
          else .ok (charOf n, rest)
        | none => .error (.expected "Invalid \\uXXXX escape" mark')
      else .ok (charOf n, rest)
    | _ => .ok (charOf n, rest)
  | _ => .error (.expected "Invalid \\uXXXX escape" mark)

/-- The characters of a string up to its closing quote, and the rest. `opening` is the text from
the opening quote on. -/
def string (opening : List Char) : Nat → List Char → List Char →
    Except Stop (String × List Char)
  | 0, _, _ => .error (.expected "Unterminated string starting at" opening)
  | fuel + 1, cs, done =>
    match cs with
    | [] => .error (.expected "Unterminated string starting at" opening)
    | '"' :: rest => .ok (String.ofList done.reverse, rest)
    | ['\\'] => .error (.expected "Unterminated string starting at" opening)
    | '\\' :: mark@('u' :: rest) =>
      match unicodeEscape mark rest with
      | .ok (c, rest) => string opening fuel rest (c :: done)
      | .error stop => .error stop
    | '\\' :: e :: rest =>
      match escaped? e with
      | some c => string opening fuel rest (c :: done)
      | none => .error (.expected "Invalid \\escape" cs)
    | c :: rest =>
      if c.toNat < 32 then .error (.expected "Invalid control character at" cs)
      else string opening fuel rest (c :: done)

/-- The exponent at the head of a number, if there is one: a letter, perhaps a sign, digits. -/
def takeExponent : List Char → Option Int × List Char
  | cs@(e :: rest) =>
    if e = 'e' ∨ e = 'E' then
      let (negative, rest) := takeSign rest
      match takeDigits asciiDigit? rest with
      | ([], _) => (none, cs)
      | (digits, rest) => (some (signed negative (ofDigits digits)), rest)
    else (none, cs)
  | [] => (none, [])

def takeFraction : List Char → List Nat × List Char
  | cs@('.' :: rest) =>
    match takeDigits asciiDigit? rest with
    | ([], _) => ([], cs)
    | (digits, rest) => (digits, rest)
  | cs => ([], cs)

/-- A number without its sign: no zeros in front, then perhaps a fraction and an exponent. -/
def number (opening : List Char) (negative : Bool) (cs : List Char) :
    Except Stop (Data × List Char) :=
  let (whole, cs) :=
    match cs with
    | '0' :: rest => ([0], rest)
    | cs => takeDigits asciiDigit? cs
  if whole = [] then .error (.expected "Expecting value" opening)
  else
    let (fraction, cs) := takeFraction cs
    let (exponent, cs) := takeExponent cs
    if fraction = [] ∧ exponent = none then
      if whole.length ≤ maxDigits then .ok (.int (signed negative (ofDigits whole)), cs)
      else .error (.tooManyDigits whole.length)
    else
      let power : Int := exponent.getD 0 - fraction.length
      .ok (.float (ofScientific negative (ofDigits (whole ++ fraction)) power), cs)

/-- A value that is neither a list, a map nor a string. -/
def scalar (cs : List Char) : Except Stop (Data × List Char) :=
  match cs with
  | 'n' :: 'u' :: 'l' :: 'l' :: rest => .ok (.null, rest)
  | 't' :: 'r' :: 'u' :: 'e' :: rest => .ok (.bool true, rest)
  | 'f' :: 'a' :: 'l' :: 's' :: 'e' :: rest => .ok (.bool false, rest)
  | 'N' :: 'a' :: 'N' :: rest => .ok (.float (0.0 / 0.0), rest)
  | 'I' :: 'n' :: 'f' :: 'i' :: 'n' :: 'i' :: 't' :: 'y' :: rest => .ok (.float (1.0 / 0.0), rest)
  | '-' :: 'I' :: 'n' :: 'f' :: 'i' :: 'n' :: 'i' :: 't' :: 'y' :: rest =>
    .ok (.float (-1.0 / 0.0), rest)
  | '-' :: rest => number cs true rest
  | _ => number cs false cs

mutual

def value : Nat → List Char → Except Stop (Data × List Char)
  | 0, cs => .error (.expected "Expecting value" cs)
  | fuel + 1, cs =>
    match cs with
    | '"' :: rest =>
      match string cs (rest.length + 1) rest [] with
      | .ok (s, rest) => .ok (.text s, rest)
      | .error stop => .error stop
    | '[' :: rest =>
      match skipSpace rest with
      | ']' :: rest => .ok (.list [], rest)
      | rest =>
        match items fuel rest [] with
        | .ok (done, rest) => .ok (.list done.reverse, rest)
        | .error stop => .error stop
    | '\x7b' :: rest =>
      match skipSpace rest with
      | '\x7d' :: rest => .ok (.map [], rest)
      | rest =>
        match members fuel rest [] with
        | .ok (done, rest) =>
          .ok (.map (done.reverse.foldl (fun entries (k, v) => Data.put k v entries) []), rest)
        | .error stop => .error stop
    | cs => scalar cs

/-- The items of a list up to its closing bracket, the last one first. -/
def items : Nat → List Char → List Data → Except Stop (List Data × List Char)
  | 0, cs, _ => .error (.expected "Expecting value" cs)
  | fuel + 1, cs, done =>
    match value fuel cs with
    | .ok (item, rest) =>
      match skipSpace rest with
      | ']' :: rest => .ok (item :: done, rest)
      | ',' :: rest => items fuel (skipSpace rest) (item :: done)
      | rest => .error (.expected "Expecting ',' delimiter" rest)
    | .error stop => .error stop

/-- The entries of a map up to its closing brace, the last one first. -/
def members : Nat → List Char → List (Data × Data) →
    Except Stop (List (Data × Data) × List Char)
  | 0, cs, _ => .error (.expected "Expecting value" cs)
  | fuel + 1, cs, done =>
    match cs with
    | '"' :: rest =>
      match string cs (rest.length + 1) rest [] with
      | .ok (name, rest) =>
        match skipSpace rest with
        | ':' :: rest =>
          match value fuel (skipSpace rest) with
          | .ok (v, rest) =>
            match skipSpace rest with
            | '\x7d' :: rest => .ok ((.text name, v) :: done, rest)
            | ',' :: rest => members fuel (skipSpace rest) ((.text name, v) :: done)
            | rest => .error (.expected "Expecting ',' delimiter" rest)
          | .error stop => .error stop
        | rest => .error (.expected "Expecting ':' delimiter" rest)
      | .error stop => .error stop
    | cs => .error (.expected "Expecting property name enclosed in double quotes" cs)

end

/-- The place where the rest of a text starts, with what was expected there. -/
def faultAt (text : List Char) (what : String) (left : List Char) : JsonFault :=
  let position := text.length - left.length
  let before := text.take position
  { expectation := what
    position
    line := before.count '\n' + 1
    column := (before.reverse.takeWhile (· != '\n')).length + 1 }

def read (text : List Char) : Except Fault Data :=
  match value (2 * text.length + 2) (skipSpace text) with
  | .ok (data, rest) =>
    match skipSpace rest with
    | [] => .ok data
    | rest => .error (.notJson (faultAt text "Extra data" rest))
  | .error (.expected what left) => .error (.notJson (faultAt text what left))
  | .error (.tooManyDigits count) => .error (.tooManyDigits count)

/-- Reads a text. A byte order mark at its start does not count. -/
def ofText (text : String) : Except Fault Data :=
  match text.toList with
  | '\ufeff' :: cs => read cs
  | cs => read cs

end AnomalyWindows.Json
