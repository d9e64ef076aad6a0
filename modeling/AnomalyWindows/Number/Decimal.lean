import AnomalyWindows.Number.Shortest
import AnomalyWindows.Number.Word
import AnomalyWindows.Text.Integer

namespace AnomalyWindows.Number

open Text

/-- How a double is written: positional where the point stands from `lowest` to `highest`, else with
one digit before the point and an exponent of at least two digits. -/
structure Layout where
  lowest : Int
  highest : Int
  deriving DecidableEq, Repr

/-- Numbers are written positionally from 0.0001 to below ten to the sixteenth. -/
def Layout.usual : Layout := ⟨-3, 16⟩

/-- Digits without the zeros at their end, and how many zeros were left out. -/
def stripZeros : Nat → Nat → Nat → Nat × Nat
  | 0, n, zeros => (n, zeros)
  | fuel + 1, n, zeros =>
    if n ≠ 0 ∧ n % 10 = 0 then stripZeros fuel (n / 10) (zeros + 1) else (n, zeros)

/-- A positive number from its digits and the power of ten of the last one. -/
def positiveText (layout : Layout) (digits : Nat) (power : Int) : String :=
  let (digits, zeros) := stripZeros 20 digits 0
  let power := power + zeros
  let text := toString digits
  let point := text.length + power
  if layout.lowest ≤ point ∧ point ≤ layout.highest then
    if point ≤ 0 then "0." ++ "".pushn '0' (-point).toNat ++ text
    else if power ≥ 0 then text ++ "".pushn '0' power.toNat ++ ".0"
    else
      let cs := text.toList
      String.ofList (cs.take point.toNat) ++ "." ++ String.ofList (cs.drop point.toNat)
  else
    let cs := text.toList
    let exponent := point - 1
    let size := toString exponent.natAbs
    String.ofList (cs.take 1) ++
      (if cs.length = 1 then "" else "." ++ String.ofList (cs.drop 1)) ++
      "e" ++ (if exponent < 0 then "-" else "+") ++ (if size.length < 2 then "0" ++ size else size)

def floatText (x : Float) : String :=
  if x.isNaN then "NaN"
  else
    let sign := if x.toBits >>> 63 = 1 then "-" else ""
    if x.isInf then sign ++ "Infinity"
    else
      let b := Binary.ofBits x.toBits
      if b.mantissa = 0 then sign ++ "0.0"
      else
        let (digits, power) := shortest b
        sign ++ positiveText .usual digits power

/-- The double nearest to digits with a power of ten; powers beyond all doubles are cut short. -/
def ofScientific (negative : Bool) (digits : Nat) (power : Int) : Float :=
  let size : Int := (Nat.log2 digits : Int) * 30103 / 100000 + power
  let x :=
    if digits = 0 then 0.0
    else if size < -400 then 0.0
    else if 400 < size then 1.0 / 0.0
    else Float.ofScientific digits (power < 0) power.natAbs
  if negative then -x else x

/-- A decimal number without a sign: digits with at most one point among or around them, then
perhaps an exponent. Gives the digits, the power of ten of the last one and the rest. -/
def takeDecimal? (cs : List Char) : Option (Nat × Int × List Char) :=
  let (whole, cs) := takeDigits asciiDigit? cs
  let (fraction, cs) :=
    match cs with
    | '.' :: rest => takeDigits asciiDigit? rest
    | _ => ([], cs)
  if whole = [] ∧ fraction = [] then none
  else
    let digits := ofDigits (whole ++ fraction)
    let power : Int := -fraction.length
    match cs with
    | e :: rest =>
      if e = 'e' ∨ e = 'E' then
        let (negative, rest') := takeSign rest
        match takeDigits asciiDigit? rest' with
        | ([], _) => some (digits, power, cs)
        | (exponent, rest') => some (digits, power + signed negative (ofDigits exponent), rest')
      else some (digits, power, cs)
    | [] => some (digits, power, [])

def isWord (words : List String) (cs : List Char) : Bool :=
  words.contains (String.ofList (cs.map Char.toLower))

/-- A double from a text without blanks: an optional sign, then a decimal number or the name of
infinity or of what is not a number. -/
def float? (cs : List Char) : Option Float :=
  let (negative, body) := takeSign cs
  if isWord ["inf", "infinity"] body then some (if negative then -1.0 / 0.0 else 1.0 / 0.0)
  else if isWord ["nan"] body then some (0.0 / 0.0)
  else
    match takeDecimal? body with
    | some (digits, power, []) => some (ofScientific negative digits power)
    | _ => none

def ofInt (n : Int) : Float :=
  ofScientific (n < 0) n.natAbs 0

def wholeOf? (x : Float) : Option Int :=
  if x.isNaN || x.isInf then none
  else
    let b := Binary.ofBits x.toBits
    let size : Option Nat :=
      if 0 ≤ b.exponent then some (b.mantissa * Nat.pow 2 b.exponent.toNat)
      else
        let step := Nat.pow 2 (-b.exponent).toNat
        if b.mantissa % step = 0 then some (b.mantissa / step) else none
    size.map fun n => signed (x.toBits >>> 63 = 1) n

/-- A finite double rounded to the nearest integer, halves to the even one. -/
def roundEven (x : Float) : Int :=
  let b := Binary.ofBits x.toBits
  let top := b.mantissa * Nat.pow 2 b.exponent.toNat
  let bottom := Nat.pow 2 (-b.exponent).toNat
  let down := top / bottom
  let rest := top % bottom
  let n := if 2 * rest < bottom ∨ (2 * rest = bottom ∧ down % 2 = 0) then down else down + 1
  signed (x.toBits >>> 63 = 1) n

def truncate (x : Float) : Int :=
  let b := Binary.ofBits x.toBits
  signed (x.toBits >>> 63 = 1)
    (b.mantissa * Nat.pow 2 b.exponent.toNat / Nat.pow 2 (-b.exponent).toNat)

end AnomalyWindows.Number
