/-!
The fewest decimal digits that read back as a given double, and of those the ones nearest to it.
-/

namespace AnomalyWindows.Number

/-- A finite double as an integer times a power of two, without its sign. The third part tells
whether the next smaller double is only half as far away as the next larger one. -/
structure Binary where
  mantissa : Nat
  exponent : Int
  narrowBelow : Bool
  deriving DecidableEq, Repr

def Binary.ofBits (bits : UInt64) : Binary :=
  let fraction := (bits &&& 0xfffffffffffff).toNat
  let biased := ((bits >>> 52) &&& 0x7ff).toNat
  if biased = 0 then ⟨fraction, -1074, false⟩
  else ⟨0x10000000000000 + fraction, (biased : Int) - 1075, fraction == 0 && biased != 1⟩

/-- The numerator over a common denominator of a product with powers of two and ten. -/
def scaledUp (n : Nat) (two ten : Int) : Nat :=
  n * Nat.pow 2 two.toNat * Nat.pow 10 ten.toNat

def below10 (b : Binary) (p : Int) : Bool :=
  scaledUp b.mantissa b.exponent (-p) < scaledUp 1 (-b.exponent) p

/-- The number of digits before the point of the decimal form, negative for zeros behind it. It is
found by counting up from an estimate that is never too large. -/
def pointOf (b : Binary) : Int :=
  let bits := (b.mantissa.log2 : Int) + b.exponent
  let estimate := bits * 30103 / 100000 - 1
  go 4 estimate b
where
  go : Nat → Int → Binary → Int
    | 0, p, _ => p
    | fuel + 1, p, b => if below10 b p then p else go fuel (p + 1) b

/-- Whether `digits * 10 ^ power` reads back as the number: whether it lies between the middles
towards the neighbouring doubles, these included if the mantissa is even. -/
def readsBack (b : Binary) (digits : Nat) (power : Int) : Bool :=
  let value := scaledUp (4 * digits) (-b.exponent) power
  let low := scaledUp (4 * b.mantissa - if b.narrowBelow then 1 else 2) b.exponent (-power)
  let high := scaledUp (4 * b.mantissa + 2) b.exponent (-power)
  if b.mantissa % 2 = 0 then low ≤ value && value ≤ high else low < value && value < high

/-- The digits of the multiple of `10 ^ power` nearest to the number that reads back as it, if
there is one. Of two that are equally near the even one is taken. -/
def nearest? (b : Binary) (power : Int) : Option Nat :=
  let top := scaledUp b.mantissa b.exponent (-power)
  let bottom := scaledUp 1 (-b.exponent) power
  let down := top / bottom
  let rest := top % bottom
  match readsBack b down power, readsBack b (down + 1) power with
  | true, true =>
    if 2 * rest < bottom ∨ (2 * rest = bottom ∧ down % 2 = 0) then some down else some (down + 1)
  | true, false => some down
  | false, true => some (down + 1)
  | false, false => none

/-- The shortest digits of a positive number, and the position of the point in front of which they
stand. -/
def shortest (b : Binary) : Nat × Int :=
  let point := pointOf b
  match (List.range 17).findSome? fun (n : Nat) =>
      let power := point - (n + 1)
      (nearest? b power).map fun digits => (digits, power) with
  | some (digits, power) => (digits, power)
  | none => (0, 0)

end AnomalyWindows.Number
