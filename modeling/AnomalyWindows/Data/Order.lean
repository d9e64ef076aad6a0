import AnomalyWindows.Data

namespace AnomalyWindows.Data

/-- The kinds of keys that have an order. Keys of two kinds have none between them. -/
inductive KeyKind
  | number
  | text
  | date
  | naive
  | timed
  deriving DecidableEq, Repr

def KeyKind.all : List KeyKind := [number, text, date, naive, timed]

/-- The place of a double among the numbers, in units of the smallest double above zero. The
infinities come before and behind all others. -/
def floatPlace (x : Float) : List Int :=
  let negative : Bool := x.toBits >>> 63 = 1
  if x.isInf then [Text.signed negative 1]
  else
    let b := Number.Binary.ofBits x.toBits
    [0, Text.signed negative (b.mantissa * Nat.pow 2 (b.exponent + 1074).toNat)]

def intPlace (n : Int) : List Int :=
  [0, n * Nat.pow 2 1074]

def keyPlace? : Data → Option (KeyKind × List Int)
  | bool b => some (.number, intPlace (if b then 1 else 0))
  | int n => some (.number, intPlace n)
  | float x => if x.isNaN then none else some (.number, floatPlace x)
  | text s => some (.text, s.toList.map fun c => c.toNat)
  | date d => some (.date, [d.toDays])
  | moment m => some (if m.isNaive then .naive else .timed, [m.instant])
  | null | list _ | pair _ _ | map _ => none

def keyPlace (key : Data) : List Int :=
  (keyPlace? key).elim [] (·.2)

def haveOrder (entries : List (Data × Data)) : Bool :=
  KeyKind.all.any fun kind => entries.all fun entry =>
    (keyPlace? entry.1).map (·.1) == some kind

/-- The key of one entry comes no later than that of another one. -/
def Precedes (a b : Data × Data) : Prop :=
  List.le (keyPlace a.1) (keyPlace b.1)

instance : DecidableRel Precedes :=
  fun a b => inferInstanceAs (Decidable (¬ List.lt (keyPlace b.1) (keyPlace a.1)))

def insertEntry (entry : Data × Data) : List (Data × Data) → List (Data × Data)
  | [] => [entry]
  | first :: rest =>
    if Precedes entry first then entry :: first :: rest else first :: insertEntry entry rest

def inOrder (entries : List (Data × Data)) : List (Data × Data) :=
  if haveOrder entries then entries.foldr insertEntry [] else entries

mutual

def sorted : Data → Data
  | list items => list (sortedItems items)
  | pair key value => pair (sorted key) (sorted value)
  | map entries => map (inOrder (sortedValues entries))
  | data => data

def sortedItems : List Data → List Data
  | [] => []
  | item :: rest => sorted item :: sortedItems rest

def sortedValues : List (Data × Data) → List (Data × Data)
  | [] => []
  | (key, value) :: rest => (key, sorted value) :: sortedValues rest

end

end AnomalyWindows.Data
