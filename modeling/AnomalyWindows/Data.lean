import AnomalyWindows.Calendar.Iso
import AnomalyWindows.Number.Decimal

namespace AnomalyWindows

open Calendar

inductive Data
  | null
  | bool (b : Bool)
  | int (n : Int)
  | float (x : Float)
  | text (s : String)
  | date (d : Date)
  | moment (m : Moment)
  | list (items : List Data)
  | pair (key value : Data)
  | map (entries : List (Data × Data))
  deriving Inhabited

namespace Data

def wholeNumber? : Data → Option Int
  | bool b => some (if b then 1 else 0)
  | int n => some n
  | float x => Number.wholeOf? x
  | _ => none

/-- Whether two keys of a map are the same one. Numbers and truth values are the same if they are
equal as numbers; moments on clocks are the same if they are one instant. Lists and maps are no
keys. -/
def isKey : Data → Data → Bool
  | null, null => true
  | text a, text b => a == b
  | date a, date b => a == b
  | moment a, moment b => a.isNaive == b.isNaive && a.instant == b.instant
  | float a, float b => a == b
  | a, b =>
    match a.wholeNumber?, b.wholeNumber? with
    | some m, some n => m == n
    | _, _ => false

/-- The entries with a value set under a key: in the place of a value that the key has already,
else at the end. -/
def put (key value : Data) : List (Data × Data) → List (Data × Data)
  | [] => [(key, value)]
  | (k, v) :: rest => if k.isKey key then (k, value) :: rest else (k, v) :: put key value rest

def find? (key : Data) (entries : List (Data × Data)) : Option Data :=
  (entries.find? fun entry => entry.1.isKey key).map (·.2)

def named? (name : String) (entries : List (Data × Data)) : Option Data :=
  find? (text name) entries

def ofFields (fields : List (String × Data)) : Data :=
  map (fields.map fun (name, value) => (text name, value))

def ofOption {α : Type} (write : α → Data) : Option α → Data
  | some a => write a
  | none => null

def isNull : Data → Bool
  | null => true
  | _ => false

def withoutNulls : Data → Data
  | map entries => map (entries.filter fun entry => !entry.2.isNull)
  | data => data

/-- Whether the value counts as something: not null, false, zero or empty. -/
def isPresent : Data → Bool
  | null => false
  | bool b => b
  | int n => n != 0
  | float x => x != 0
  | text s => s != ""
  | date _ => true
  | moment _ => true
  | list items => !items.isEmpty
  | pair _ _ => true
  | map entries => !entries.isEmpty

/-- What a loop over the value visits: items, keys, or characters. Other values have nothing to
visit. -/
def parts? : Data → Option (List Data)
  | list items => some items
  | pair key value => some [key, value]
  | map entries => some (entries.map (·.1))
  | text s => some (s.toList.map fun c => text (String.ofList [c]))
  | _ => none

/-- A number in double precision; truth values count as numbers. -/
def float? : Data → Option Float
  | bool b => some (if b then 1 else 0)
  | int n => some (Number.ofInt n)
  | float x => some x
  | _ => none

mutual

def all (p : Data → Bool) : Data → Bool
  | list items => p (list items) && itemsAll p items
  | pair key value => p (pair key value) && all p key && all p value
  | map entries => p (map entries) && entriesAll p entries
  | data => p data

def itemsAll (p : Data → Bool) : List Data → Bool
  | [] => true
  | item :: rest => all p item && itemsAll p rest

def entriesAll (p : Data → Bool) : List (Data × Data) → Bool
  | [] => true
  | (key, value) :: rest => all p key && all p value && entriesAll p rest

end

def isPair : Data → Bool
  | pair _ _ => true
  | _ => false

/-- Whether there are no pairs in data. What is written down keeps pairs under a tag of their own,
which no reader knows. -/
def isPlain : Data → Bool :=
  all fun data => !data.isPair

def isShort : Data → Bool
  | int n => Text.isWritable n
  | _ => true

def isWritable : Data → Bool :=
  all isShort

theorem named?_put_self (name : String) (value : Data) (entries : List (Data × Data)) :
    named? name (put (text name) value entries) = some value := by
  induction entries with
  | nil => simp [named?, find?, put, isKey]
  | cons entry rest ih =>
    obtain ⟨k, v⟩ := entry
    by_cases h : k.isKey (text name)
    · simp [named?, find?, put, h]
    · simp only [named?, find?, put, h, Bool.false_eq_true, if_false] at ih ⊢
      simpa [h] using ih

end Data

end AnomalyWindows
