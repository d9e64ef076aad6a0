import AnomalyWindows.Data
import AnomalyWindows.Text.Quoted

namespace AnomalyWindows.Data

def floatShown (x : Float) : String :=
  if x.isNaN then "nan"
  else if x.isInf then (if x < 0 then "-inf" else "inf")
  else Number.floatText x

mutual

def shownWithin : Data → String
  | null => "None"
  | bool b => if b then "True" else "False"
  | int n => toString n
  | float x => floatShown x
  | text s => Text.quoted s
  | date d => d.text
  | moment m => m.spaced
  | list items => "[" ++ ", ".intercalate (itemsShown items) ++ "]"
  | pair key value => "(" ++ shownWithin key ++ ", " ++ shownWithin value ++ ")"
  | map entries => "\x7b" ++ ", ".intercalate (entriesShown entries) ++ "\x7d"

def itemsShown : List Data → List String
  | [] => []
  | item :: rest => shownWithin item :: itemsShown rest

def entriesShown : List (Data × Data) → List String
  | [] => []
  | (key, value) :: rest => (shownWithin key ++ ": " ++ shownWithin value) :: entriesShown rest

end

def shown : Data → String
  | text s => s
  | data => shownWithin data

end AnomalyWindows.Data
