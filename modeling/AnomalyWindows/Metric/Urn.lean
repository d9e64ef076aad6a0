import AnomalyWindows.Fault
import AnomalyWindows.Text.Integer
import AnomalyWindows.Text.Split

namespace AnomalyWindows

open Text

/-- The values wanted for each dimension, in the order in which the dimensions came up. -/
abbrev Filters := List (String × List String)

namespace Filters

def add (key value : String) : Filters → Filters
  | [] => [(key, [value])]
  | (k, vs) :: rest => if k = key then (k, vs ++ [value]) :: rest else (k, vs) :: add key value rest

/-- The filters with their dimensions in the order of code points. -/
def sorted (filters : Filters) : Filters :=
  filters.mergeSort fun a b => decide (a.1 ≤ b.1)

end Filters

structure MetricEntity where
  id : Int
  filters : Filters
  deriving DecidableEq, Repr

namespace MetricEntity

def urnStart : String := "slidewatch:metric:"

/-- One more filter, written as key and value with an equals sign between them. -/
def addFilter (urn : String) (filters : Filters) (part : List Char) : Except Fault Filters :=
  match part.span (· != '=') with
  | ([], _) => .error (.malformedFilter (String.ofList part) urn)
  | (key, _ :: value) => .ok (filters.add (String.ofList key) (String.ofList value))
  | _ => .error (.malformedFilter (String.ofList part) urn)

/-- Reads a URN. Values of a repeated key add up. -/
def ofUrn (urn : String) : Except Fault MetricEntity :=
  if urnStart.toList.isPrefixOf urn.toList then
    match splitAt ':' (urn.toList.drop urnStart.length) with
    | [] => .error (.nonNumericId urn)
    | idText :: parts =>
      match integer? idText with
      | some id => do
        let filters ← parts.foldlM (addFilter urn) []
        return ⟨id, filters⟩
      | none => .error (.nonNumericId urn)
  else .error (.notMetricUrn urn)

/-- Writes a URN, with the keys in the order of code points. -/
def toUrn (e : MetricEntity) : String :=
  let parts := e.filters.sorted.flatMap fun (key, values) =>
    values.map fun value => s!":{key}={value}"
  urnStart ++ toString e.id ++ String.join parts

end MetricEntity

end AnomalyWindows
