import AnomalyWindows.Detection
import AnomalyWindows.Metric.Urn

namespace AnomalyWindows

namespace Filters

/-- The matcher of one dimension: equality for one value, else an alternation. -/
def matcher (key : String) (values : List String) : String :=
  match values with
  | [value] => key ++ "=\"" ++ value ++ "\""
  | _ => key ++ "=~\"" ++ "|".intercalate values ++ "\""

def matchers (filters : Filters) : List String :=
  filters.sorted.map fun (key, values) => matcher key values

end Filters

namespace Metric

def labelled (text : String) (labels : List String) : String :=
  text ++ "\x7b" ++ ",".intercalate labels ++ "\x7d"

/-- What the selector of a metric starts from: its query, or its name if the query is missing or
empty. -/
def base (metric : Metric) : String :=
  (metric.query.filter (· != "")).getD metric.name

/-- The selector of a metric under filters. Matchers go behind those that the query has. -/
def selector (metric : Metric) (filters : Filters) : Except Fault String :=
  if filters.isEmpty then .ok metric.base
  else
    let cs := metric.base.toList
    if cs.getLast? = some '\x7d' then
      match cs.span (· != '\x7b') with
      | (name, _ :: rest) =>
        let inner := String.ofList rest.dropLast
        .ok (labelled (String.ofList name)
          ((if inner = "" then [] else [inner]) ++ filters.matchers))
      | _ => .error .noOpeningBrace
    else .ok (labelled metric.base filters.matchers)

end Metric

end AnomalyWindows
