import AnomalyWindows.Anomaly
import AnomalyWindows.Calendar.IsoReader
import AnomalyWindows.Calendar.Timestamp

namespace AnomalyWindows.Detector

open Calendar

def offsetsForZulu (cs : List Char) : List Char :=
  cs.flatMap fun c => if c = 'Z' then "+00:00".toList else [c]

/-- A moment in an answer: a count of milliseconds, or a text in ISO form, which is of UTC if it
tells no offset. -/
def momentOf (data : Data) : Except Fault Moment :=
  match data with
  | .text s =>
    match IsoReader.ofText? (offsetsForZulu s.toList) with
    | some m => .ok (if m.isNaive then { m with clock := .utc } else m)
    | none => .error (.notIsoTime s)
  | data =>
    match data.float? with
    | some x => Moment.ofSeconds (x / 1000.0)
    | none => .error .noNamedParts

/-- The two parts of an item that stands for an entry. -/
def pairOf (item : Data) : Except Fault (Data × Data) :=
  match item.parts? with
  | some [key, value] =>
    match key with
    | .list _ | .map _ => .error .wrongKind
    | key => .ok (key, value)
  | some _ => .error (.unusableValue "not a pair")
  | none => .error .wrongKind

/-- Properties: a map, or what can be visited as pairs of names and values. -/
def propertiesOf (data : Data) : Except Fault (List (Data × Data)) :=
  match data with
  | .map entries => .ok entries
  | data =>
    match data.parts? with
    | some items => do
      let pairs ← items.mapM pairOf
      return pairs.foldl (fun entries (k, v) => Data.put k v entries) []
    | none => .error .wrongKind

def fieldOf (entries : List (Data × Data)) (name : String) : Except Fault Data :=
  match Data.named? name entries with
  | some value => .ok value
  | none => .error (.missingKey name)

def anomalyOf (item : Data) : Except Fault Anomaly :=
  match item with
  | .map entries => do
    let start ← momentOf (← fieldOf entries "start")
    let finish ← momentOf (← fieldOf entries "end")
    let score := (Data.named? "score" entries).getD .null
    let properties ← propertiesOf ((Data.named? "properties" entries).getD (.map []))
    Anomaly.between start finish properties score
  | _ => .error .wrongKind

/-- The status of a detector without the data to look at a window. -/
def insufficientStatus : String := "insufficient_data"

def anomaliesOf (window : String) (answer : Data) : Except Fault (List Anomaly) :=
  match answer with
  | .map entries =>
    match Data.named? "status" entries with
    | some (.text s) =>
      if s = insufficientStatus then .error (.insufficientData (.reported window))
      else listed entries
    | _ => listed entries
  | _ => .error .noNamedParts
where
  listed (entries : List (Data × Data)) : Except Fault (List Anomaly) :=
    match ((Data.named? "anomalies" entries).getD (.list [])).parts? with
    | some items => items.mapM anomalyOf
    | none => .error .wrongKind

end AnomalyWindows.Detector
