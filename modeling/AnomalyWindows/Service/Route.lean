import AnomalyWindows.Service.Address

namespace AnomalyWindows

inductive Route
  | health
  | detections
  | detection (name : String)
  | run (name : String)
  | schedule (name : String)
  | execution
  deriving DecidableEq, Repr

namespace Route

/-- Whether the last part of a path is a word. A line feed at the end of a path does not count. -/
def isLast (word : String) (part : List Char) : Bool :=
  part == word.toList || part == word.toList ++ ['\n']

def partsOf (path : List Char) : Option (List (List Char)) :=
  match Text.splitAt '/' path with
  | [] :: parts => some parts
  | _ => none

def ofParts? : List (List Char) → Option Route
  | [last] =>
    if isLast "health" last then some .health
    else if isLast "detections" last then some .detections
    else none
  | [first, last] =>
    if first = "detections".toList ∧ last ≠ [] then some (.detection (String.ofList last))
    else if first = "execute".toList ∧ isLast "detection" last then some .execution
    else none
  | [first, name, last] =>
    if first = "detections".toList ∧ name ≠ [] then
      if isLast "run" last then some (.run (String.ofList name))
      else if isLast "schedule" last then some (.schedule (String.ofList name))
      else none
    else none
  | _ => none

def ofExactPath? (path : List Char) : Option Route :=
  (partsOf path).bind ofParts?

def withoutSlashes (path : List Char) : List Char :=
  (path.reverse.dropWhile (· == '/')).reverse

/-- What a path leads to. Slashes at the end of a path that leads nowhere do not count. -/
def ofPath? (path : List Char) : Option Route :=
  (ofExactPath? path).orElse fun _ => ofExactPath? (withoutSlashes path)

def methods : Route → List String
  | health | detections => ["GET"]
  | detection _ => ["GET", "PUT", "DELETE"]
  | run _ | schedule _ | execution => ["POST"]

end Route

end AnomalyWindows
