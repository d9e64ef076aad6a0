import AnomalyWindows.Detector.Remote
import AnomalyWindows.Keyed

namespace AnomalyWindows.Detector

structure Config where
  name : String
  type : String
  endpoint : Option String
  timeout : Float
  headers : List (String × String)
  parameters : List (Data × Data)

def remoteType : String := "remote"

def Config.ofRecord (r : Record) : Checked Config :=
  Config.mk
    <$> r.required "name" Data.readText
    <*> r.optional "type" Data.readText remoteType
    <*> r.optional "endpoint" (Data.orNull Data.readText) none
    <*> r.optional "timeout" Data.readFloat RemoteDetector.usualTimeout
    <*> r.optional "headers" Data.readTexts []
    <*> r.optional "parameters" (Data.readMap true) []

def Config.build (c : Config) : Except Fault RemoteDetector :=
  if c.type = remoteType then
    match c.endpoint.filter (· != "") with
    | some endpoint => .ok (.make c.name endpoint c.timeout c.headers c.parameters)
    | none => .error (.configuration (.endpointRequired c.name))
  else .error (.configuration (.unknownDetectorType c.type))

/-- Reads an entry. What is no record at all is refused in another way than a wrong one. -/
def configOf (entry : Data) : Except Fault Config := do
  match Config.ofRecord (← Record.ofEntry entry) with
  | .valid c => return c
  | .wrong _ => throw (.configuration .invalidDetector)

/-- Detectors under their names, in the order in which the names came up. -/
abbrev Registry := List (String × RemoteDetector)

namespace Registry

/-- A detector set under a name: in the place of one that is there, else at the end. -/
def put (name : String) (d : RemoteDetector) (r : Registry) : Registry :=
  Keyed.put Prod.fst (name, d) r

def find? (name : String) (r : Registry) : Option RemoteDetector :=
  (Keyed.find? Prod.fst name r).map (·.2)

def names (r : Registry) : List String := List.map (·.1) r

def add (r : Registry) (entry : Data) : Except Fault Registry := do
  let config ← configOf entry
  let detector ← config.build
  return r.put config.name detector

def ofEntries (entries : List Data) : Except Fault Registry :=
  entries.foldlM add []

def close : Registry → Network → Registry × Network
  | [], n => ([], n)
  | (name, d) :: rest, n =>
    let (d, n) := d.close n
    let (rest, n) := close rest n
    ((name, d) :: rest, n)

end Registry

end AnomalyWindows.Detector
