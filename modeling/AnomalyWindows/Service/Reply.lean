import AnomalyWindows.Network

namespace AnomalyWindows.Response

/-- Names of entries that are kept from readers start like this. -/
def hiddenStart : String := "_sa"

def isHidden : Data → Bool
  | .text name => hiddenStart.toList.isPrefixOf name.toList
  | _ => false

mutual

def shown : Data → Data
  | .list items => .list (shownItems items)
  | .pair key value => .pair (shown key) (shown value)
  | .map entries => .map (shownEntries entries)
  | data => data

def shownItems : List Data → List Data
  | [] => []
  | item :: rest => shown item :: shownItems rest

def shownEntries : List (Data × Data) → List (Data × Data)
  | [] => []
  | (key, value) :: rest =>
    if isHidden key then shownEntries rest else (key, shown value) :: shownEntries rest

end

def ofData (status : Int) (data : Data) : Response :=
  ⟨status, Json.text data⟩

/-- The response to a call that succeeds. Data without a form in JSON cannot be answered. -/
def success (data : Data) : Except Fault Response := do
  let data := shown data
  Json.encodable data
  return ofData 200 data

def refusal (status : Int) (detail : String) : Response :=
  ofData status (.ofFields [("detail", .text detail)])

def notFound : Response := refusal 404 "Not Found"
def methodNotAllowed : Response := refusal 405 "Method Not Allowed"
def unreadableBody : Response := refusal 400 "There was an error parsing the body"

/-- The response to a call that meets with a fault nobody expects. -/
def internalError : Response := ⟨500, "Internal Server Error"⟩

def unknownDetection (name : String) : Response :=
  refusal 404 s!"Detection '{name}' not found"

def nameMismatch (given wanted : String) : Response :=
  refusal 400 s!"Detection name '{given}' does not match '{wanted}'"

def stepData : PathStep → Data
  | .field name => .text name
  | .offset position => .int position

def problemData (p : Problem) : Data :=
  .ofFields [("loc", .list (p.path.map stepData)), ("type", .text p.kind.name)]

def unprocessable (problems : List Problem) : Response :=
  ofData 422 (.ofFields [("detail", .list (problems.map problemData))])

/-- The response to a run that failed, if the fault is one that is told. Faults in what was handed
over or in the catalog are told apart from detections that found nothing usable. -/
def ofFault? (fault : Fault) : Option Response :=
  match fault with
  | .configuration cause => some (refusal 400 cause.message)
  | .aborted _ _ | .failed _ _ => some (refusal 502 fault.message)
  | fault => if fault.isUnusableValue then some (refusal 400 fault.message) else none

end AnomalyWindows.Response
