import AnomalyWindows.Execution
import AnomalyWindows.Service.Reply
import AnomalyWindows.Service.Route
import AnomalyWindows.Validation.Moment

/-!
The service: detections of a catalog are listed, changed and run by calls. Every call opens the
catalog anew. What a call needs is checked before anything is done; a fault that nobody expects is
answered without a word about it.
-/

namespace AnomalyWindows

open Calendar

variable [ZoneDatabase]

structure Call where
  method : String
  address : Address
  body : Option String := none

/-- A run that is left to the background worker. -/
structure Dispatch where
  detection : String
  start : String
  finish : String
  deriving DecidableEq, Repr

structure Service where
  settings : Settings
  file : CatalogFile
  network : Network
  /-- The runs left to the background worker, the last one first. -/
  dispatched : List Dispatch := []

namespace Call

def queryRecord (c : Call) : Record :=
  c.address.query.foldl (fun r (name, value) => Data.put (.text name) (.text value) r) []

/-- A value, or the response to values that are wrong. `place` tells where the values were. -/
def checked {α : Type} (place : String) (value : Checked α) : Except Response α :=
  match value.inField place with
  | .valid a => .ok a
  | .wrong problems => .error (.unprocessable problems)

def bounds (c : Call) : Except Response (Moment × Moment) :=
  let moment (name : String) := c.queryRecord.required name Moment.ofData
  checked "query" (Prod.mk <$> moment "start" <*> moment "end")

def data (c : Call) : Except Response Data :=
  match c.body.filter (· != "") with
  | none => .ok .null
  | some text =>
    match Json.ofText text with
    | .ok data => .ok data
    | .error (.notJson f) =>
      .error (.unprocessable [⟨[.field "body", .offset f.position], .jsonInvalid⟩])
    | .error _ => .error .unreadableBody

def read {α : Type} (reader : Data → Checked α) (c : Call) : Except Response α := do
  match ← c.data with
  | .null => throw (.unprocessable [⟨[.field "body"], .missing⟩])
  | data => checked "body" (reader data)

end Call

/-- A detection that comes with the bounds of its run. -/
structure AdHoc where
  detection : Detection
  start : Moment
  finish : Moment

def AdHoc.ofRecord (r : Record) : Checked AdHoc :=
  AdHoc.mk
    <$> r.required "spec" (Detection.ofData .modelAttributesType)
    <*> r.required "start" Moment.ofData
    <*> r.required "end" Moment.ofData

def AdHoc.ofData : Data → Checked AdHoc :=
  Data.record .modelAttributesType AdHoc.ofRecord

namespace Service

def onStore {α : Type} (a : Act Store α) : Act Service α :=
  a.within (fun s => .onFile s.file) fun store s => { s with file := store.file }

/-- An action on the catalog, opened anew, and the network. -/
def onSite {α : Type} (a : Act Site α) : Act Service α :=
  a.within (fun s => ⟨.onFile s.file, s.network⟩) fun site s =>
    { s with file := site.store.file, network := site.network }

def orRefuse {α : Type} (value : Except Response α) (handler : α → Act Service Response) :
    Act Service Response :=
  match value with
  | .ok a => handler a
  | .error response => return response

def success (data : Data) : Act Service Response :=
  Act.ofResult (Response.success data)

def version : String := "0.1.0"

def health : Act Service Response :=
  success (.ofFields [("status", .text "ok"), ("version", .text version)])

def listDetections : Act Service Response := do
  let detections ← onStore Store.detections
  success (.list (detections.map Detection.toData))

def getDetection (name : String) : Act Service Response := do
  match ← onStore (Store.detection? name) with
  | some d => success d.toData
  | none => return .unknownDetection name

def putDetection (name : String) (d : Detection) : Act Service Response := do
  if d.name = name then
    onStore (Store.save d)
    success d.toData
  else return .nameMismatch d.name name

def deleteDetection (name : String) : Act Service Response := do
  if ← onStore (Store.delete name) then
    success (.ofFields [("message", .text s!"Detection '{name}' deleted")])
  else return .unknownDetection name

def outcomeResponse (result : Except Fault Outcome) : Act Service Response :=
  match result with
  | .ok outcome => success outcome.toData
  | .error fault =>
    match Response.ofFault? fault with
    | some response => return response
    | none => throw fault

def runNamed (settings : Settings) (name : String) (start finish : Moment) :
    Act Site (Option (Except Fault Outcome)) := do
  match ← Site.onStore (Store.detection? name) with
  | some d => return some (← (Site.execute settings d start finish).attempt)
  | none => return none

def runDetection (name : String) (start finish : Moment) : Act Service Response := do
  let settings ← Act.look Service.settings
  match ← onSite (runNamed settings name start finish) with
  | some result => outcomeResponse result
  | none => return .unknownDetection name

def taskId : String := "task-id"

/-- Leaves a run to the background worker, who alone looks whether the detection is there. -/
def scheduleDetection (name : String) (start finish : Moment) : Act Service Response := do
  Act.change fun s => { s with dispatched := ⟨name, start.iso, finish.iso⟩ :: s.dispatched }
  success (.ofFields [("message", .text "Detection run triggered"), ("task_id", .text taskId)])

def executeAdHoc (a : AdHoc) : Act Service Response := do
  let settings ← Act.look Service.settings
  outcomeResponse (← onSite (Site.execute settings a.detection a.start a.finish).attempt)

def handle (c : Call) : Route → Act Service Response
  | .health => health
  | .detections => listDetections
  | .detection name =>
    if c.method = "PUT" then
      orRefuse (c.read (Detection.ofData .modelAttributesType)) (putDetection name)
    else if c.method = "DELETE" then deleteDetection name
    else getDetection name
  | .run name => orRefuse c.bounds fun (start, finish) => runDetection name start finish
  | .schedule name => orRefuse c.bounds fun (start, finish) => scheduleDetection name start finish
  | .execution => orRefuse (c.read AdHoc.ofData) executeAdHoc

def dispatch (c : Call) : Act Service Response :=
  match Route.ofPath? c.address.path with
  | some route =>
    if route.methods.contains c.method then handle c route else return .methodNotAllowed
  | none => return .notFound

/-- Answers a call. Calls that ask for the head alone get no body. -/
def answer (c : Call) (s : Service) : Response × Service :=
  let (result, s) := (dispatch c).apply s
  let response := match result with
    | .ok response => response
    | .error _ => .internalError
  (if c.method = "HEAD" then { response with body := "" } else response, s)

def taskMoment (text : String) : Except Fault Moment :=
  match IsoReader.ofText? text.toList with
  | some m => .ok m
  | none => .error (.notIsoTime text)

/-- A run by the background worker. A detection that is not there has no outcome. -/
def task (name start finish : String) : Act Service (Option Outcome) := do
  let settings ← Act.look Service.settings
  onSite do
    match ← Site.onStore (Store.detection? name) with
    | some d =>
      let start ← Act.ofResult (taskMoment start)
      let finish ← Act.ofResult (taskMoment finish)
      return some (← Site.execute settings d start finish)
    | none => return none

end Service

end AnomalyWindows
