import AnomalyWindows.Detector.Answer
import AnomalyWindows.Interval
import AnomalyWindows.Network
import AnomalyWindows.Validation.Scalar

/-!
Remote detectors, which are asked about one window after another over the network.
-/

namespace AnomalyWindows

namespace Data

def readTexts : Data → Checked (List (String × String))
  | map entries => entries.foldr (fun (key, value) rest =>
      let name := match key with | text s => s | _ => ""
      let keyChecked : Checked String := match key with
        | text s => .valid s
        | _ => (Checked.wrongKind .stringType : Checked String).inField "[key]"
      let entry := Prod.mk <$> keyChecked <*> readText value
      List.cons <$> entry.inField name <*> rest) (.valid [])
  | _ => .wrongKind .dictType

def readMap (textKeys : Bool) : Data → Checked (List (Data × Data))
  | map entries =>
    if textKeys then
      entries.foldr (fun (key, value) rest =>
        let entry : Checked (Data × Data) := match key with
          | text _ => .valid (key, value)
          | _ => (Checked.wrongKind .stringType : Checked (Data × Data)).inField "[key]"
        List.cons <$> entry <*> rest) (.valid [])
    else .valid entries
  | _ => .wrongKind .dictType

end Data

structure RemoteDetector where
  endpoint : String
  parameters : List (Data × Data)
  client : Client

namespace RemoteDetector

/-- The seconds after which an exchange is given up, unless told otherwise. -/
def usualTimeout : Float := 30.0

def make (name endpoint : String) (timeout : Float) (headers : List (String × String))
    (parameters : List (Data × Data)) : RemoteDetector :=
  ⟨endpoint, parameters, { peer := .detector name, timeout, headers }⟩

def ofRecord (name : String) (r : Record) : Checked RemoteDetector :=
  make name
    <$> r.required "endpoint" Data.readText
    <*> r.optional "timeout" Data.readFloat usualTimeout
    <*> r.optional "headers" Data.readTexts []
    <*> r.optional "parameters" (Data.readMap false) []

def question (d : RemoteDetector) (window : Window) (urn : String) : Data :=
  .ofFields [("metric_urn", .text urn), ("start", .text window.start.iso),
    ("end", .text window.finish.iso), ("parameters", .map d.parameters)]

def readResponse (window : Window) (r : Response) : Except Fault (List Anomaly) :=
  if r.status = 422 then .error (.insufficientData (.rejected window.text r.body))
  else do
    let r ← r.successful
    Detector.anomaliesOf window.text (← r.data)

def ask (d : RemoteDetector) (window : Window) (urn : String) (n : Network) :
    Except Fault (List Anomaly) × RemoteDetector × Network :=
  let question := d.question window urn
  let (client, n) := d.client.ready n
  let d := { d with client }
  match Json.encodable question with
  | .error fault => (.error fault, d, n)
  | .ok _ =>
    let (result, n) := d.client.send (.ofAddress "POST" d.endpoint (some question)) n
    (result.bind (readResponse window), d, n)

def close (d : RemoteDetector) (n : Network) : RemoteDetector × Network :=
  let (client, n) := d.client.close n
  ({ d with client }, n)

end RemoteDetector

end AnomalyWindows
