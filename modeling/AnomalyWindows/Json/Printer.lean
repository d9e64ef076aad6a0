import AnomalyWindows.Data
import AnomalyWindows.Fault
import AnomalyWindows.Text.Hex

namespace AnomalyWindows.Json

open Calendar Text

def escape (c : Char) : List Char :=
  match c with
  | '"' => ['\\', '"']
  | '\\' => ['\\', '\\']
  | '\n' => ['\\', 'n']
  | '\r' => ['\\', 'r']
  | '\t' => ['\\', 't']
  | '\x08' => ['\\', 'b']
  | '\x0c' => ['\\', 'f']
  | c =>
    if c.toNat < 32 then ['\\', 'u', '0', '0', hexDigit (c.toNat / 16), hexDigit (c.toNat % 16)]
    else [c]

def quoted (s : String) : String :=
  "\"" ++ String.ofList (s.toList.flatMap escape) ++ "\""

/-- The text of a scalar. Dates and moments are written in their ISO form. -/
def scalarText : Data → String
  | .bool b => if b then "true" else "false"
  | .int n => toString n
  | .float x => Number.floatText x
  | .text s => quoted s
  | .date d => quoted d.text
  | .moment m => quoted m.iso
  | _ => "null"

def keyText : Data → String
  | .text s => quoted s
  | .date d => quoted d.text
  | .moment m => quoted m.iso
  | key => "\"" ++ scalarText key ++ "\""

mutual

def text : Data → String
  | .list items => "[" ++ ",".intercalate (texts items) ++ "]"
  | .pair key value => "[" ++ text key ++ "," ++ text value ++ "]"
  | .map entries => "\x7b" ++ ",".intercalate (entryTexts entries) ++ "\x7d"
  | data => scalarText data

def texts : List Data → List String
  | [] => []
  | item :: rest => text item :: texts rest

def entryTexts : List (Data × Data) → List String
  | [] => []
  | (key, value) :: rest => (keyText key ++ ":" ++ text value) :: entryTexts rest

end

/-- Whether a scalar has a form in JSON: dates and moments have none, and neither have integers that
are too long and numbers that are not finite. -/
def scalarEncodable : Data → Except Fault Unit
  | .date _ | .moment _ => .error .wrongKind
  | .int n => if isWritable n then .ok () else .error .integerTooLong
  | .float x =>
    if x.isNaN || x.isInf then .error (.unusableValue "number is not finite") else .ok ()
  | _ => .ok ()

mutual

/-- The first thing in data that has no form in JSON, if there is one. -/
def encodable : Data → Except Fault Unit
  | .list items => itemsEncodable items
  | .pair key value => do
    encodable key
    encodable value
  | .map entries => entriesEncodable entries
  | data => scalarEncodable data

def itemsEncodable : List Data → Except Fault Unit
  | [] => .ok ()
  | item :: rest => do
    encodable item
    itemsEncodable rest

def entriesEncodable : List (Data × Data) → Except Fault Unit
  | [] => .ok ()
  | (key, value) :: rest => do
    scalarEncodable key
    encodable value
    entriesEncodable rest

end

end AnomalyWindows.Json
