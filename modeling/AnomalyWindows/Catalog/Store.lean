import AnomalyWindows.Catalog.Basic
import AnomalyWindows.Data.Order
import AnomalyWindows.Yaml.Reader

/-!
A catalog kept in a file. The file is read when the catalog is first asked for, and again as long as
that fails; every change is written back as a whole.
-/

namespace AnomalyWindows

/-- What lies behind a catalog: nothing, a text, or data that were written down. -/
inductive CatalogFile
  | missing
  | text (content : String)
  | saved (data : Data)

namespace CatalogFile

/-- What a file holds once data are written to it: the entries of maps stand in the order of their
keys. Integers that are too long cannot be written, and nothing else is then. -/
def ofData (data : Data) : CatalogFile :=
  if data.isWritable then .saved data.sorted else .text ""

/-- The data of a file, if there is one. Pairs that were written down cannot be read. -/
def read : CatalogFile → Except Fault (Option Data)
  | missing => .ok none
  | text content => (Yaml.ofText content).map some
  | saved data => if data.isPlain then .ok (some data) else .error .notYaml

end CatalogFile

structure Store where
  file : CatalogFile
  catalog : Catalog := {}
  isLoaded : Bool := false

namespace Store

def onFile (file : CatalogFile) : Store := { file }

def reopen (s : Store) : Store := onFile s.file

def onCatalog {α : Type} (a : Act Catalog α) : Act Store α :=
  a.within Store.catalog fun catalog s => { s with catalog }

/-- Reads the file. A missing one holds nothing. -/
def load : Act Store Unit := do
  let file ← Act.look Store.file
  match ← Act.ofResult file.read with
  | some data => onCatalog (Catalog.addData data)
  | none => pure ()
  Act.change fun s => { s with isLoaded := true }

def ready : Act Store Unit := do
  if !(← Act.look Store.isLoaded) then load

def look {α : Type} (f : Catalog → α) : Act Store α := do
  ready
  Act.look fun s => f s.catalog

def metric? (id : Int) : Act Store (Option Metric) :=
  look (Catalog.metric? id)

def dataset? (name : String) : Act Store (Option Dataset) :=
  look (Catalog.dataset? name)

def detectors : Act Store (List Data) :=
  look Catalog.detectors

def detections : Act Store (List Detection) :=
  look Catalog.detections

def detection? (name : String) : Act Store (Option Detection) :=
  look (Catalog.detection? name)

def commit (f : Catalog → Catalog) : Act Store Unit := do
  Act.change fun s => { s with catalog := f s.catalog, file := .ofData (f s.catalog).toData }
  if !(← Act.look fun s => s.catalog.toData.isWritable) then throw .integerTooLong

def save (d : Detection) : Act Store Unit := do
  ready
  commit (Catalog.putDetection d)

def delete (name : String) : Act Store Bool := do
  match ← detection? name with
  | some _ =>
    commit (Catalog.eraseDetection name)
    return true
  | none => return false

end Store

end AnomalyWindows
