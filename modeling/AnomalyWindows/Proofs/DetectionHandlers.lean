import AnomalyWindows.Proofs.ReopenedStores
import AnomalyWindows.Service.Basic

namespace AnomalyWindows.Proofs.DetectionHandlers

open Calendar
open AnomalyWindows.Proofs.CatalogRoundTrip AnomalyWindows.Proofs.ReopenedStores

def detectionsPath : List Char := "/detections".toList

def pathOf (name : String) : List Char :=
  detectionsPath ++ '/' :: name.toList

/-- A name that is one part of a path. -/
def IsSegment (name : String) : Prop :=
  name ≠ "" ∧ '/' ∉ name.toList

instance (name : String) : Decidable (IsSegment name) :=
  inferInstanceAs (Decidable (_ ∧ _))

theorem partsOf_pathOf {name : String} (h : '/' ∉ name.toList) :
    Route.partsOf (pathOf name) = some ["detections".toList, name.toList] := by
  have hpath : pathOf name = '/' :: ("detections".toList ++ '/' :: name.toList) := rfl
  rw [hpath, Route.partsOf, Text.splitAt_separator, Text.splitAt_append (by decide),
    Text.splitAt_of_not_mem h]

theorem ofPath?_of_parts {path : List Char} {parts : List (List Char)} {route : Route}
    (hparts : Route.partsOf path = some parts) (hroute : Route.ofParts? parts = some route) :
    Route.ofPath? path = some route := by
  rw [Route.ofPath?, Route.ofExactPath?, hparts, Option.bind_some, hroute]
  rfl

theorem ofPath?_pathOf {name : String} (h : IsSegment name) :
    Route.ofPath? (pathOf name) = some (.detection name) := by
  have hlist : name.toList ≠ [] := by simpa using h.1
  refine ofPath?_of_parts (partsOf_pathOf h.2) ?_
  rw [Route.ofParts?, if_pos ⟨rfl, hlist⟩, String.ofList_toList]

def detectionAnswer (d : Detection) : Response :=
  .ofData 200 d.toData

def listAnswer (ds : List Detection) : Response :=
  .ofData 200 (.list (ds.map Detection.toData))

def deletedAnswer (name : String) : Response :=
  .ofData 200 (.ofFields [("message", .text s!"Detection '{name}' deleted")])

@[simp] theorem shown_ofOption_int (o : Option Int) :
    Response.shown (.ofOption .int o) = .ofOption .int o := by
  cases o <;> rfl

@[simp] theorem shown_ofOption_text (o : Option String) :
    Response.shown (.ofOption .text o) = .ofOption .text o := by
  cases o <;> rfl

theorem shown_detection (d : Detection) : Response.shown d.toData = d.toData := by
  simp [Detection.toData, Granularity.toData, Data.ofFields, Response.shown, Response.shownEntries,
    Response.isHidden, Response.hiddenStart]

theorem encodable_int {n : Int} (h : Text.isWritable n = true) :
    Json.encodable (.int n) = .ok () := by
  simp [Json.encodable, Json.scalarEncodable, h]

theorem encodable_ofOption_int {o : Option Int} (h : o.all Text.isWritable = true) :
    Json.encodable (.ofOption .int o) = .ok () := by
  cases o with
  | none => rfl
  | some n => exact encodable_int (by simpa using h)

@[simp] theorem encodable_ofOption_text (o : Option String) :
    Json.encodable (.ofOption .text o) = .ok () := by
  cases o <;> rfl

theorem encodable_detection {d : Detection} (h : d.toData.isWritable = true) :
    Json.encodable d.toData = .ok () := by
  rw [Data.isWritable, all_detection_iff isMild_isShort] at h
  obtain ⟨hid, hdelay, hwindowSize, hfrequency, hlookback⟩ := h
  simp only [Data.isShort] at hid hdelay hwindowSize hfrequency hlookback
  simp [Detection.toData, Granularity.toData, Data.ofFields, Json.encodable, Json.entriesEncodable,
    Json.scalarEncodable, encodable_ofOption_int hid, hdelay, hwindowSize, hfrequency,
    encodable_ofOption_int hlookback, bind, Except.bind]

theorem success_detection {d : Detection} (h : d.toData.isWritable = true) :
    Response.success d.toData = .ok (detectionAnswer d) := by
  rw [Response.success, shown_detection, encodable_detection h]
  rfl

theorem success_detections {ds : List Detection} (h : ∀ d ∈ ds, d.toData.isWritable = true) :
    Response.success (.list (ds.map Detection.toData)) = .ok (listAnswer ds) := by
  have hshown : Response.shownItems (ds.map Detection.toData) = ds.map Detection.toData := by
    clear h
    induction ds with
    | nil => rfl
    | cons d rest ih => rw [List.map_cons, Response.shownItems, shown_detection, ih]
  have hencodable : Json.itemsEncodable (ds.map Detection.toData) = .ok () := by
    induction ds with
    | nil => rfl
    | cons d rest ih =>
        rw [List.map_cons, Response.shownItems, List.cons.injEq] at hshown
        rw [List.forall_mem_cons] at h
        rw [List.map_cons, Json.itemsEncodable, encodable_detection h.1]
        exact ih h.2 hshown.2
  rw [Response.success, Response.shown, hshown, Json.encodable, hencodable]
  rfl

variable {s : Service} {c : Catalog}

theorem apply_onStore_look {α : Type} (h : Loads s.file c) (f : Catalog → α) :
    (Service.onStore (Store.look f)).apply s = (.ok (f c), s) := by
  rw [Service.onStore, Act.apply_within, apply_look (knows_onFile h)]
  rfl

theorem isWritable_of_mem {d : Detection} (h : c.toData.isWritable = true)
    (hd : d ∈ c.detections) : d.toData.isWritable = true :=
  ((all_toData_iff isMild_isShort c).mp h).2.2.2 d hd

theorem apply_listDetections (h : Loads s.file c) (hwritable : c.toData.isWritable = true) :
    Service.listDetections.apply s = (.ok (listAnswer c.detections), s) := by
  rw [Service.listDetections, Act.apply_bind, Store.detections, apply_onStore_look h]
  dsimp only
  rw [Service.success, success_detections fun d => isWritable_of_mem hwritable]
  rfl

theorem apply_getDetection (h : Loads s.file c) (hwritable : c.toData.isWritable = true)
    (name : String) :
    (Service.getDetection name).apply s =
      (.ok ((c.detection? name).elim (.unknownDetection name) detectionAnswer), s) := by
  rw [Service.getDetection, Act.apply_bind, Store.detection?, apply_onStore_look h]
  cases hfound : c.detection? name with
  | none => rfl
  | some d =>
      have hd := isWritable_of_mem hwritable (List.mem_of_find?_eq_some hfound)
      dsimp only
      rw [Service.success, success_detection hd]
      rfl

def withCatalog (c : Catalog) (s : Service) : Service :=
  { s with file := .ofData c.toData }

theorem apply_putDetection (h : Loads s.file c) {d : Detection}
    (hput : (c.putDetection d).toData.isWritable = true) :
    (Service.putDetection d.name d).apply s =
      (.ok (detectionAnswer d), withCatalog (c.putDetection d) s) := by
  have hd := isWritable_of_mem hput (List.mem_of_find?_eq_some
    (Keyed.find?_put_self Detection.name d c.detections))
  rw [Service.putDetection, if_pos rfl, Act.apply_bind, Service.onStore, Act.apply_within,
    apply_save (knows_onFile h), writing_of_isWritable hput]
  dsimp only
  rw [Service.success, success_detection hd]
  rfl

theorem apply_putDetection_fails (h : Loads s.file c) {d : Detection}
    (hput : (c.putDetection d).toData.isWritable ≠ true) :
    ((Service.putDetection d.name d).apply s).1 = .error .integerTooLong := by
  rw [Service.putDetection, if_pos rfl, Act.apply_bind, Service.onStore, Act.apply_within,
    apply_save (knows_onFile h), writing, if_neg hput]

theorem apply_putDetection_of_ne {name : String} {d : Detection} (h : d.name ≠ name)
    (s : Service) :
    (Service.putDetection name d).apply s = (.ok (.nameMismatch d.name name), s) := by
  rw [Service.putDetection, if_neg h]
  rfl

theorem apply_deleteDetection (h : Loads s.file c) {name : String}
    (herased : (c.eraseDetection name).toData.isWritable = true) :
    (Service.deleteDetection name).apply s =
      if (c.detection? name).isSome then
        (.ok (deletedAnswer name), withCatalog (c.eraseDetection name) s)
      else (.ok (.unknownDetection name), s) := by
  rw [Service.deleteDetection, Act.apply_bind, Service.onStore, Act.apply_within,
    apply_delete (knows_onFile h), writing_of_isWritable herased]
  cases c.detection? name with
  | none => rfl
  | some d => rfl

theorem dispatch_of_isSegment [ZoneDatabase] {name : String} (h : IsSegment name) {call : Call}
    (hpath : call.address.path = pathOf name)
    (hmethod : call.method ∈ (Route.detection name).methods) :
    Service.dispatch call = Service.handle call (.detection name) := by
  simp only [Service.dispatch, hpath, ofPath?_pathOf h, List.contains_iff_mem, hmethod, if_true]

def responseOf (result : Except Fault Response) : Response :=
  match result with
  | .ok response => response
  | .error _ => .internalError

theorem answer_of_dispatch [ZoneDatabase] {call : Call} (hmethod : call.method ≠ "HEAD")
    {result : Except Fault Response} {s' : Service}
    (h : (Service.dispatch call).apply s = (result, s')) :
    Service.answer call s = (responseOf result, s') := by
  simp only [Service.answer, h, if_neg hmethod]
  rfl

def serviceOver (file : CatalogFile) : Service where
  settings := {}
  file
  network := ⟨[], []⟩

/-- The numbers that `u` escapes of a text in JSON stand for, and zero for all else. -/
def escapes : List Char → List Nat
  | '\\' :: 'u' :: a :: b :: c :: d :: rest =>
    ((Json.takeHex4? [a, b, c, d]).map (·.1)).getD 0 :: escapes rest
  | '\\' :: _ :: rest => 0 :: escapes rest
  | _ :: rest => 0 :: escapes rest
  | [] => []

def arePaired : List Nat → Bool
  | n :: rest =>
    if 0xd800 ≤ n ∧ n ≤ 0xdbff then
      match rest with
      | low :: rest => 0xdc00 ≤ low && low ≤ 0xdfff && arePaired rest
      | [] => false
    else !(0xdc00 ≤ n && n ≤ 0xdfff) && arePaired rest
  | [] => true

/-- No half of a surrogate pair is escaped alone, which no text could keep. -/
def IsPaired (body : Option String) : Prop :=
  ∀ text ∈ body, arePaired (escapes text.toList) = true

theorem isPaired_some {text : String} (h : arePaired (escapes text.toList) = true) :
    IsPaired (some text) := by
  simpa [IsPaired] using h

def hourlyBody : String :=
  "\x7b\"name\":\"hourly\",\"metric_urn\":\"m\",\"detector\":\"d\"\x7d"

def weeklyBody : String :=
  "\x7b\"name\":\"weekly\",\"metric_urn\":\"m\",\"detector\":\"d\"\x7d"

theorem exists_ok_of_any {ε α : Type} {result : Except ε α} {p : α → Bool}
    (h : result.toOption.any p = true) : ∃ a, result = .ok a ∧ p a = true := by
  cases result with
  | error e => cases h
  | ok a => exact ⟨a, rfl, h⟩

end AnomalyWindows.Proofs.DetectionHandlers
