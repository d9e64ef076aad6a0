import AnomalyWindows.Catalog.Store
import AnomalyWindows.Proofs.RunSetup
import AnomalyWindows.Proofs.SortedData
import AnomalyWindows.Proofs.WrittenRecords

/-!
Catalogs in files: which data hold a catalog, which catalog that is, and that a catalog is read back
from what is written down for it.
-/

namespace AnomalyWindows.Proofs.CatalogRoundTrip

open AnomalyWindows.Catalog
open AnomalyWindows.Proofs.WrittenRecords AnomalyWindows.Proofs.RunSetup
open AnomalyWindows.Proofs.SortedData

variable {α : Type}

def IsRecord (entry : Data) : Prop :=
  ∃ r, Record.ofEntry entry = .ok r

def item? (read : Record → Checked α) (entry : Data) : Option α :=
  match Record.ofEntry entry with
  | .ok r =>
    match read r with
    | .valid a => some a
    | .wrong _ => none
  | .error _ => none

def itemsIn (read : Record → Checked α) (entries : List Data) : List α :=
  entries.filterMap (item? read)

theorem apply_addEntries_cons (read : Record → Checked α) (put : α → Catalog → Catalog)
    {entry : Data} {r : Record} (h : Record.ofEntry entry = .ok r) (rest : List Data)
    (c : Catalog) :
    (addEntries read put (entry :: rest)).apply c =
      (addEntries read put rest).apply
        ((itemsIn read [entry]).foldl (fun c a => put a c) c) := by
  rw [addEntries, Act.apply_bind, Act.apply_ofResult, h]
  cases hread : read r with
  | valid a =>
      have hitem : itemsIn read [entry] = [a] := by simp [itemsIn, item?, h, hread]
      simp only [hread, hitem]
      rfl
  | wrong problems =>
      have hitem : itemsIn read [entry] = [] := by simp [itemsIn, item?, h, hread]
      simp only [hread, hitem]
      rfl

theorem apply_addEntries_eq_ok_iff (read : Record → Checked α) (put : α → Catalog → Catalog)
    (entries : List Data) (c c' : Catalog) :
    (addEntries read put entries).apply c = (.ok (), c') ↔
      (∀ entry ∈ entries, IsRecord entry) ∧
        (itemsIn read entries).foldl (fun c a => put a c) c = c' := by
  induction entries generalizing c with
  | nil => simp [addEntries, itemsIn]
  | cons entry rest ih =>
      have hitems : itemsIn read (entry :: rest) = itemsIn read [entry] ++ itemsIn read rest := by
        rw [itemsIn, itemsIn, itemsIn, ← List.filterMap_append, List.singleton_append]
      cases hentry : Record.ofEntry entry with
      | error fault =>
          have hnot : ¬IsRecord entry := by
            rintro ⟨r, hr⟩
            cases hentry.symm.trans hr
          simp [addEntries, Act.apply_bind, hentry, hnot]
      | ok r =>
          rw [apply_addEntries_cons read put hentry, ih, hitems, List.foldl_append,
            List.forall_mem_cons]
          simp [show IsRecord entry from ⟨r, hentry⟩]

theorem apply_addSection_eq_ok_iff (name : String) (read : Record → Checked α)
    (put : α → Catalog → Catalog) (data : Record) (c c' : Catalog) :
    (addSection name read put data).apply c = (.ok (), c') ↔
      ∃ entries, sectionOf name data = .ok entries ∧ (∀ entry ∈ entries, IsRecord entry) ∧
        (itemsIn read entries).foldl (fun c a => put a c) c = c' := by
  rw [addSection, Act.apply_bind, Act.apply_ofResult]
  cases sectionOf name data with
  | error fault => simp
  | ok entries => simp [apply_addEntries_eq_ok_iff]

/-- The entries of the four sections of a catalog. -/
structure Sections where
  datasets : List Data := []
  metrics : List Data := []
  detectors : List Data := []
  detections : List Data := []

namespace Sections

/-- Sections that data hold. -/
structure Of (data : Record) (s : Sections) : Prop where
  datasets : sectionOf datasetsName data = .ok s.datasets
  metrics : sectionOf metricsName data = .ok s.metrics
  detectors : sectionOf detectorsName data = .ok s.detectors
  detections : sectionOf detectionsName data = .ok s.detections

def parts (s : Sections) : Record :=
  entriesOf [(datasetsName, .list s.datasets), (metricsName, .list s.metrics),
    (detectorsName, .list s.detectors), (detectionsName, .list s.detections)]

/-- Only the entries of detectors may be anything. -/
structure AreRecords (s : Sections) : Prop where
  datasets : ∀ entry ∈ s.datasets, IsRecord entry
  metrics : ∀ entry ∈ s.metrics, IsRecord entry
  detections : ∀ entry ∈ s.detections, IsRecord entry

def validDetections (s : Sections) : List Detection :=
  itemsIn (Detection.ofRecord .modelType) s.detections

def catalog (s : Sections) : Catalog where
  datasets := Keyed.ofList Dataset.name (itemsIn (Dataset.ofRecord .modelType) s.datasets)
  metrics := Keyed.ofList Metric.id (itemsIn Metric.ofRecord s.metrics)
  detectors := s.detectors
  detections := Keyed.ofList Detection.name s.validDetections

end Sections

theorem foldl_put {κ : Type} [DecidableEq κ] (key : α → κ) {put : α → Catalog → Catalog}
    (set : List α → Catalog) (hput : ∀ items a, put a (set items) = set (Keyed.put key a items))
    (items : List α) :
    items.foldl (fun c a => put a c) (set []) = set (Keyed.ofList key items) :=
  List.foldl_hom set fun done a => hput done a

theorem foldl_catalog (s : Sections) :
    (itemsIn (Detection.ofRecord .modelType) s.detections).foldl (fun c d => putDetection d c)
      { (itemsIn Metric.ofRecord s.metrics).foldl (fun c m => putMetric m c)
          ((itemsIn (Dataset.ofRecord .modelType) s.datasets).foldl
            (fun c d => putDataset d c) {}) with detectors := s.detectors } = s.catalog := by
  rw [foldl_put Dataset.name (fun datasets => { datasets }) fun _ _ => rfl,
    foldl_put Metric.id (fun metrics => { datasets := _, metrics }) fun _ _ => rfl]
  exact foldl_put Detection.name
    (fun detections => { datasets := _, metrics := _, detectors := _, detections })
    (fun _ _ => rfl) _

theorem apply_addSections_eq_ok_iff (data : Record) (c : Catalog) :
    (addSections data).apply {} = (.ok (), c) ↔
      ∃ s : Sections, s.Of data ∧ s.AreRecords ∧ s.catalog = c := by
  constructor
  · intro h
    obtain ⟨_, c₁, hds, h⟩ := apply_bind_eq_ok_iff.mp h
    obtain ⟨_, c₂, hms, h⟩ := apply_bind_eq_ok_iff.mp h
    obtain ⟨detectors, c₃, hxs, h⟩ := apply_bind_eq_ok_iff.mp h
    obtain ⟨_, c₄, hset, hns⟩ := apply_bind_eq_ok_iff.mp h
    obtain ⟨datasets, hdatasets, hdatasetRecords, rfl⟩ := (apply_addSection_eq_ok_iff ..).mp hds
    obtain ⟨metrics, hmetrics, hmetricRecords, rfl⟩ := (apply_addSection_eq_ok_iff ..).mp hms
    obtain ⟨hdetectors, rfl⟩ := Prod.mk.inj hxs
    obtain ⟨-, rfl⟩ := Prod.mk.inj hset
    obtain ⟨detections, hdetections, hdetectionRecords, rfl⟩ :=
      (apply_addSection_eq_ok_iff ..).mp hns
    exact ⟨⟨datasets, metrics, detectors, detections⟩,
      ⟨hdatasets, hmetrics, hdetectors, hdetections⟩,
      ⟨hdatasetRecords, hmetricRecords, hdetectionRecords⟩, (foldl_catalog _).symm⟩
  · rintro ⟨s, hof, hrecords, rfl⟩
    refine apply_bind_eq_ok_iff.mpr ⟨(), _,
      (apply_addSection_eq_ok_iff ..).mpr ⟨_, hof.datasets, hrecords.datasets, rfl⟩, ?_⟩
    refine apply_bind_eq_ok_iff.mpr ⟨(), _,
      (apply_addSection_eq_ok_iff ..).mpr ⟨_, hof.metrics, hrecords.metrics, rfl⟩, ?_⟩
    refine apply_bind_eq_ok_iff.mpr ⟨s.detectors, _, by rw [Act.apply_ofResult, hof.detectors], ?_⟩
    refine apply_bind_eq_ok_iff.mpr ⟨(), _, Act.apply_change _ _, ?_⟩
    exact (apply_addSection_eq_ok_iff ..).mpr
      ⟨_, hof.detections, hrecords.detections, foldl_catalog s⟩

def partsOf? (data : Data) : Option Record :=
  if data.isPresent then
    match data with
    | .map r => some r
    | _ => none
  else some []

theorem apply_addData_eq_ok_iff (data : Data) (c : Catalog) :
    (addData data).apply {} = (.ok (), c) ↔
      ∃ r, partsOf? data = some r ∧ (addSections r).apply {} = (.ok (), c) := by
  unfold addData partsOf?
  cases data.isPresent with
  | false => simp
  | true => cases data <;> simp

def partsIn? (file : CatalogFile) : Option Record :=
  match file.read with
  | .ok (some data) => partsOf? data
  | .ok none => some []
  | .error _ => none

/-- Reading a file gives a catalog. -/
def Loads (file : CatalogFile) (c : Catalog) : Prop :=
  Store.load.apply (.onFile file) = (.ok (), ⟨file, c, true⟩)

theorem loads_missing : Loads .missing {} := rfl

theorem apply_onCatalog_addData (data : Data) (file : CatalogFile) :
    (Store.onCatalog (addData data)).apply (.onFile file) =
      (((addData data).apply {}).1, ⟨file, ((addData data).apply {}).2, false⟩) := rfl

theorem loads_iff_addSections (file : CatalogFile) (c : Catalog) :
    Loads file c ↔
      ∃ r, partsIn? file = some r ∧ (addSections r).apply {} = (.ok (), c) := by
  have hfile : (Store.onFile file).file = file := rfl
  have hnone : (addSections []).apply {} = (.ok (), {}) := rfl
  unfold Loads partsIn?
  cases hread : file.read with
  | error fault => simp [Store.load, Act.apply_bind, hfile, hread]
  | ok data? =>
      cases data? with
      | none => simp [Store.load, Act.apply_bind, Store.onFile, hread, hnone]
      | some data =>
          simp only [← apply_addData_eq_ok_iff]
          rcases hdata : (addData data).apply {} with ⟨fault | _, c'⟩
          · simp [Store.load, Act.apply_bind, hfile, hread, apply_onCatalog_addData, hdata]
          · simp [Store.load, Act.apply_bind, hfile, hread, apply_onCatalog_addData, hdata]

theorem loads_iff (file : CatalogFile) (c : Catalog) :
    Loads file c ↔
      ∃ r s, partsIn? file = some r ∧ Sections.Of r s ∧ s.AreRecords ∧ s.catalog = c := by
  rw [loads_iff_addSections]
  simp only [apply_addSections_eq_ok_iff, exists_and_left]

def loaded? (file : CatalogFile) : Option Catalog :=
  (partsIn? file).bind fun r =>
    match (addSections r).apply {} with
    | (.ok _, c) => some c
    | (.error _, _) => none

theorem loads_iff_loaded? (file : CatalogFile) (c : Catalog) :
    Loads file c ↔ loaded? file = some c := by
  rw [loads_iff_addSections, loaded?]
  cases partsIn? file with
  | none => simp
  | some r =>
      rcases hr : (addSections r).apply {} with ⟨fault | _, c'⟩
      · simp [hr]
      · simp [hr]

/-- No two items of a catalog have the same key. -/
structure WellKeyed (c : Catalog) : Prop where
  datasets : (c.datasets.map Dataset.name).Nodup
  metrics : (c.metrics.map Metric.id).Nodup
  detections : (c.detections.map Detection.name).Nodup

theorem wellKeyed_of_loads {file : CatalogFile} {c : Catalog} (h : Loads file c) :
    WellKeyed c := by
  obtain ⟨r, s, -, -, -, rfl⟩ := (loads_iff file c).mp h
  exact ⟨Keyed.nodup_ofList .., Keyed.nodup_ofList .., Keyed.nodup_ofList ..⟩

theorem wellKeyed_putDetection {c : Catalog} (h : WellKeyed c) (d : Detection) :
    WellKeyed (c.putDetection d) :=
  ⟨h.datasets, h.metrics, Keyed.nodup_put Detection.name d h.detections⟩

theorem wellKeyed_eraseDetection {c : Catalog} (h : WellKeyed c) (name : String) :
    WellKeyed (c.eraseDetection name) :=
  ⟨h.datasets, h.metrics, Keyed.nodup_erase Detection.name name h.detections⟩

theorem itemsIn_map {read : Record → Checked α} {write : α → Data}
    (h : ∀ a, ReadAs read (write a) a) (items : List α) :
    itemsIn read (items.map write) = items := by
  induction items with
  | nil => rfl
  | cons a rest ih =>
      obtain ⟨r, hr, ha⟩ := h a
      have hitem : item? read (write a) = some a := by
        simp only [item?, hr, ha]
      rw [itemsIn] at ih ⊢
      rw [List.map_cons, List.filterMap_cons, hitem, ih]

theorem isRecord_of_mem_map {read : Record → Checked α} {write : α → Data}
    (h : ∀ a, ReadAs read (write a) a) {items : List α} {entry : Data}
    (hentry : entry ∈ items.map write) : IsRecord entry := by
  obtain ⟨a, -, rfl⟩ := List.mem_map.mp hentry
  obtain ⟨r, hr, -⟩ := h a
  exact ⟨r, hr⟩

def written (c : Catalog) : Sections where
  datasets := c.datasets.map Dataset.toData
  metrics := c.metrics.map fun m => m.toData.withoutNulls
  detectors := c.detectors
  detections := c.detections.map fun d => d.toData.withoutNulls

theorem written_areRecords (c : Catalog) : (written c).AreRecords where
  datasets _ h := isRecord_of_mem_map (readAs_dataset .modelType) h
  metrics _ h := isRecord_of_mem_map readAs_metric h
  detections _ h := isRecord_of_mem_map (readAs_detection .modelType) h

theorem catalog_written {c : Catalog} (h : WellKeyed c) : (written c).catalog = c := by
  rw [Sections.catalog, Sections.validDetections, written, itemsIn_map (readAs_dataset .modelType),
    itemsIn_map readAs_metric, itemsIn_map (readAs_detection .modelType),
    Keyed.ofList_of_nodup _ h.datasets, Keyed.ofList_of_nodup _ h.metrics,
    Keyed.ofList_of_nodup _ h.detections]

def sortedSections (s : Sections) : Sections where
  datasets := s.datasets.map Data.sorted
  metrics := s.metrics.map Data.sorted
  detectors := s.detectors.map Data.sorted
  detections := s.detections.map Data.sorted

theorem sectionOf_sortedRecord {name : String} {r : Record} {items : List Data}
    (h : Data.named? name r = some (.list items)) :
    sectionOf name (sortedRecord r) = .ok (items.map Data.sorted) := by
  rw [sectionOf, section?, named?_sortedRecord, h, ← sortedItems_eq_map]
  rfl

theorem sortedSections_of_parts (s : Sections) :
    Sections.Of (sortedRecord s.parts) (sortedSections s) where
  datasets := sectionOf_sortedRecord rfl
  metrics := sectionOf_sortedRecord rfl
  detectors := sectionOf_sortedRecord rfl
  detections := sectionOf_sortedRecord rfl

theorem itemsIn_map_sorted {read : Record → Checked α} (h : ∀ r, read (sortedRecord r) = read r)
    (entries : List Data) : itemsIn read (entries.map Data.sorted) = itemsIn read entries := by
  rw [itemsIn, itemsIn, List.filterMap_map]
  refine List.filterMap_congr fun entry _ => ?_
  rw [Function.comp_apply, item?, item?, ofEntry_sorted]
  cases Record.ofEntry entry with
  | error fault => rfl
  | ok r =>
      change (match read (sortedRecord r) with | .valid a => some a | .wrong _ => none) = _
      rw [h]

theorem isRecord_sorted {entries : List Data} (h : ∀ entry ∈ entries, IsRecord entry) :
    ∀ entry ∈ entries.map Data.sorted, IsRecord entry := by
  intro _ hentry
  obtain ⟨entry, hmem, rfl⟩ := List.mem_map.mp hentry
  obtain ⟨r, hr⟩ := h entry hmem
  exact ⟨sortedRecord r, by rw [ofEntry_sorted, hr]; rfl⟩

def sortedCatalog (c : Catalog) : Catalog :=
  { c with detectors := c.detectors.map Data.sorted }

theorem catalog_sortedSections (s : Sections) :
    (sortedSections s).catalog = sortedCatalog s.catalog := by
  simp only [Sections.catalog, Sections.validDetections, sortedSections,
    itemsIn_map_sorted (dataset_ofRecord_sorted .modelType),
    itemsIn_map_sorted metric_ofRecord_sorted,
    itemsIn_map_sorted (detection_ofRecord_sorted .modelType)]
  rfl

theorem sortedCatalog_sortedCatalog (c : Catalog) :
    sortedCatalog (sortedCatalog c) = sortedCatalog c := by
  simp only [sortedCatalog, List.map_map, Function.comp_def, sorted_sorted]

/-- What is written down for a catalog can be read again: its integers can be written, and there are
no pairs in it. -/
structure ReadsBack (c : Catalog) : Prop where
  isPlain : c.toData.isPlain = true
  isWritable : c.toData.isWritable = true

/-- What is true of all data but integers, floats, dates, moments and pairs. -/
structure IsMild (p : Data → Bool) : Prop where
  null : p .null = true
  bool : ∀ b, p (.bool b) = true
  text : ∀ s, p (.text s) = true
  list : ∀ items, p (.list items) = true
  map : ∀ entries, p (.map entries) = true

theorem isMild_not_isPair : IsMild fun data => !data.isPair :=
  ⟨rfl, fun _ => rfl, fun _ => rfl, fun _ => rfl, fun _ => rfl⟩

theorem isMild_isShort : IsMild Data.isShort :=
  ⟨rfl, fun _ => rfl, fun _ => rfl, fun _ => rfl, fun _ => rfl⟩

theorem eq_null_of_isNull {data : Data} (h : data.isNull = true) : data = .null := by
  cases data with
  | null => rfl
  | _ => cases h

section Mild

variable {p : Data → Bool} (hp : IsMild p)
include hp

theorem entriesAll_withoutNulls (fields : List (String × Data)) :
    Data.entriesAll p ((entriesOf fields).filter fun entry => !entry.2.isNull) =
      Data.entriesAll p (entriesOf fields) := by
  induction fields with
  | nil => rfl
  | cons field rest ih =>
      obtain ⟨name, value⟩ := field
      change Data.entriesAll p (((.text name, value) :: entriesOf rest).filter _) =
        Data.entriesAll p ((.text name, value) :: entriesOf rest)
      cases hnull : value.isNull with
      | true =>
          obtain rfl := eq_null_of_isNull hnull
          simp [hnull, Data.entriesAll, Data.all, hp.text, hp.null, ih]
      | false => simp [hnull, Data.entriesAll, Data.all, hp.text, ih]

theorem all_ofOption_int (o : Option Int) :
    (Data.ofOption .int o).all p = o.all fun n => p (.int n) := by
  cases o with
  | none => exact hp.null
  | some n => rfl

theorem all_ofOption_text (o : Option String) : (Data.ofOption .text o).all p = true := by
  cases o with
  | none => exact hp.null
  | some s => exact hp.text s

theorem all_granularity (g : Granularity) : g.toData.all p = p (.int g.size) := by
  simp [Granularity.toData, Data.ofFields, Data.all, Data.entriesAll, hp.map, hp.text]

theorem all_dataset (d : Dataset) : d.toData.all p = p (.int d.granularity.size) := by
  simp [Dataset.toData, Data.ofFields, Data.all, Data.entriesAll, hp.map, hp.text,
    all_granularity hp]

theorem all_metric (m : Metric) : m.toData.withoutNulls.all p = p (.int m.id) := by
  rw [Metric.toData, Data.ofFields, Data.withoutNulls, Data.all, hp.map, Bool.true_and]
  refine (entriesAll_withoutNulls hp _).trans ?_
  simp [entriesOf, Data.entriesAll, Data.all, hp.text, all_ofOption_text hp]

theorem all_detection (d : Detection) :
    d.toData.withoutNulls.all p = d.toData.all p := by
  rw [Detection.toData, Data.ofFields, Data.withoutNulls, Data.all, Data.all, hp.map, hp.map]
  exact congrArg (true && ·) (entriesAll_withoutNulls hp _)

theorem all_detection_iff (d : Detection) :
    d.toData.all p = true ↔
      d.id.all (fun n => p (.int n)) = true ∧ p (.int d.windowDelay) = true ∧
        p (.int d.windowSize) = true ∧ p (.int d.frequency.size) = true ∧
        d.cachingPeriodLookback.all (fun n => p (.int n)) = true := by
  simp [Detection.toData, Data.ofFields, Data.all, Data.entriesAll, hp.map, hp.text, hp.bool,
    all_granularity hp, all_ofOption_int hp, all_ofOption_text hp]

theorem all_toData_iff (c : Catalog) :
    c.toData.all p = true ↔
      (∀ d ∈ c.datasets, d.toData.all p = true) ∧
        (∀ m ∈ c.metrics, m.toData.withoutNulls.all p = true) ∧
        (∀ entry ∈ c.detectors, entry.all p = true) ∧
        ∀ d ∈ c.detections, d.toData.all p = true := by
  simp [toData, Data.ofFields, Data.all, Data.entriesAll, hp.list, hp.map, hp.text, itemsAll_eq,
    all_detection hp]

end Mild

theorem isPlain_toData_iff (c : Catalog) :
    c.toData.isPlain = true ↔ ∀ entry ∈ c.detectors, entry.isPlain = true := by
  rw [Data.isPlain, all_toData_iff isMild_not_isPair]
  constructor
  · rintro ⟨-, -, hdetectors, -⟩
    exact hdetectors
  · intro hdetectors
    refine ⟨fun d _ => all_dataset isMild_not_isPair d, fun m _ => all_metric isMild_not_isPair m,
      hdetectors, fun d _ => (all_detection_iff isMild_not_isPair d).mpr ?_⟩
    simp [Data.isPair]

theorem readsBack_iff (c : Catalog) :
    ReadsBack c ↔ (∀ entry ∈ c.detectors, entry.isPlain = true) ∧ c.toData.isWritable = true := by
  rw [← isPlain_toData_iff]
  exact ⟨fun h => ⟨h.isPlain, h.isWritable⟩, fun h => ⟨h.1, h.2⟩⟩

theorem all_toData_sortedCatalog {p : Data → Bool} (hp : IsMild p)
    (hsorted : ∀ data : Data, p data.sorted = p data) (c : Catalog) :
    (sortedCatalog c).toData.all p = c.toData.all p := by
  rw [Bool.eq_iff_iff, all_toData_iff hp, all_toData_iff hp]
  simp only [sortedCatalog, List.forall_mem_map, all_sorted hsorted]

theorem isPlain_sortedCatalog (c : Catalog) :
    (sortedCatalog c).toData.isPlain = c.toData.isPlain :=
  all_toData_sortedCatalog isMild_not_isPair (fun data => by cases data <;> rfl) c

theorem isWritable_sortedCatalog (c : Catalog) :
    (sortedCatalog c).toData.isWritable = c.toData.isWritable :=
  all_toData_sortedCatalog isMild_isShort (fun data => by cases data <;> rfl) c

theorem readsBack_sortedCatalog (c : Catalog) : ReadsBack (sortedCatalog c) ↔ ReadsBack c := by
  constructor
  · exact fun h => ⟨isPlain_sortedCatalog c ▸ h.isPlain, isWritable_sortedCatalog c ▸ h.isWritable⟩
  · exact fun h => ⟨(isPlain_sortedCatalog c).trans h.isPlain,
      (isWritable_sortedCatalog c).trans h.isWritable⟩

theorem partsOf?_sorted {data : Data} {r : Record} (h : data = .map r) (hne : r ≠ []) :
    partsOf? data.sorted = some (sortedRecord r) := by
  have hpresent : (sortedRecord r).isEmpty = false := by
    rw [sortedRecord, (perm_inOrder _).isEmpty_eq, sortedValues_eq_map]
    cases r with
    | nil => exact absurd rfl hne
    | cons entry rest => rfl
  subst h
  change (if (!(sortedRecord r).isEmpty) = true then some (sortedRecord r) else some []) = _
  rw [hpresent]
  rfl

/-- A catalog comes back from the file that it is written to, but for the order of the entries of
its detectors. -/
theorem loads_ofData {c : Catalog} (h : WellKeyed c) (hback : ReadsBack c) :
    Loads (.ofData c.toData) (sortedCatalog c) := by
  have hfile : CatalogFile.ofData c.toData = .saved c.toData.sorted := if_pos hback.isWritable
  have hread : (CatalogFile.saved c.toData.sorted).read = .ok (some c.toData.sorted) :=
    if_pos (by rw [isPlain_sorted, hback.isPlain])
  have hparts : partsIn? (.ofData c.toData) = some (sortedRecord (written c).parts) := by
    rw [partsIn?, hfile, hread]
    exact partsOf?_sorted rfl (List.cons_ne_nil _ _)
  have hrecords := written_areRecords c
  refine (loads_iff _ _).mpr
    ⟨_, sortedSections (written c), hparts, sortedSections_of_parts _, ⟨?_, ?_, ?_⟩, ?_⟩
  · exact isRecord_sorted hrecords.datasets
  · exact isRecord_sorted hrecords.metrics
  · exact isRecord_sorted hrecords.detections
  · rw [catalog_sortedSections, catalog_written h]

theorem exists_loads {file : CatalogFile} {p : Catalog → Bool}
    (h : (loaded? file).any p = true) : ∃ c, Loads file c ∧ p c = true := by
  obtain ⟨c, hloaded, hp⟩ := (Option.any_eq_true _ _).mp h
  exact ⟨c, (loads_iff_loaded? file c).mpr hloaded, hp⟩

def visitsFile : CatalogFile :=
  .text "detectors: [\x7bname: zscore\x7d]
detections: [\x7bname: visits, metric_urn: m, detector: zscore\x7d]"

theorem visitsFile_loads :
    ∃ c, Loads visitsFile c ∧ ReadsBack c ∧ c.detections.map Detection.name = ["visits"] := by
  have h : (loaded? visitsFile).any (fun c => c.toData.isPlain && c.toData.isWritable &&
      c.detections.map Detection.name == ["visits"]) = true := by decide +kernel
  obtain ⟨c, hloads, hc⟩ := exists_loads h
  simp only [Bool.and_eq_true, beq_iff_eq] at hc
  obtain ⟨⟨hplain, hwritable⟩, hnames⟩ := hc
  exact ⟨c, hloads, ⟨hplain, hwritable⟩, hnames⟩

/-- A file with a detector whose parameters hold an ordered mapping. -/
def stagesFile : CatalogFile :=
  .text "detectors: [\x7bname: zscore, parameters: \x7bstages: !!omap [smooth: 7]\x7d\x7d]"

theorem stagesFile_loads :
    ∃ c, Loads stagesFile c ∧ c.toData.isWritable = true ∧ c.toData.isPlain ≠ true ∧
      c.detections = [] := by
  have h : (loaded? stagesFile).any (fun c => c.toData.isWritable && !c.toData.isPlain &&
      c.detections == []) = true := by decide +kernel
  obtain ⟨c, hloads, hc⟩ := exists_loads h
  simp only [Bool.and_eq_true, Bool.not_eq_true', beq_iff_eq] at hc
  obtain ⟨⟨hwritable, hplain⟩, hnone⟩ := hc
  exact ⟨c, hloads, hwritable, ne_true_of_eq_false hplain, hnone⟩

end AnomalyWindows.Proofs.CatalogRoundTrip
