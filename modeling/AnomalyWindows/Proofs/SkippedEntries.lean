import AnomalyWindows.Proofs.ReopenedStores

namespace AnomalyWindows.Proofs.SkippedEntries

open AnomalyWindows.Catalog
open AnomalyWindows.Proofs.RunSetup AnomalyWindows.Proofs.CatalogRoundTrip
open AnomalyWindows.Proofs.ReopenedStores

variable {α κ : Type} [DecidableEq κ]

/-- A list keeps of others the last item of every key, once, and nothing else. -/
structure KeepsLast (key : α → κ) (items kept : List α) : Prop where
  mem_iff : ∀ a, a ∈ kept ↔ items.reverse.find? (fun b => key b = key a) = some a
  nodup : (kept.map key).Nodup
  found : ∀ k, Keyed.find? key k kept = items.reverse.find? fun a => key a = k

theorem keepsLast_ofList (key : α → κ) (items : List α) :
    KeepsLast key items (Keyed.ofList key items) where
  mem_iff a := by
    rw [← Keyed.find?_ofList key (key a) items]
    exact ⟨Keyed.find?_of_mem key (Keyed.nodup_ofList key items), List.mem_of_find?_eq_some⟩
  nodup := Keyed.nodup_ofList key items
  found k := Keyed.find?_ofList key k items

/-- A catalog keeps the valid entries of sections. -/
structure KeepsValid (s : Sections) (c : Catalog) : Prop where
  datasets : KeepsLast Dataset.name (itemsIn (Dataset.ofRecord .modelType) s.datasets) c.datasets
  metrics : KeepsLast Metric.id (itemsIn Metric.ofRecord s.metrics) c.metrics
  detections : KeepsLast Detection.name s.validDetections c.detections

theorem keepsValid_catalog (s : Sections) : KeepsValid s s.catalog where
  datasets := keepsLast_ofList ..
  metrics := keepsLast_ofList ..
  detections := keepsLast_ofList ..

theorem ofEntry_eq_error {entry : Data} (h : ¬ IsRecord entry) :
    Record.ofEntry entry = .error .wrongKind := by
  cases entry with
  | map r =>
      rw [Record.ofEntry]
      split
      · next hnames => exact absurd ⟨r, if_pos hnames⟩ h
      · rfl
  | _ => rfl

theorem apply_addEntries_of_not_record (read : Record → Checked α) (put : α → Catalog → Catalog)
    {entries : List Data} (h : ¬ ∀ entry ∈ entries, IsRecord entry) (c : Catalog) :
    ∃ c', (addEntries read put entries).apply c = (.error .wrongKind, c') := by
  induction entries generalizing c with
  | nil => simp at h
  | cons entry rest ih =>
      by_cases hentry : IsRecord entry
      · obtain ⟨r, hr⟩ := hentry
        rw [apply_addEntries_cons read put hr]
        exact ih (fun hrest => h (List.forall_mem_cons.mpr ⟨⟨r, hr⟩, hrest⟩)) _
      · refine ⟨c, ?_⟩
        rw [addEntries, Act.apply_bind, Act.apply_ofResult, ofEntry_eq_error hentry]

theorem apply_addSection_cases {name : String} (read : Record → Checked α)
    (put : α → Catalog → Catalog) {data : Record} {entries : List Data}
    (hentries : sectionOf name data = .ok entries) (c : Catalog) :
    (∃ c', (∀ entry ∈ entries, IsRecord entry) ∧
        (addSection name read put data).apply c = (.ok (), c')) ∨
      ∃ c', (addSection name read put data).apply c = (.error .wrongKind, c') := by
  by_cases hrecords : ∀ entry ∈ entries, IsRecord entry
  · exact .inl ⟨_, hrecords,
      (apply_addSection_eq_ok_iff ..).mpr ⟨entries, hentries, hrecords, rfl⟩⟩
  · obtain ⟨c', h⟩ := apply_addEntries_of_not_record read put hrecords c
    refine .inr ⟨c', ?_⟩
    rw [addSection, Act.apply_bind, Act.apply_ofResult, hentries]
    exact h

theorem apply_addSections_of_not_records {data : Record} {s : Sections} (hof : s.Of data)
    (h : ¬ s.AreRecords) (c : Catalog) :
    ∃ c', (addSections data).apply c = (.error .wrongKind, c') := by
  rcases apply_addSection_cases (Dataset.ofRecord .modelType) putDataset hof.datasets c with
    ⟨c₁, hdatasets, h₁⟩ | ⟨c₁, h₁⟩
  swap
  · exact ⟨c₁, apply_bind_eq_error_iff.mpr (.inl h₁)⟩
  rcases apply_addSection_cases Metric.ofRecord putMetric hof.metrics c₁ with
    ⟨c₂, hmetrics, h₂⟩ | ⟨c₂, h₂⟩
  swap
  · exact ⟨c₂, apply_bind_eq_error_iff.mpr (.inr ⟨(), c₁, h₁,
      apply_bind_eq_error_iff.mpr (.inl h₂)⟩)⟩
  -- the entries of detectors are taken as they are, so it is a detection that fails
  rcases apply_addSection_cases (Detection.ofRecord .modelType) putDetection hof.detections
    { c₂ with detectors := s.detectors } with ⟨c₃, hdetections, -⟩ | ⟨c₃, h₃⟩
  · exact absurd ⟨hdatasets, hmetrics, hdetections⟩ h
  refine ⟨c₃, apply_bind_eq_error_iff.mpr (.inr ⟨(), c₁, h₁, ?_⟩)⟩
  refine apply_bind_eq_error_iff.mpr (.inr ⟨(), c₂, h₂, ?_⟩)
  refine apply_bind_eq_error_iff.mpr (.inr ⟨s.detectors, c₂, by
    rw [Act.apply_ofResult, hof.detectors], ?_⟩)
  exact apply_bind_eq_error_iff.mpr (.inr ⟨(), _, Act.apply_change _ _, h₃⟩)

/-- A store that has not read its file. -/
def Unread (file : CatalogFile) (s : Store) : Prop :=
  s.file = file ∧ s.isLoaded = false

/-- An action fails on a store, which has not read its file then either. -/
def FailsUnread (file : CatalogFile) (a : Act Store α) (s : Store) : Prop :=
  ∃ s', a.apply s = (.error .wrongKind, s') ∧ Unread file s'

theorem failsUnread_bind {file : CatalogFile} {β : Type} {a : Act Store α} {s : Store}
    (h : FailsUnread file a s) (f : α → Act Store β) : FailsUnread file (a >>= f) s := by
  obtain ⟨s', hfails, hunread⟩ := h
  exact ⟨s', apply_bind_eq_error_iff.mpr (.inl hfails), hunread⟩

theorem addData_of_partsOf? {data : Data} {r : Record} (h : partsOf? data = some r) :
    addData data = addSections r := by
  unfold partsOf? at h
  unfold addData
  split at h
  · next hpresent =>
      rw [if_pos hpresent]
      cases data <;> cases h
      rfl
  · next habsent =>
      rw [if_neg habsent]
      cases h
      rfl

theorem areRecords_of_nil {s : Sections} (hof : s.Of []) : s.AreRecords := by
  obtain ⟨hdatasets, hmetrics, -, hdetections⟩ := hof
  constructor
  · rw [← Except.ok.inj hdatasets]
    simp
  · rw [← Except.ok.inj hmetrics]
    simp
  · rw [← Except.ok.inj hdetections]
    simp

section File

variable {file : CatalogFile} {r : Record} {entries : Sections}
  (hparts : partsIn? file = some r) (hof : entries.Of r) (hnot : ¬ entries.AreRecords)
  {s : Store} (hs : Unread file s)
include hparts hof hnot hs

theorem load_fails : FailsUnread file Store.load s := by
  obtain ⟨rfl, hunread⟩ := hs
  rw [partsIn?] at hparts
  cases hread : s.file.read with
  | error fault => simp [hread] at hparts
  | ok data? =>
      rw [hread] at hparts
      cases data? with
      | none =>
          cases hparts
          exact absurd (areRecords_of_nil hof) hnot
      | some data =>
          obtain ⟨c', hfails⟩ := apply_addSections_of_not_records hof hnot s.catalog
          refine ⟨{ s with catalog := c' }, ?_, rfl, hunread⟩
          have hadd : (Store.onCatalog (addData data)).apply s =
              (.error .wrongKind, { s with catalog := c' }) := by
            rw [Store.onCatalog, addData_of_partsOf? hparts, Act.apply_within, hfails]
          simp [Store.load, Act.apply_bind, hread, hadd]

theorem ready_fails : FailsUnread file Store.ready s := by
  obtain ⟨s', hfails, hunread⟩ := load_fails hparts hof hnot hs
  refine ⟨s', ?_, hunread⟩
  rw [Store.ready, Act.apply_bind, Act.apply_look, hs.2]
  exact hfails

theorem look_fails (f : Catalog → α) : FailsUnread file (Store.look f) s :=
  failsUnread_bind (ready_fails hparts hof hnot hs) _

/-- No operation on a file with an entry that is no record succeeds, and none gets it read. -/
theorem act_fails (call : StoreCall) : FailsUnread file call.act s := by
  cases call with
  | save d => exact failsUnread_bind (ready_fails hparts hof hnot hs) _
  | delete name =>
      exact failsUnread_bind (failsUnread_bind (look_fails hparts hof hnot hs _) _) _
  | detections | detection | metric | dataset | detectors =>
      exact failsUnread_bind (look_fails hparts hof hnot hs _) _

theorem unread_after (calls : List StoreCall) : Unread file (after calls s) := by
  induction calls generalizing s with
  | nil => exact hs
  | cons call rest ih =>
      obtain ⟨s', hfails, hunread⟩ := act_fails hparts hof hnot hs call
      refine ih ?_
      change Unread file (call.act.apply s).2
      rw [hfails]
      exact hunread

end File

/-- Of a file with sections the valid entries are kept, the last one of each name or number, if all
entries but those of detectors are records. Otherwise every operation on it fails, whatever was
tried before. -/
theorem entries_kept {file : CatalogFile} {r : Record} {s : Sections}
    (hparts : partsIn? file = some r) (hof : s.Of r) :
    (s.AreRecords → ∃ c, Loads file c ∧ KeepsValid s c) ∧
      (¬ s.AreRecords → ∀ calls (call : StoreCall),
        (call.act.apply (after calls (.onFile file))).1 = .error .wrongKind) := by
  constructor
  · intro hrecords
    exact ⟨s.catalog, (loads_iff file _).mpr ⟨r, s, hparts, hof, hrecords, rfl⟩,
      keepsValid_catalog s⟩
  · intro hnot calls call
    have hunread := unread_after hparts hof hnot (s := .onFile file) ⟨rfl, rfl⟩ calls
    obtain ⟨s', hfails, -⟩ := act_fails hparts hof hnot hunread call
    rw [hfails]

instance (entry : Data) : Decidable (IsRecord entry) :=
  match h : Record.ofEntry entry with
  | .ok r => .isTrue ⟨r, h⟩
  | .error _ => .isFalse fun ⟨_, hr⟩ => nomatch h.symm.trans hr

instance (s : Sections) : Decidable s.AreRecords :=
  decidable_of_iff
    ((∀ entry ∈ s.datasets, IsRecord entry) ∧ (∀ entry ∈ s.metrics, IsRecord entry) ∧
      ∀ entry ∈ s.detections, IsRecord entry)
    ⟨fun ⟨hdatasets, hmetrics, hdetections⟩ => ⟨hdatasets, hmetrics, hdetections⟩,
      fun h => ⟨h.datasets, h.metrics, h.detections⟩⟩

def sections? (data : Record) : Option Sections := do
  let datasets ← section? datasetsName data
  let metrics ← section? metricsName data
  let detectors ← section? detectorsName data
  let detections ← section? detectionsName data
  return ⟨datasets, metrics, detectors, detections⟩

theorem of_sections? {data : Record} {s : Sections} (h : sections? data = some s) : s.Of data := by
  simp only [sections?, Option.bind_eq_bind, Option.bind_eq_some_iff] at h
  obtain ⟨_, hdatasets, _, hmetrics, _, hdetectors, _, hdetections, hs⟩ := h
  obtain rfl := Option.some.inj hs
  constructor
  · rw [sectionOf, hdatasets]
  · rw [sectionOf, hmetrics]
  · rw [sectionOf, hdetectors]
  · rw [sectionOf, hdetections]

theorem exists_sections_of_check (file : CatalogFile) (check : Sections → Bool)
    (h : ((partsIn? file).bind sections?).any check = true) :
    ∃ r s, partsIn? file = some r ∧ Sections.Of r s ∧ check s = true := by
  cases hparts : partsIn? file with
  | none => simp [hparts] at h
  | some r =>
      cases hsections : sections? r with
      | none => simp [hparts, hsections] at h
      | some s => exact ⟨r, s, rfl, of_sections? hsections, by simpa [hparts, hsections] using h⟩

/-- A file with a detection that lacks fields, and one that is given twice. -/
def hourlyFile : CatalogFile :=
  .text "detections: [\x7bname: visits\x7d, \x7bname: hourly, metric_urn: m, detector: d\x7d,
  \x7bname: hourly, metric_urn: n, detector: d\x7d]"

theorem hourlyFile_kept :
    ∃ r s, partsIn? hourlyFile = some r ∧ Sections.Of r s ∧ s.AreRecords ∧
      s.validDetections.map Detection.metricUrn = ["m", "n"] ∧
      ∃ c, Loads hourlyFile c ∧ KeepsValid s c := by
  obtain ⟨r, s, hparts, hof, hcheck⟩ := exists_sections_of_check hourlyFile
    (fun s => decide s.AreRecords &&
      s.validDetections.map Detection.metricUrn == ["m", "n"]) (by decide +kernel)
  simp only [Bool.and_eq_true, decide_eq_true_eq, beq_iff_eq] at hcheck
  exact ⟨r, s, hparts, hof, hcheck.1, hcheck.2, (entries_kept hparts hof).1 hcheck.1⟩

def nullEntryFile : CatalogFile :=
  .text "detections: [null, \x7bname: hourly, metric_urn: m, detector: d\x7d]"

/-- The entry that holds nothing makes the valid one unavailable. -/
theorem nullEntryFile_not_kept :
    ∃ r s, partsIn? nullEntryFile = some r ∧ Sections.Of r s ∧
      s.validDetections.map Detection.name = ["hourly"] ∧
      (Store.detections.apply (.onFile nullEntryFile)).1.isOk = false ∧
      ¬ ∃ c, Loads nullEntryFile c ∧ KeepsValid s c := by
  obtain ⟨r, s, hparts, hof, hcheck⟩ := exists_sections_of_check nullEntryFile
    (fun s => !decide s.AreRecords &&
      s.validDetections.map Detection.name == ["hourly"]) (by decide +kernel)
  simp only [Bool.and_eq_true, Bool.not_eq_true', decide_eq_false_iff_not, beq_iff_eq] at hcheck
  have hunread : Unread nullEntryFile (.onFile nullEntryFile) := ⟨rfl, rfl⟩
  obtain ⟨_, hload, -⟩ := load_fails hparts hof hcheck.1 hunread
  obtain ⟨_, hdetections, -⟩ := look_fails hparts hof hcheck.1 hunread Catalog.detections
  refine ⟨r, s, hparts, hof, hcheck.2, ?_, ?_⟩
  · rw [Store.detections, hdetections]
    rfl
  · rintro ⟨c, hloads, -⟩
    rw [Loads, hload] at hloads
    cases hloads

end AnomalyWindows.Proofs.SkippedEntries
