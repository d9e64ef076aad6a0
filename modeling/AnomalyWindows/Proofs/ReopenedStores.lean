import AnomalyWindows.Proofs.CatalogRoundTrip

namespace AnomalyWindows.Proofs.ReopenedStores

open AnomalyWindows.Proofs.CatalogRoundTrip AnomalyWindows.Proofs.SortedData

variable {α : Type} {file : CatalogFile} {s : Store} {c : Catalog}

/-- A store has read a catalog, or will read it when it is first used. -/
def Knows (s : Store) (c : Catalog) : Prop :=
  s = ⟨s.file, c, true⟩ ∨ (s = .onFile s.file ∧ Loads s.file c)

theorem apply_ready (h : Knows s c) : Store.ready.apply s = (.ok (), ⟨s.file, c, true⟩) := by
  rcases h with hs | ⟨hs, hloads⟩
  · rw [hs]
    rfl
  · rw [hs]
    exact hloads

theorem apply_look (h : Knows s c) (f : Catalog → α) :
    (Store.look f).apply s = (.ok (f c), ⟨s.file, c, true⟩) := by
  rw [Store.look, Act.apply_bind, apply_ready h]
  rfl

def writing (c : Catalog) : Except Fault Unit :=
  if c.toData.isWritable then .ok () else .error .integerTooLong

theorem writing_of_isWritable (h : c.toData.isWritable = true) : writing c = .ok () :=
  if_pos h

theorem apply_commit (f : Catalog → Catalog) (s : Store) :
    (Store.commit f).apply s =
      (writing (f s.catalog),
        { s with catalog := f s.catalog, file := .ofData (f s.catalog).toData }) := by
  rw [Store.commit, Act.apply_bind, Act.apply_change]
  dsimp only
  rw [Act.apply_bind, Act.apply_look, writing]
  dsimp only
  cases (f s.catalog).toData.isWritable <;> rfl

theorem apply_save (h : Knows s c) (d : Detection) :
    (Store.save d).apply s =
      (writing (c.putDetection d),
        ⟨.ofData (c.putDetection d).toData, c.putDetection d, true⟩) := by
  rw [Store.save, Act.apply_bind, apply_ready h]
  exact apply_commit _ _

theorem apply_delete (h : Knows s c) (name : String) :
    (Store.delete name).apply s =
      match c.detection? name with
      | some _ => ((writing (c.eraseDetection name)).map fun _ => true,
          ⟨.ofData (c.eraseDetection name).toData, c.eraseDetection name, true⟩)
      | none => (.ok false, ⟨s.file, c, true⟩) := by
  rw [Store.delete, Act.apply_bind, Store.detection?, apply_look h]
  cases c.detection? name with
  | none => rfl
  | some d =>
      dsimp only
      rw [Act.apply_bind, apply_commit]
      dsimp only
      cases writing (c.eraseDetection name) <;> rfl

/-- Catalogs that differ in the order of the entries of their detectors at most. -/
def Matches (c c' : Catalog) : Prop :=
  sortedCatalog c = sortedCatalog c'

/-- A store is in step with its file: what it knows is what the file holds. -/
structure Holds (s : Store) (c : Catalog) : Prop where
  loads : ∃ c', Loads s.file c' ∧ Matches c' c
  knows : Knows s c

theorem knows_onFile (h : Loads file c) : Knows (.onFile file) c :=
  .inr ⟨rfl, h⟩

theorem knows_loaded (file : CatalogFile) (c : Catalog) : Knows ⟨file, c, true⟩ c :=
  .inl rfl

theorem holds_onFile (h : Loads file c) : Holds (.onFile file) c :=
  ⟨⟨c, h, rfl⟩, knows_onFile h⟩

inductive StoreCall
  | save (d : Detection)
  | delete (name : String)
  | detections
  | detection (name : String)
  | metric (id : Int)
  | dataset (name : String)
  | detectors

namespace StoreCall

def act : StoreCall → Act Store Unit
  | save d => Store.save d
  | delete name => do let _ ← Store.delete name
  | detections => do let _ ← Store.detections
  | detection name => do let _ ← Store.detection? name
  | metric id => do let _ ← Store.metric? id
  | dataset name => do let _ ← Store.dataset? name
  | detectors => do let _ ← Store.detectors

def effect : StoreCall → Catalog → Catalog
  | save d, c => c.putDetection d
  | delete name, c => c.eraseDetection name
  | _, c => c

/-- What an operation sets has no integer that is too long to be written. -/
def IsWritable : StoreCall → Prop
  | save d => d.toData.isWritable = true
  | _ => True

def writes : StoreCall → Catalog → Bool
  | save _, _ => true
  | delete name, c => (c.detection? name).isSome
  | _, _ => false

end StoreCall

theorem eraseDetection_of_unknown {name : String} (h : c.detection? name = none) :
    c.eraseDetection name = c := by
  rw [Catalog.eraseDetection, Keyed.erase_of_find?_eq_none Detection.name h]

theorem apply_look_unit (h : Knows s c) (f : Catalog → α) :
    (do let _ ← Store.look f : Act Store Unit).apply s = (.ok (), ⟨s.file, c, true⟩) := by
  rw [Act.apply_bind, apply_look h]
  rfl

theorem apply_act (h : Knows s c) (call : StoreCall) :
    call.act.apply s =
      (if call.writes c then writing (call.effect c) else .ok (),
        ⟨if call.writes c then .ofData (call.effect c).toData else s.file,
          call.effect c, true⟩) := by
  cases call with
  | save d => exact apply_save h d
  | delete name =>
      rw [StoreCall.act, Act.apply_bind, apply_delete h]
      cases hfound : c.detection? name with
      | none => simp [StoreCall.writes, StoreCall.effect, hfound, eraseDetection_of_unknown hfound]
      | some d =>
          have hwrites : (StoreCall.delete name).writes c = true := by
            simp [StoreCall.writes, hfound]
          rw [if_pos hwrites, if_pos hwrites]
          dsimp only [StoreCall.effect]
          cases writing (c.eraseDetection name) <;> rfl
  | detections => exact apply_look_unit h _
  | detection name => exact apply_look_unit h _
  | metric id => exact apply_look_unit h _
  | dataset name => exact apply_look_unit h _
  | detectors => exact apply_look_unit h _

theorem isPlain_effect (call : StoreCall) (c : Catalog) :
    (call.effect c).toData.isPlain = c.toData.isPlain := by
  rw [Bool.eq_iff_iff, isPlain_toData_iff, isPlain_toData_iff]
  cases call <;> rfl

theorem isWritable_effect (h : c.toData.isWritable = true) (call : StoreCall)
    (hcall : call.IsWritable) : (call.effect c).toData.isWritable = true := by
  cases call with
  | save d =>
      rw [Data.isWritable, all_toData_iff isMild_isShort] at h ⊢
      obtain ⟨hdatasets, hmetrics, hdetectors, hdetections⟩ := h
      refine ⟨hdatasets, hmetrics, hdetectors, fun e he => ?_⟩
      rcases Keyed.eq_or_mem_of_mem_put Detection.name he with rfl | he
      · exact hcall
      · exact hdetections e he
  | delete name =>
      rw [Data.isWritable, all_toData_iff isMild_isShort] at h ⊢
      obtain ⟨hdatasets, hmetrics, hdetectors, hdetections⟩ := h
      exact ⟨hdatasets, hmetrics, hdetectors, fun e he => hdetections e (List.mem_of_mem_filter he)⟩
  | _ => exact h

theorem readsBack_effect (h : ReadsBack c) (call : StoreCall) (hcall : call.IsWritable) :
    ReadsBack (call.effect c) :=
  ⟨(isPlain_effect call c).trans h.isPlain, isWritable_effect h.isWritable call hcall⟩

theorem wellKeyed_effect (h : WellKeyed c) (call : StoreCall) : WellKeyed (call.effect c) := by
  cases call with
  | save d => exact wellKeyed_putDetection h d
  | delete name => exact wellKeyed_eraseDetection h name
  | _ => exact h

theorem effect_of_not_writes {call : StoreCall} (h : call.writes c = false) :
    call.effect c = c := by
  cases call with
  | save d => cases h
  | delete name => exact eraseDetection_of_unknown (by simpa [StoreCall.writes] using h)
  | _ => rfl

theorem eq_sections_of_matches {c' : Catalog} (h : Matches c' c) :
    c'.datasets = c.datasets ∧ c'.metrics = c.metrics ∧ c'.detections = c.detections ∧
      c'.detectors.map Data.sorted = c.detectors.map Data.sorted := by
  simp only [Matches, sortedCatalog, Catalog.mk.injEq] at h
  obtain ⟨hdatasets, hmetrics, hdetectors, hdetections⟩ := h
  exact ⟨hdatasets, hmetrics, hdetections, hdetectors⟩

theorem wellKeyed_of_matches {c' : Catalog} (h : Matches c' c) (hc' : WellKeyed c') :
    WellKeyed c := by
  obtain ⟨hdatasets, hmetrics, hdetections, -⟩ := eq_sections_of_matches h
  exact ⟨hdatasets ▸ hc'.datasets, hmetrics ▸ hc'.metrics, hdetections ▸ hc'.detections⟩

theorem wellKeyed (h : Holds s c) : WellKeyed c := by
  obtain ⟨c', hloads, hmatches⟩ := h.loads
  exact wellKeyed_of_matches hmatches (wellKeyed_of_loads hloads)

theorem matches_sortedCatalog (c : Catalog) : Matches (sortedCatalog c) c :=
  sortedCatalog_sortedCatalog c

theorem holds_act (h : Holds s c) {call : StoreCall} (hback : ReadsBack (call.effect c)) :
    Holds (call.act.apply s).2 (call.effect c) := by
  rw [apply_act h.knows]
  refine ⟨?_, knows_loaded _ _⟩
  cases hwrites : call.writes c with
  | true =>
      exact ⟨_, loads_ofData (wellKeyed_effect (wellKeyed h) call) hback, matches_sortedCatalog _⟩
  | false =>
      rw [effect_of_not_writes hwrites]
      exact h.loads

def after (calls : List StoreCall) (s : Store) : Store :=
  calls.foldl (fun s call => (call.act.apply s).2) s

def effects (calls : List StoreCall) (c : Catalog) : Catalog :=
  calls.foldl (fun c call => call.effect c) c

theorem readsBack_effects (h : ReadsBack c) {calls : List StoreCall}
    (hcalls : ∀ call ∈ calls, call.IsWritable) : ReadsBack (effects calls c) := by
  induction calls generalizing c with
  | nil => exact h
  | cons call rest ih =>
      obtain ⟨hcall, hrest⟩ := List.forall_mem_cons.mp hcalls
      exact ih (readsBack_effect h call hcall) hrest

theorem holds_after (h : Holds s c) (hback : ReadsBack c) {calls : List StoreCall}
    (hcalls : ∀ call ∈ calls, call.IsWritable) : Holds (after calls s) (effects calls c) := by
  induction calls generalizing s c with
  | nil => exact h
  | cons call rest ih =>
      obtain ⟨hcall, hrest⟩ := List.forall_mem_cons.mp hcalls
      have hback' := readsBack_effect hback call hcall
      exact ih (holds_act h hback') hback' hrest

def Answers (a : Act Store α) (s : Store) (answer : α) : Prop :=
  (a.apply s).1 = .ok answer

def SameAnswer (a : Act Store α) (s t : Store) : Prop :=
  ∃ answer, Answers a s answer ∧ Answers a t answer

/-- Two stores give the same answers. Maps in the entries of detectors are the same in whatever
order their own entries stand. -/
structure Alike (s t : Store) : Prop where
  detections : SameAnswer Store.detections s t
  detection : ∀ name, SameAnswer (Store.detection? name) s t
  metric : ∀ id, SameAnswer (Store.metric? id) s t
  dataset : ∀ name, SameAnswer (Store.dataset? name) s t
  detectors : ∃ entries entries', Answers Store.detectors s entries ∧
    Answers Store.detectors t entries' ∧ entries'.map Data.sorted = entries.map Data.sorted

/-- One store differs from another only in what it answers for the detection of a name. -/
structure Sets (name : String) (value : Option Detection) (s t : Store) : Prop where
  detection : Answers (Store.detection? name) t value
  others : ∃ ds es, Answers Store.detections s ds ∧ Answers Store.detections t es ∧
    es.filter (·.name ≠ name) = ds.filter (·.name ≠ name)
  metric : ∀ id, SameAnswer (Store.metric? id) s t
  dataset : ∀ name, SameAnswer (Store.dataset? name) s t
  detectors : SameAnswer Store.detectors s t

/-- A new store on the file answers as the store does, and changes concern one detection. -/
structure Persists (s : Store) : Prop where
  reopened : Alike s s.reopen
  saves : ∀ d : Detection, d.toData.isWritable = true →
    Answers (Store.save d) s () ∧ Sets d.name (some d) s ((Store.save d).apply s).2
  deletes : ∀ name,
    (∃ d?, Answers (Store.detection? name) s d? ∧ Answers (Store.delete name) s d?.isSome) ∧
      Sets name none s ((Store.delete name).apply s).2

theorem answers_look (h : Knows s c) (f : Catalog → α) : Answers (Store.look f) s (f c) := by
  rw [Answers, apply_look h]

theorem sameAnswer_look {s t : Store} {c c' : Catalog} (hs : Knows s c) (ht : Knows t c')
    {f : Catalog → α} (hf : f c' = f c) : SameAnswer (Store.look f) s t :=
  ⟨f c, answers_look hs f, hf ▸ answers_look ht f⟩

theorem alike_of_knows {s t : Store} {c' : Catalog} (hs : Knows s c) (ht : Knows t c')
    (h : Matches c' c) : Alike s t := by
  obtain ⟨hdatasets, hmetrics, hdetections, hdetectors⟩ := eq_sections_of_matches h
  refine ⟨sameAnswer_look hs ht hdetections, fun name => ?_, fun id => ?_, fun name => ?_, ?_⟩
  · exact sameAnswer_look hs ht (congrArg (Keyed.find? Detection.name name) hdetections)
  · exact sameAnswer_look hs ht (congrArg (Keyed.find? Metric.id id) hmetrics)
  · exact sameAnswer_look hs ht (congrArg (Keyed.find? Dataset.name name) hdatasets)
  · exact ⟨_, _, answers_look hs _, answers_look ht _, hdetectors⟩

theorem sets_of_knows {s t : Store} {c' : Catalog} {name : String} {value : Option Detection}
    (hs : Knows s c) (ht : Knows t c') (hvalue : c'.detection? name = value)
    (hothers : Keyed.erase Detection.name name c'.detections =
      Keyed.erase Detection.name name c.detections)
    (hrest : { c' with detections := c.detections } = c) : Sets name value s t where
  detection := hvalue ▸ answers_look ht _
  others := ⟨_, _, answers_look hs _, answers_look ht _, hothers⟩
  metric id := sameAnswer_look hs ht (by rw [← hrest]; rfl)
  dataset name := sameAnswer_look hs ht (by rw [← hrest]; rfl)
  detectors := sameAnswer_look hs ht (by rw [← hrest])

theorem persists_of_holds (h : Holds s c) (hback : ReadsBack c) : Persists s := by
  obtain ⟨c', hloads, hmatches⟩ := h.loads
  refine ⟨alike_of_knows h.knows (knows_onFile hloads) hmatches, ?_, ?_⟩
  · intro d hd
    have hput : (c.putDetection d).toData.isWritable = true :=
      (readsBack_effect hback (.save d) hd).isWritable
    rw [Answers, apply_save h.knows, writing_of_isWritable hput]
    refine ⟨rfl, sets_of_knows h.knows (knows_loaded _ _) ?_ ?_ rfl⟩
    · exact Keyed.find?_put_self Detection.name d c.detections
    · exact Keyed.erase_put Detection.name d c.detections
  · intro name
    have herased : (c.eraseDetection name).toData.isWritable = true :=
      (readsBack_effect hback (.delete name) trivial).isWritable
    have hdelete := apply_delete h.knows name
    rw [writing_of_isWritable herased] at hdelete
    refine ⟨⟨c.detection? name, answers_look h.knows _, ?_⟩, ?_⟩
    · rw [Answers, hdelete]
      cases c.detection? name <;> rfl
    · have hknows : Knows ((Store.delete name).apply s).2 (c.eraseDetection name) := by
        rw [hdelete]
        cases hfound : c.detection? name with
        | none => exact (eraseDetection_of_unknown hfound).symm ▸ knows_loaded _ _
        | some d => exact knows_loaded _ _
      refine sets_of_knows h.knows hknows ?_ ?_ rfl
      · exact Keyed.find?_erase_self Detection.name name c.detections
      · exact Keyed.erase_erase Detection.name name c.detections

def detectionNamed (name : String) : Detection :=
  { name, metricUrn := "m", detector := "d" }

theorem isWritable_detectionNamed (name : String) :
    (detectionNamed name).toData.isWritable = true := by
  have hzero : Data.isShort (.int 0) = true := by decide +kernel
  have hone : Data.isShort (.int 1) = true := by decide +kernel
  have hfifteen : Data.isShort (.int 15) = true := by decide +kernel
  rw [Data.isWritable, all_detection_iff isMild_isShort]
  exact ⟨rfl, hzero, hone, hfifteen, rfl⟩

theorem not_isWritable_put (h : c.toData.isWritable ≠ true) {d d' : Detection}
    (hne : d.name ≠ d'.name) :
    (c.putDetection d).toData.isWritable ≠ true ∨ (c.putDetection d').toData.isWritable ≠ true := by
  by_contra hboth
  push Not at hboth
  simp only [Data.isWritable, all_toData_iff isMild_isShort] at hboth
  obtain ⟨⟨hdatasets, hmetrics, hdetectors, hput⟩, -, -, -, hput'⟩ := hboth
  rw [ne_eq, Data.isWritable, all_toData_iff isMild_isShort] at h
  refine h ⟨hdatasets, hmetrics, hdetectors, fun e he => ?_⟩
  by_cases hname : e.name = d.name
  · exact hput' e (Keyed.mem_put_of_ne Detection.name he (hname ▸ hne))
  · exact hput e (Keyed.mem_put_of_ne Detection.name he hname)

theorem read_of_not_isPlain (hwritable : c.toData.isWritable = true)
    (hplain : c.toData.isPlain ≠ true) :
    (CatalogFile.ofData c.toData).read = .error .notYaml := by
  have hfile : CatalogFile.ofData c.toData = .saved c.toData.sorted := if_pos hwritable
  rw [hfile, CatalogFile.read, isPlain_sorted, if_neg hplain]

theorem apply_look_of_unreadable {fault : Fault} (h : file.read = .error fault)
    (f : Catalog → α) : ((Store.look f).apply (.onFile file)).1 = .error fault := by
  have hfile : (Store.onFile file).file = file := rfl
  have hloaded : (Store.onFile file).isLoaded = false := rfl
  simp [Store.look, Store.ready, Store.load, Act.apply_bind, hfile, hloaded, h]

theorem readsBack_of_persists (hloads : Loads file c)
    (h : ∀ calls, (∀ call ∈ calls, call.IsWritable) → Persists (after calls (.onFile file))) :
    ReadsBack c := by
  have hknows : Knows (.onFile file) c := knows_onFile hloads
  have hwritable : c.toData.isWritable = true := by
    by_contra hnot
    have hsaves (name : String) :
        (c.putDetection (detectionNamed name)).toData.isWritable = true := by
      by_contra hput
      obtain ⟨hsaved, -⟩ := (h [] (by simp)).saves _ (isWritable_detectionNamed name)
      rw [after, List.foldl_nil, Answers, apply_save hknows, writing, if_neg hput] at hsaved
      cases hsaved
    have hne : (detectionNamed "hourly").name ≠ (detectionNamed "weekly").name := by
      decide
    exact (not_isWritable_put hnot hne).elim (absurd (hsaves _)) (absurd (hsaves _))
  refine ⟨?_, hwritable⟩
  by_contra hnot
  let call : StoreCall := .save (detectionNamed "hourly")
  have hcall : call.IsWritable := isWritable_detectionNamed "hourly"
  obtain ⟨ds, -, hds⟩ := (h [call] (List.forall_mem_singleton.mpr hcall)).reopened.detections
  have hread : (CatalogFile.ofData (call.effect c).toData).read = .error .notYaml :=
    read_of_not_isPlain (isWritable_effect hwritable call hcall) (by rwa [isPlain_effect])
  rw [after, List.foldl_cons, List.foldl_nil, apply_act hknows, Answers] at hds
  cases (apply_look_of_unreadable hread Catalog.detections).symm.trans hds

/-- Behind any operations a store is in step with its file, exactly if the catalog of the file can
be written and read again. -/
theorem persists_iff (hloads : Loads file c) :
    (∀ calls, (∀ call ∈ calls, call.IsWritable) → Persists (after calls (.onFile file))) ↔
      ReadsBack c := by
  refine ⟨readsBack_of_persists hloads, fun hback calls hcalls => ?_⟩
  exact persists_of_holds (holds_after (holds_onFile hloads) hback hcalls)
    (readsBack_effects hback hcalls)

theorem visitsFile_persists :
    ∃ c, Loads visitsFile c ∧ c.detections.map Detection.name = ["visits"] ∧ ReadsBack c ∧
      ((∀ calls, (∀ call ∈ calls, call.IsWritable) →
        Persists (after calls (.onFile visitsFile))) ↔ ReadsBack c) := by
  obtain ⟨c, hloads, hback, hnames⟩ := visitsFile_loads
  exact ⟨c, hloads, hnames, hback, persists_iff hloads⟩

/-- Behind the save of a detection the store answers, and a new one on the file does not. -/
theorem stagesFile_lost :
    ∃ c, Loads stagesFile c ∧
      let s := after [.save (detectionNamed "hourly")] (.onFile stagesFile)
      Answers Store.detections s [detectionNamed "hourly"] ∧
        (Store.detections.apply s.reopen).1 = .error .notYaml ∧ ¬ Persists s := by
  obtain ⟨c, hloads, hwritable, hplain, hnone⟩ := stagesFile_loads
  let call : StoreCall := .save (detectionNamed "hourly")
  have hread : (CatalogFile.ofData (call.effect c).toData).read = .error .notYaml := by
    have hcall : call.IsWritable := isWritable_detectionNamed "hourly"
    refine read_of_not_isPlain (isWritable_effect hwritable call hcall) ?_
    rwa [isPlain_effect]
  have hafter : after [call] (.onFile stagesFile) =
      ⟨.ofData (call.effect c).toData, call.effect c, true⟩ := by
    rw [after, List.foldl_cons, List.foldl_nil, apply_act (knows_onFile hloads)]
    rfl
  have hlost := apply_look_of_unreadable hread Catalog.detections
  refine ⟨c, hloads, ?_⟩
  change Answers Store.detections (after [call] _) _ ∧ (Store.detections.apply
    (after [call] _).reopen).1 = _ ∧ ¬ Persists (after [call] _)
  rw [hafter]
  refine ⟨?_, hlost, fun hpersists => ?_⟩
  · have hanswer := answers_look (knows_loaded (.ofData (call.effect c).toData) (call.effect c))
      Catalog.detections
    rwa [show (call.effect c).detections = [detectionNamed "hourly"] from by
      simp [call, StoreCall.effect, Catalog.putDetection, hnone, Keyed.put]] at hanswer
  · obtain ⟨ds, -, hds⟩ := hpersists.reopened.detections
    cases hlost.symm.trans hds

end AnomalyWindows.Proofs.ReopenedStores
