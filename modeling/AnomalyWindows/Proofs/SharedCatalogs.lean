import AnomalyWindows.Proofs.ReopenedStores
import Mathlib.Data.List.Induction
import Mathlib.Data.List.TakeWhile
import Mathlib.Logic.Function.Basic

namespace AnomalyWindows.Proofs.SharedCatalogs

open AnomalyWindows.Proofs.CatalogRoundTrip AnomalyWindows.Proofs.ReopenedStores

variable {ι : Type} {c : Catalog}

structure Shared (ι : Type) where
  file : CatalogFile
  stores : ι → Store

namespace Shared

def onFile (file : CatalogFile) : Shared ι :=
  ⟨file, fun _ => .onFile file⟩

def store (w : Shared ι) (i : ι) : Store :=
  { w.stores i with file := w.file }

def step [DecidableEq ι] (w : Shared ι) (e : ι × StoreCall) : Shared ι :=
  let s := (e.2.act.apply (w.store e.1)).2
  ⟨s.file, Function.update w.stores e.1 s⟩

def after [DecidableEq ι] (w : Shared ι) (history : List (ι × StoreCall)) : Shared ι :=
  history.foldl step w

end Shared

/-- The operations that made the file what it is, and those that made a store what it is, if it has
been used. -/
structure Knowledge (ι : Type) where
  inFile : List StoreCall := []
  known : ι → Option (List StoreCall) := fun _ => none

namespace Knowledge

/-- What a store goes by: at its first use it takes over what is in the file. -/
def seen (k : Knowledge ι) (i : ι) : List StoreCall :=
  (k.known i).getD k.inFile

def step [DecidableEq ι] (c : Catalog) (k : Knowledge ι) (e : ι × StoreCall) : Knowledge ι where
  inFile := if e.2.writes (effects (k.seen e.1) c) then k.seen e.1 ++ [e.2] else k.inFile
  known := Function.update k.known e.1 (some (k.seen e.1 ++ [e.2]))

end Knowledge

def knowledge [DecidableEq ι] (c : Catalog) (history : List (ι × StoreCall)) : Knowledge ι :=
  history.foldl (Knowledge.step c) {}

theorem effects_append (calls : List StoreCall) (call : StoreCall) (c : Catalog) :
    effects (calls ++ [call]) c = call.effect (effects calls c) := by
  simp [effects]

/-- A catalog is what operations made of another one. It can be written and read again. -/
structure Reached (c : Catalog) (calls : List StoreCall) (c' : Catalog) : Prop where
  alike : Matches c' (effects calls c)
  wellKeyed : WellKeyed c'
  readsBack : ReadsBack c'

theorem matches_effect {c' : Catalog} (h : Matches c' c) (call : StoreCall) :
    Matches (call.effect c') (call.effect c) := by
  obtain ⟨hdatasets, hmetrics, hdetections, hdetectors⟩ := eq_sections_of_matches h
  cases call <;>
    simp only [Matches, sortedCatalog, StoreCall.effect, Catalog.putDetection,
      Catalog.eraseDetection, hdatasets, hmetrics, hdetections, hdetectors]

theorem reached_effect {calls : List StoreCall} {c' : Catalog} (h : Reached c calls c')
    {call : StoreCall} (hcall : call.IsWritable) :
    Reached c (calls ++ [call]) (call.effect c') where
  alike := effects_append calls call c ▸ matches_effect h.alike call
  wellKeyed := wellKeyed_effect h.wellKeyed call
  readsBack := readsBack_effect h.readsBack _ hcall

theorem reached_sortedCatalog {calls : List StoreCall} {c' : Catalog} (h : Reached c calls c') :
    Reached c calls (sortedCatalog c') where
  alike := (matches_sortedCatalog c').trans h.alike
  wellKeyed := ⟨h.wellKeyed.datasets, h.wellKeyed.metrics, h.wellKeyed.detections⟩
  readsBack := (readsBack_sortedCatalog c').mpr h.readsBack

/-- A store that nobody has used, or one that operations made what it is. -/
def IsStore (file : CatalogFile) (c : Catalog) (s : Store) : Option (List StoreCall) → Prop
  | none => s = .onFile file
  | some calls => ∃ c', s = ⟨file, c', true⟩ ∧ Reached c calls c'

/-- The file and the stores are what operations made of them. -/
structure Tracks (c : Catalog) (w : Shared ι) (k : Knowledge ι) : Prop where
  file : ∃ c', Loads w.file c' ∧ Reached c k.inFile c'
  stores : ∀ i, IsStore w.file c (w.store i) (k.known i)

theorem tracks_onFile {file : CatalogFile} (h : Loads file c) (hback : ReadsBack c) :
    Tracks c (Shared.onFile file : Shared ι) {} :=
  ⟨⟨c, h, rfl, wellKeyed_of_loads h, hback⟩, fun _ => rfl⟩

theorem knows_seen {w : Shared ι} {k : Knowledge ι} (h : Tracks c w k) (i : ι) :
    ∃ c', Knows (w.store i) c' ∧ Reached c (k.seen i) c' := by
  have hstore := h.stores i
  rw [Knowledge.seen]
  cases hknown : k.known i with
  | none =>
      rw [hknown] at hstore
      obtain ⟨c', hloads, hreached⟩ := h.file
      exact ⟨c', hstore ▸ knows_onFile hloads, hreached⟩
  | some calls =>
      rw [hknown] at hstore
      obtain ⟨c', hloaded, hreached⟩ := hstore
      exact ⟨c', hloaded ▸ knows_loaded _ _, hreached⟩

theorem writes_of_matches {c' : Catalog} (h : Matches c' c) (call : StoreCall) :
    call.writes c' = call.writes c := by
  obtain ⟨-, -, hdetections, -⟩ := eq_sections_of_matches h
  cases call <;> simp only [StoreCall.writes, Catalog.detection?, hdetections]

variable [DecidableEq ι]

theorem store_step_self (w : Shared ι) (i : ι) (call : StoreCall) :
    (w.step (i, call)).store i = (call.act.apply (w.store i)).2 := by
  simp only [Shared.store, Shared.step, Function.update_self]

theorem store_step_of_ne (w : Shared ι) {i j : ι} (h : j ≠ i) (call : StoreCall) :
    (w.step (i, call)).store j = { w.store j with file := (w.step (i, call)).file } := by
  simp only [Shared.store, Shared.step, Function.update_of_ne h]

omit [DecidableEq ι] in
theorem isStore_file {file : CatalogFile} {s : Store} {known : Option (List StoreCall)}
    (h : IsStore file c s known) (file' : CatalogFile) :
    IsStore file' c { s with file := file' } known := by
  cases known with
  | none => exact h ▸ rfl
  | some calls =>
      obtain ⟨c', rfl, hreached⟩ := h
      exact ⟨c', rfl, hreached⟩

theorem known_step_self (k : Knowledge ι) (c : Catalog) (i : ι) (call : StoreCall) :
    (k.step c (i, call)).known i = some (k.seen i ++ [call]) :=
  Function.update_self ..

theorem known_step_of_ne (k : Knowledge ι) (c : Catalog) {i j : ι} (h : j ≠ i)
    (call : StoreCall) : (k.step c (i, call)).known j = k.known j :=
  Function.update_of_ne h ..

theorem tracks_step {w : Shared ι} {k : Knowledge ι} (h : Tracks c w k) {e : ι × StoreCall}
    (he : e.2.IsWritable) : Tracks c (w.step e) (k.step c e) := by
  obtain ⟨i, call⟩ := e
  obtain ⟨c', hknows, hreached⟩ := knows_seen h i
  have hact := apply_act hknows call
  have hbehind := reached_effect hreached he
  constructor
  · rw [Shared.step, hact, Knowledge.step, writes_of_matches hreached.alike]
    cases call.writes (effects (k.seen i) c) with
    | true =>
        exact ⟨_, loads_ofData hbehind.wellKeyed hbehind.readsBack, reached_sortedCatalog hbehind⟩
    | false => exact h.file
  · intro j
    rcases eq_or_ne j i with rfl | hj
    · rw [store_step_self, known_step_self, Shared.step, hact]
      exact ⟨_, rfl, hbehind⟩
    · rw [store_step_of_ne w hj, known_step_of_ne k c hj]
      exact isStore_file (h.stores j) _

theorem tracks_after {w : Shared ι} {k : Knowledge ι} (h : Tracks c w k)
    {history : List (ι × StoreCall)} (hhistory : ∀ e ∈ history, e.2.IsWritable) :
    Tracks c (w.after history) (history.foldl (Knowledge.step c) k) := by
  induction history generalizing w k with
  | nil => exact h
  | cons e rest ih =>
      obtain ⟨he, hrest⟩ := List.forall_mem_cons.mp hhistory
      exact ih (tracks_step h he) hrest

def isChange : StoreCall → Bool
  | .save _ | .delete _ => true
  | _ => false

/-- Another store has made a change since the first use of a store. -/
def Stale (history : List (ι × StoreCall)) (i : ι) : Prop :=
  ∃ e ∈ history.dropWhile (·.1 ≠ i), e.1 ≠ i ∧ isChange e.2 = true

/-- No store makes a change after another one has made one since its first use. -/
def Isolated (history : List (ι × StoreCall)) : Prop :=
  ∀ before e later, history = before ++ e :: later → isChange e.2 = true → ¬Stale before e.1

theorem stale_append {history : List (ι × StoreCall)} {i : ι} (h : Stale history i)
    (e : ι × StoreCall) : Stale (history ++ [e]) i := by
  obtain ⟨e', he', hchange⟩ := h
  refine ⟨e', ?_, hchange⟩
  rw [List.dropWhile_append]
  split
  · next hempty =>
      rw [List.isEmpty_iff.mp hempty] at he'
      cases he'
  · exact List.mem_append_left _ he'

theorem stale_append_change {history : List (ι × StoreCall)} {i j : ι} {call : StoreCall}
    (hused : ∃ e ∈ history, e.1 = i) (hne : j ≠ i) (hchange : isChange call = true) :
    Stale (history ++ [(j, call)]) i := by
  refine ⟨(j, call), ?_, hne, hchange⟩
  obtain ⟨e, he, hi⟩ := hused
  rw [List.dropWhile_append, if_neg]
  · exact List.mem_append_right _ (List.mem_singleton_self _)
  · intro hempty
    have hall := List.dropWhile_eq_nil_iff.mp (List.isEmpty_iff.mp hempty) e he
    simp [hi] at hall

theorem isolated_of_append {history : List (ι × StoreCall)} {e : ι × StoreCall}
    (h : Isolated (history ++ [e])) :
    Isolated history ∧ (isChange e.2 = true → ¬Stale history e.1) := by
  refine ⟨?_, h history e [] rfl⟩
  rintro before e' later rfl
  exact h before e' (later ++ [e]) (by simp)

theorem effect_of_not_isChange {call : StoreCall} (h : isChange call = false) (c : Catalog) :
    call.effect c = c ∧ call.writes c = false := by
  cases call with
  | save d => cases h
  | delete name => cases h
  | _ => exact ⟨rfl, rfl⟩

/-- The file has all operations, and so has every store that may make a change. -/
structure Current (c : Catalog) (history : List (ι × StoreCall)) (k : Knowledge ι) : Prop where
  file : effects k.inFile c = effects (history.map Prod.snd) c
  known : ∀ i calls, k.known i = some calls → ¬Stale history i →
    effects calls c = effects (history.map Prod.snd) c
  used : ∀ i calls, k.known i = some calls → ∃ e ∈ history, e.1 = i

theorem seen_of_current {history : List (ι × StoreCall)} {k : Knowledge ι}
    (h : Current c history k) {i : ι} (hstale : ¬Stale history i) :
    effects (k.seen i) c = effects (history.map Prod.snd) c := by
  rw [Knowledge.seen]
  cases hknown : k.known i with
  | none => exact h.file
  | some calls => exact h.known i calls hknown hstale

theorem current_step {history : List (ι × StoreCall)} {k : Knowledge ι}
    (h : Current c history k) {e : ι × StoreCall}
    (hisolated : isChange e.2 = true → ¬Stale history e.1) :
    Current c (history ++ [e]) (k.step c e) := by
  obtain ⟨i, call⟩ := e
  have htotal : effects ((history ++ [(i, call)]).map Prod.snd) c =
      call.effect (effects (history.map Prod.snd) c) := by
    rw [List.map_append, List.map_singleton, effects_append]
  have hseen : ¬Stale history i →
      effects (k.seen i ++ [call]) c = effects ((history ++ [(i, call)]).map Prod.snd) c := by
    intro hstale
    rw [htotal, effects_append, seen_of_current h hstale]
  refine ⟨?_, ?_, ?_⟩
  · rw [Knowledge.step]
    cases hwrites : call.writes (effects (k.seen i) c) with
    | true =>
        cases hchange : isChange call with
        | true => exact hseen (hisolated hchange)
        | false => cases (effect_of_not_isChange hchange _).2.symm.trans hwrites
    | false =>
        change effects k.inFile c = _
        rw [htotal, h.file]
        cases hchange : isChange call with
        | true =>
            rw [seen_of_current h (hisolated hchange)] at hwrites
            exact (effect_of_not_writes hwrites).symm
        | false => exact (effect_of_not_isChange hchange _).1.symm
  · intro j calls hcalls hstale
    rcases eq_or_ne j i with rfl | hj
    · rw [known_step_self, Option.some.injEq] at hcalls
      rw [← hcalls, hseen fun h => hstale (stale_append h _)]
    · rw [known_step_of_ne k c hj] at hcalls
      cases hchange : isChange call with
      | true => exact absurd (stale_append_change (h.used j calls hcalls) hj.symm hchange) hstale
      | false =>
          rw [htotal, (effect_of_not_isChange hchange _).1]
          exact h.known j calls hcalls fun h => hstale (stale_append h _)
  · intro j calls hcalls
    rcases eq_or_ne j i with rfl | hj
    · exact ⟨(j, call), by simp, rfl⟩
    · rw [known_step_of_ne k c hj] at hcalls
      obtain ⟨e, he, hej⟩ := h.used j calls hcalls
      exact ⟨e, List.mem_append_left _ he, hej⟩

theorem current_knowledge {history : List (ι × StoreCall)} (h : Isolated history) :
    Current c history (knowledge c history) := by
  induction history using List.reverseRecOn with
  | nil => exact ⟨rfl, fun _ _ h => (nomatch h), fun _ _ h => (nomatch h)⟩
  | append_singleton history e ih =>
      obtain ⟨hbefore, hlast⟩ := isolated_of_append h
      have hstep := current_step (ih hbefore) hlast
      rwa [knowledge, List.foldl_append]

omit [DecidableEq ι] in
theorem answers_of_tracks {w : Shared ι} {k : Knowledge ι} (h : Tracks c w k) :
    Answers Store.detections (.onFile w.file) (effects k.inFile c).detections := by
  obtain ⟨c', hloads, hreached⟩ := h.file
  obtain ⟨-, -, hdetections, -⟩ := eq_sections_of_matches hreached.alike
  exact hdetections ▸ answers_look (knows_onFile hloads) Catalog.detections

/-- Stores that share a file: the file has the detections that the store had which changed it last,
and if no store makes a change on what is not the latest, these are those of all operations. -/
theorem shared_detections {file : CatalogFile} (hloads : Loads file c) (hback : ReadsBack c)
    {history : List (ι × StoreCall)} (hhistory : ∀ e ∈ history, e.2.IsWritable) :
    let detections := Answers Store.detections (.onFile ((Shared.onFile file).after history).file)
    detections (effects (knowledge c history).inFile c).detections ∧
      (Isolated history → detections (effects (history.map Prod.snd) c).detections) := by
  intro detections
  have hfile : detections (effects (knowledge c history).inFile c).detections :=
    answers_of_tracks (tracks_after (tracks_onFile hloads hback) hhistory)
  refine ⟨hfile, ?_⟩
  intro hisolated
  rw [← (current_knowledge hisolated).file]
  exact hfile

def turns : List (Bool × StoreCall) :=
  [(false, .save (detectionNamed "hourly")), (true, .detections),
    (true, .save (detectionNamed "weekly"))]

theorem turns_isolated : Isolated turns := by
  rintro before e later h hchange ⟨e', he', hne, hchange'⟩
  rcases before with _ | ⟨e₀, _ | ⟨e₁, _ | ⟨e₂, rest⟩⟩⟩
  · cases he'
  · simp only [turns, List.cons_append, List.nil_append, List.cons.injEq] at h
    obtain ⟨rfl, rfl, rfl⟩ := h
    cases hchange
  · simp only [turns, List.cons_append, List.nil_append, List.cons.injEq] at h
    obtain ⟨rfl, rfl, rfl, rfl⟩ := h
    obtain rfl : e' = (true, .detections) := by simpa [List.dropWhile] using he'
    exact hne rfl
  · simp [turns] at h

theorem visitsFile_turns :
    ∃ c ds, Loads visitsFile c ∧ ReadsBack c ∧ (∀ e ∈ turns, e.2.IsWritable) ∧ Isolated turns ∧
      Answers Store.detections (.onFile ((Shared.onFile visitsFile).after turns).file) ds ∧
      ds.map Detection.name = ["visits", "hourly", "weekly"] := by
  obtain ⟨c, hloads, hback, hnames⟩ := visitsFile_loads
  have hwritable : ∀ e ∈ turns, e.2.IsWritable := by
    simp only [turns, List.forall_mem_cons]
    exact ⟨isWritable_detectionNamed _, trivial, isWritable_detectionNamed _, List.forall_mem_nil _⟩
  refine ⟨c, _, hloads, hback, hwritable, turns_isolated,
    (shared_detections hloads hback hwritable).2 turns_isolated, ?_⟩
  simp [turns, effects, StoreCall.effect, Catalog.putDetection, Keyed.map_key_put, hnames,
    detectionNamed]

/-- Both stores read the file before one of them makes its change. -/
def overlap : List (Bool × StoreCall) :=
  [(false, .detections), (true, .save (detectionNamed "hourly")),
    (false, .save (detectionNamed "weekly"))]

theorem visitsFile_overlap :
    ∃ c ds, Loads visitsFile c ∧ ReadsBack c ∧
      Answers Store.detections (.onFile ((Shared.onFile visitsFile).after overlap).file) ds ∧
      ds.map Detection.name = ["visits", "weekly"] ∧
      (effects (overlap.map Prod.snd) c).detections.map Detection.name =
        ["visits", "hourly", "weekly"] := by
  obtain ⟨c, hloads, hback, hnames⟩ := visitsFile_loads
  have hwritable : ∀ e ∈ overlap, e.2.IsWritable := by
    simp only [overlap, List.forall_mem_cons]
    exact ⟨trivial, isWritable_detectionNamed _, isWritable_detectionNamed _, List.forall_mem_nil _⟩
  have htracks := tracks_after (tracks_onFile hloads hback) hwritable
  refine ⟨c, _, hloads, hback, answers_of_tracks htracks, ?_, ?_⟩
  · simp [overlap, Knowledge.step, Knowledge.seen, StoreCall.writes, effects, StoreCall.effect,
      Catalog.putDetection, Keyed.map_key_put, hnames, detectionNamed]
  · simp [overlap, effects, StoreCall.effect, Catalog.putDetection, Keyed.map_key_put, hnames,
      detectionNamed]

end AnomalyWindows.Proofs.SharedCatalogs
