import AnomalyWindows.Proofs.StoredRuns

namespace AnomalyWindows.Proofs.RunHandlers

open AnomalyWindows.Calendar
open AnomalyWindows.Proofs.DetectionHandlers AnomalyWindows.Proofs.StoredRuns

def withSite (site : Site) (s : Service) : Service :=
  { s with file := site.store.file, network := site.network }

/-- What a detection is found by: the catalog, opened anew. -/
def lookedUp (name : String) (s : Service) : Except Fault (Option Detection) × Store :=
  (Store.detection? name).apply (.onFile s.file)

def withDetection {α : Type} (name : String) (f : Detection → Act Site (Option α)) :
    Act Site (Option α) := do
  match ← Site.onStore (Store.detection? name) with
  | some d => f d
  | none => return none

theorem apply_withDetection {α : Type} (name : String) (f : Detection → Act Site (Option α))
    (s : Service) :
    (Service.onSite (withDetection name f)).apply s =
      match lookedUp name s with
      | (.error fault, store) => (.error fault, withSite ⟨store, s.network⟩ s)
      | (.ok none, store) => (.ok none, withSite ⟨store, s.network⟩ s)
      | (.ok (some d), store) =>
        let done := (f d).apply ⟨store, s.network⟩
        (done.1, withSite done.2 s) := by
  simp only [withDetection, Service.onSite, Act.apply_bind, Act.apply_within, Site.onStore,
    lookedUp]
  rcases (Store.detection? name).apply (.onFile s.file) with ⟨fault | found, store⟩
  · rfl
  · cases found with
    | none => rfl
    | some d => rfl

/-- The run of a detection that was found, on the catalog that it was found in. -/
def runFrom [ZoneDatabase] (d : Detection) (start finish : Moment) (store : Store) (s : Service) :
    Except Fault Outcome × Site :=
  (Site.execute s.settings d start finish).apply ⟨store, s.network⟩

theorem apply_runDetection [ZoneDatabase] (name : String) (start finish : Moment) (s : Service) :
    (Service.runDetection name start finish).apply s =
      match lookedUp name s with
      | (.error fault, store) => (.error fault, withSite ⟨store, s.network⟩ s)
      | (.ok none, store) => (.ok (.unknownDetection name), withSite ⟨store, s.network⟩ s)
      | (.ok (some d), store) =>
        let ran := runFrom d start finish store s
        (outcomeResult ran.1, withSite ran.2 s) := by
  have hnamed : Service.runNamed s.settings name start finish = withDetection name fun d => do
      return some (← (Site.execute s.settings d start finish).attempt) := rfl
  simp only [Service.runDetection, Act.apply_bind, Act.apply_look, hnamed, apply_withDetection]
  rcases lookedUp name s with ⟨fault | found, store⟩
  · rfl
  · cases found with
    | none => rfl
    | some d =>
        simp only [Act.apply_attempt, Act.apply_pure, apply_outcomeResponse]
        rfl

theorem apply_executeAdHoc [ZoneDatabase] (a : AdHoc) (s : Service) :
    (Service.executeAdHoc a).apply s =
      let ran := runFrom a.detection a.start a.finish (.onFile s.file) s
      (outcomeResult ran.1, withSite ran.2 s) := by
  simp only [Service.executeAdHoc, Service.onSite, Act.apply_bind, Act.apply_look,
    Act.apply_within, Act.apply_attempt, apply_outcomeResponse]
  rfl

theorem apply_task [ZoneDatabase] {startText finishText : String} {start finish : Moment}
    (hstart : Service.taskMoment startText = .ok start)
    (hfinish : Service.taskMoment finishText = .ok finish) (name : String) (s : Service) :
    (Service.task name startText finishText).apply s =
      match lookedUp name s with
      | (.error fault, store) => (.error fault, withSite ⟨store, s.network⟩ s)
      | (.ok none, store) => (.ok none, withSite ⟨store, s.network⟩ s)
      | (.ok (some d), store) =>
        let ran := runFrom d start finish store s
        (ran.1.map some, withSite ran.2 s) := by
  rw [Service.task, Act.apply_bind, Act.apply_look]
  change (Service.onSite (withDetection name _)).apply s = _
  rw [apply_withDetection]
  rcases lookedUp name s with ⟨fault | found, store⟩
  · rfl
  cases found with
  | none => rfl
  | some d =>
      simp only [hstart, hfinish, Act.apply_bind, Act.apply_ofResult, Act.apply_pure, runFrom]
      rcases (Site.execute s.settings d start finish).apply ⟨store, s.network⟩ with
        ⟨fault | outcome, site⟩
      · rfl
      · rfl

/-- A catalog with one daily metric, a detector, and a detection of spikes. -/
def siteCatalog : Catalog where
  datasets := [{ name := "site" }]
  metrics := [{ id := 1, name := "visits", dataset := "site" }]
  detectors := [.ofFields [("name", .text "spikes"), ("endpoint", .text "http://spikes/")]]
  detections := [{ name := "daily", metricUrn := "slidewatch:metric:1", detector := "spikes" }]

def siteService : Service :=
  serviceOver (.saved siteCatalog.toData)

def dailyRun : Call where
  method := "POST"
  address := ⟨runPath "daily", [("start", "2024-11-01T00:00:00Z"), ("end", "2024-11-02T00:00:00Z")]⟩

end AnomalyWindows.Proofs.RunHandlers
