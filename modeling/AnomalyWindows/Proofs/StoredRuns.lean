import AnomalyWindows.Calendar.ZoneTable
import AnomalyWindows.Proofs.DetectionHandlers
import AnomalyWindows.Proofs.JsonData
import AnomalyWindows.Proofs.ReorderedDetectors

/-!
Runs of a detection that comes with the call, and of one that was stored before. Storing a detection
leaves metrics and datasets as they are, and puts the entries of detectors in order, to which runs
pay no attention. Main result: both kinds of runs are answered alike and meet the same network,
exactly if the catalog can be written down and what is written can be read again.
-/

namespace AnomalyWindows.Proofs.StoredRuns

open AnomalyWindows.Proofs.CatalogRoundTrip AnomalyWindows.Proofs.ReopenedStores
open AnomalyWindows.Proofs.DetectionHandlers AnomalyWindows.Proofs.JsonData
open AnomalyWindows.Proofs.RunViews AnomalyWindows.Proofs.ReorderedDetectors
open AnomalyWindows.Calendar

variable {α β : Type}

/-- Catalogs with the same metrics and datasets, and the entries of detectors in order in the second
one. -/
structure SameMetadata (c c' : Catalog) : Prop where
  datasets : c.datasets = c'.datasets
  metrics : c.metrics = c'.metrics
  detectors : c.detectors.map Data.sorted = c'.detectors

structure SameEquipment (e e' : Equipment) : Prop where
  stores : ∃ c c', Knows e.store c ∧ Knows e'.store c' ∧ SameMetadata c c'
  tsdb : e.tsdb = e'.tsdb
  detectors : SameRegistry e.detectors e'.detectors
  network : SameTraffic e.network e'.network

theorem couples_look {P : α → α → Prop} {E : Fault → Fault → Prop} {f : Catalog → α}
    (hf : ∀ c c', SameMetadata c c' → P (f c) (f c')) :
    Couples SameEquipment P E (Equipment.onStore (Store.look f))
      (Equipment.onStore (Store.look f)) := by
  rintro e e' ⟨⟨c, c', hknows, hknows', hsame⟩, htsdb, hdetectors, hnetwork⟩
  rw [Equipment.onStore, Act.apply_within, Act.apply_within, apply_look hknows,
    apply_look hknows']
  exact ⟨.ok (hf c c' hsame),
    ⟨⟨c, c', knows_loaded _ _, knows_loaded _ _, hsame⟩, htsdb, hdetectors, hnetwork⟩⟩

theorem sameClient_refl (c : Client) : SameClient c c :=
  ⟨rfl, rfl, .refl c.headers, rfl⟩

theorem couples_query (q : RangeQuery) :
    Couples SameEquipment Eq Eq (Equipment.query q) (Equipment.query q) := by
  rintro e e' ⟨hstores, htsdb, hdetectors, hnetwork⟩
  obtain ⟨-, hready⟩ := sameTraffic_ready (sameClient_refl e.tsdb.client) hnetwork
  obtain ⟨hanswer, hsent⟩ := sameTraffic_send (sameRequest_refl
    { e.tsdb.request q with headers := (e.tsdb.client.ready e.network).1.headers })
    (e.tsdb.client.ready e.network).1.peer hready
  simp only [Equipment.query, Act.apply_ofFunction, Tsdb.queryRange, ← htsdb]
  refine ⟨coupled_eq_iff.mpr ?_, ⟨hstores, rfl, hdetectors, hsent⟩⟩
  exact congrArg (Except.bind · Tsdb.readResponse) hanswer

theorem couples_detect (name : String) (window : Window) (urn : String) :
    Couples SameEquipment Eq SameEntry (Equipment.detect name window urn)
      (Equipment.detect name window urn) := by
  rintro e e' ⟨hstores, htsdb, hdetectors, hnetwork⟩
  have hfound := rel_find?_of_sameRegistry hdetectors name
  simp only [Equipment.detect, Act.apply_ofFunction]
  generalize e.detectors.find? name = found at hfound
  generalize e'.detectors.find? name = found' at hfound
  cases hfound with
  | none => exact ⟨.error fun _ => rfl, ⟨hstores, htsdb, hdetectors, hnetwork⟩⟩
  | @some d d' hd =>
      obtain ⟨hanswer, hasked, hbehind⟩ := coupled_ask hd hnetwork window urn
      refine ⟨?_, ⟨hstores, htsdb, sameRegistry_put hdetectors name hasked, hbehind⟩⟩
      dsimp only
      generalize (d.ask window urn e.network).1 = r at hanswer
      generalize (d'.ask window urn e'.network).1 = r' at hanswer
      cases hanswer with
      | ok h => exact .ok (by rw [h])
      | error h => exact .error h

theorem couples_close {E : Fault → Fault → Prop} :
    Couples SameEquipment Eq E Equipment.close Equipment.close := by
  rintro e e' ⟨hstores, htsdb, hdetectors, hnetwork⟩
  obtain ⟨hregistry, hclosed⟩ := sameRegistry_close hdetectors hnetwork
  obtain ⟨-, hbehind⟩ := sameTraffic_closeClient (sameClient_refl e.tsdb.client) hclosed
  simp only [Equipment.close, Act.apply_change, Tsdb.close, ← htsdb]
  exact ⟨.ok rfl, ⟨hstores, rfl, hregistry, hbehind⟩⟩

theorem couples_metric (id : Int) :
    Couples SameEquipment Eq Eq (Equipment.onStore (Store.metric? id))
      (Equipment.onStore (Store.metric? id)) :=
  couples_look fun _ _ h => congrArg (Keyed.find? Metric.id id) h.metrics

theorem couples_dataset (name : String) :
    Couples SameEquipment Eq Eq (Equipment.onStore (Store.dataset? name))
      (Equipment.onStore (Store.dataset? name)) :=
  couples_look fun _ _ h => congrArg (Keyed.find? Dataset.name name) h.datasets

theorem couples_series (slice : Slice) :
    Couples SameEquipment Eq Eq (Equipment.series slice) (Equipment.series slice) := by
  refine couples_bind_eq ?_ fun _ => couples_pure rfl
  refine couples_bind_eq (couples_metric _) fun metric => ?_
  cases metric with
  | none => exact couples_throw rfl
  | some metric =>
      refine couples_bind_eq (couples_dataset _) fun dataset => ?_
      refine couples_bind_eq (couples_ofResult (fun _ => rfl) _) fun selector => ?_
      exact couples_bind_eq (couples_query _) fun samples => couples_pure rfl

theorem alongside_surroundings (names : List String) :
    Alongside SameEquipment SameEntry (Equipment.surroundings names)
      (Equipment.surroundings names) :=
  ⟨couples_metric, couples_dataset, couples_series, rfl, couples_detect⟩

theorem couples_setUp {E : Fault → Fault → Prop} (hE : ∀ f, E f f) :
    Couples SameEquipment Eq E Equipment.setUp Equipment.setUp := by
  have hdetectors : Couples SameEquipment
      (fun entries entries' => entries.map Data.sorted = entries') Eq
      (Equipment.onStore Store.detectors) (Equipment.onStore Store.detectors) :=
    couples_look fun _ _ h => h.detectors
  refine couples_of_eq hE (couples_bind hdetectors fun entries _ hentries => ?_)
  subst hentries
  refine couples_bind (fun e e' h => ⟨coupled_ofEntries entries, h⟩) fun r r' hr => ?_
  exact fun e e' h => ⟨.ok rfl, ⟨h.stores, h.tsdb, hr, h.network⟩⟩

theorem couples_detectOver [ZoneDatabase] (s : Scheduling) (d : Detection) (interval : Interval) :
    Couples SameEquipment Eq (SameButCauses SameEntry) (Equipment.detectOver s d interval)
      (Equipment.detectOver s d interval) := by
  refine couples_bind_eq (couples_setUp .same) fun _ => ?_
  refine couples_bind_eq ?_ fun names => ?_
  · exact fun e e' h => ⟨.ok (names_of_sameRegistry h.detectors), h⟩
  · exact couples_unlogged (couples_whole (alongside_surroundings names)
      interchangeable_sameEntry d interval s)

theorem couples_andFinally {σ τ : Type} {R : τ → σ → Prop} {P : α → β → Prop}
    {E : Fault → Fault → Prop} {a : Act τ α} {b : Act σ β} {after : Act τ Unit}
    {after' : Act σ Unit} (h : Couples R P E a b) (hafter : Couples R Eq E after after') :
    Couples R P E (a.andFinally after) (b.andFinally after') := by
  intro t s hworlds
  obtain ⟨hresults, hbehind⟩ := h t s hworlds
  obtain ⟨hclosed, hlast⟩ := hafter _ _ hbehind
  simp only [Act.andFinally, Act.apply_ofFunction]
  generalize (a.apply t).1 = r at hresults
  generalize (b.apply s).1 = r' at hresults
  generalize after.apply (a.apply t).2 = last at hclosed hlast
  generalize after'.apply (b.apply s).2 = last' at hclosed hlast
  obtain ⟨r₁, t₁⟩ := last
  obtain ⟨r₂, s₁⟩ := last'
  cases hresults with
  | error h => exact ⟨.error h, hlast⟩
  | ok h =>
      cases hclosed with
      | ok _ => exact ⟨.ok h, hlast⟩
      | error hfault => exact ⟨.error hfault, hlast⟩

def runOn [ZoneDatabase] (settings : Settings) (d : Detection) (start finish : Moment)
    (store : Store) (n : Network) : Except Fault Outcome × Network :=
  let (result, site) := (Site.execute settings d start finish).apply ⟨store, n⟩
  (result, site.network)

theorem runOn_of_error [ZoneDatabase] {start finish : Moment} {fault : Fault}
    (h : Interval.ofMoments start finish = .error fault) (settings : Settings) (d : Detection)
    (store : Store) (n : Network) : runOn settings d start finish store n = (.error fault, n) := by
  rw [runOn, Site.execute, h]
  rfl

theorem runOn_alike [ZoneDatabase] {store store' : Store} {c c' : Catalog} (h : Knows store c)
    (h' : Knows store' c') (hsame : SameMetadata c c') (settings : Settings) (d : Detection)
    (start finish : Moment) (n : Network) :
    let ran := runOn settings d start finish store n
    let ran' := runOn settings d start finish store' n
    Coupled Eq (SameButCauses SameEntry) ran.1 ran'.1 ∧ SameTraffic ran.2 ran'.2 := by
  cases hinterval : Interval.ofMoments start finish with
  | error fault =>
      rw [runOn_of_error hinterval, runOn_of_error hinterval]
      exact ⟨.error (.same fault), sameTraffic_refl n⟩
  | ok interval =>
      have hstart : SameEquipment (Equipment.forSite settings ⟨store, n⟩)
          (Equipment.forSite settings ⟨store', n⟩) :=
        ⟨⟨c, c', h, h', hsame⟩, rfl, .nil, sameTraffic_refl n⟩
      obtain ⟨hresults, hbehind⟩ := couples_andFinally
        (couples_detectOver settings.scheduling d interval) couples_close _ _ hstart
      rw [runOn, runOn, Site.execute, hinterval]
      exact ⟨hresults, hbehind.network⟩

variable {s : Service} {c : Catalog}

def outcomeResult (result : Except Fault Outcome) : Except Fault Response :=
  match result with
  | .ok outcome => Response.success outcome.toData
  | .error fault =>
    match Response.ofFault? fault with
    | some response => .ok response
    | none => .error fault

theorem apply_outcomeResponse (result : Except Fault Outcome) (s : Service) :
    (Service.outcomeResponse result).apply s = (outcomeResult result, s) := by
  unfold Service.outcomeResponse outcomeResult
  cases result with
  | ok outcome => rfl
  | error fault =>
      simp only
      cases Response.ofFault? fault with
      | none => rfl
      | some response => rfl

theorem ofFault?_of_sameButCauses {D : Fault → Fault → Prop} {f g : Fault}
    (h : SameButCauses D f g) :
    f = g ∨ ∃ response, Response.ofFault? f = some response ∧
      Response.ofFault? g = some response := by
  cases h with
  | same => exact .inl rfl
  | aborted a h => exact .inr ⟨_, rfl, rfl⟩
  | failed failure h => exact .inr ⟨_, rfl, rfl⟩

theorem outcomeResult_of_coupled {D : Fault → Fault → Prop} {r r' : Except Fault Outcome}
    (h : Coupled Eq (SameButCauses D) r r') : outcomeResult r = outcomeResult r' := by
  cases h with
  | ok h => rw [h]
  | error h =>
      rcases ofFault?_of_sameButCauses h with rfl | ⟨response, hf, hg⟩
      · rfl
      · simp only [outcomeResult, hf, hg]

/-- A call answers a run, and leaves the network as the run does. -/
def Tells (answer : Response × Service) (run : Except Fault Outcome × Network) : Prop :=
  answer.1 = responseOf (outcomeResult run.1) ∧ answer.2.network = run.2

def executionPath : List Char := "/execute/detection".toList

def runPath (name : String) : List Char :=
  pathOf name ++ "/run".toList

theorem ofPath?_executionPath : Route.ofPath? executionPath = some .execution := by
  decide

theorem partsOf_runPath {name : String} (h : '/' ∉ name.toList) :
    Route.partsOf (runPath name) = some ["detections".toList, name.toList, "run".toList] := by
  have hpath : runPath name =
      '/' :: ("detections".toList ++ '/' :: (name.toList ++ '/' :: "run".toList)) := by
    rw [runPath, pathOf, List.append_assoc]
    rfl
  rw [hpath, Route.partsOf, Text.splitAt_separator, Text.splitAt_append (by decide),
    Text.splitAt_append h, Text.splitAt_of_not_mem (by decide)]

theorem ofPath?_runPath {name : String} (h : IsSegment name) :
    Route.ofPath? (runPath name) = some (.run name) := by
  have hlist : name.toList ≠ [] := by simpa using h.1
  have hlast : Route.isLast "run" "run".toList = true := by decide
  refine ofPath?_of_parts (partsOf_runPath h.2) ?_
  rw [Route.ofParts?, if_pos ⟨rfl, hlist⟩, if_pos hlast, String.ofList_toList]

/-- A call that runs a detection it brings along. -/
structure RunsAdHoc (call : Call) (a : AdHoc) : Prop where
  method : call.method = "POST"
  path : call.address.path = executionPath
  body : call.read AdHoc.ofData = .ok a
  paired : IsPaired call.body

structure Stores (call : Call) (d : Detection) : Prop where
  method : call.method = "PUT"
  path : call.address.path = pathOf d.name
  body : call.read (Detection.ofData .modelAttributesType) = .ok d
  paired : IsPaired call.body

structure RunsStored (call : Call) (name : String) (start finish : Moment) : Prop where
  method : call.method = "POST"
  path : call.address.path = runPath name
  query : call.bounds = .ok (start, finish)

theorem dispatch_adHoc [ZoneDatabase] {call : Call} {a : AdHoc} (h : RunsAdHoc call a) :
    Service.dispatch call = Service.executeAdHoc a := by
  simp [Service.dispatch, Service.handle, Service.orRefuse, h.path, ofPath?_executionPath,
    Route.methods, h.method, h.body]

theorem dispatch_stores [ZoneDatabase] {call : Call} {d : Detection} (h : Stores call d)
    (hsegment : IsSegment d.name) :
    Service.dispatch call = Service.putDetection d.name d := by
  rw [dispatch_of_isSegment hsegment h.path (by simp [Route.methods, h.method])]
  simp [Service.handle, Service.orRefuse, h.method, h.body]

theorem dispatch_stored [ZoneDatabase] {call : Call} {name : String} {start finish : Moment}
    (h : RunsStored call name start finish) (hsegment : IsSegment name) :
    Service.dispatch call = Service.runDetection name start finish := by
  simp [Service.dispatch, Service.handle, Service.orRefuse, h.path, ofPath?_runPath hsegment,
    Route.methods, h.method, h.query]

theorem tells_adHoc [ZoneDatabase] {call : Call} {a : AdHoc} (h : RunsAdHoc call a) (s : Service) :
    Tells (Service.answer call s)
      (runOn s.settings a.detection a.start a.finish (.onFile s.file) s.network) := by
  have happly : (Service.dispatch call).apply s =
      let (result, site) := (Site.execute s.settings a.detection a.start a.finish).apply
        ⟨.onFile s.file, s.network⟩
      (outcomeResult result, { s with file := site.store.file, network := site.network }) := by
    simp only [dispatch_adHoc h, Service.executeAdHoc, Act.apply_bind, Act.apply_look,
      Service.onSite, Act.apply_within, Act.apply_attempt, apply_outcomeResponse]
  have hmethod : call.method ≠ "HEAD" := by simp [h.method]
  rw [answer_of_dispatch hmethod happly]
  exact ⟨rfl, rfl⟩

theorem tells_stored [ZoneDatabase] {call : Call} {d : Detection} {start finish : Moment}
    (h : RunsStored call d.name start finish) (hsegment : IsSegment d.name)
    (hloads : Loads s.file c) (hd : c.detection? d.name = some d) :
    Tells (Service.answer call s)
      (runOn s.settings d start finish ⟨s.file, c, true⟩ s.network) := by
  have hfound : (Site.onStore (Store.detection? d.name)).apply ⟨.onFile s.file, s.network⟩ =
      (.ok (some d), ⟨⟨s.file, c, true⟩, s.network⟩) := by
    rw [Site.onStore, Act.apply_within, Store.detection?, apply_look (knows_onFile hloads), hd]
    rfl
  have happly : (Service.dispatch call).apply s =
      let (result, site) := (Site.execute s.settings d start finish).apply
        ⟨⟨s.file, c, true⟩, s.network⟩
      (outcomeResult result, { s with file := site.store.file, network := site.network }) := by
    simp only [dispatch_stored h hsegment, Service.runDetection, Service.runNamed, Act.apply_bind,
      Act.apply_look, Service.onSite, Act.apply_within, Act.apply_attempt, Act.apply_pure, hfound,
      apply_outcomeResponse]
  have hmethod : call.method ≠ "HEAD" := by simp [h.method]
  rw [answer_of_dispatch hmethod happly]
  exact ⟨rfl, rfl⟩

theorem answer_stores [ZoneDatabase] {call : Call} {d : Detection} (h : Stores call d)
    (hsegment : IsSegment d.name) (hloads : Loads s.file c)
    (hput : (c.putDetection d).toData.isWritable = true) :
    Service.answer call s = (detectionAnswer d, withCatalog (c.putDetection d) s) := by
  have hmethod : call.method ≠ "HEAD" := by simp [h.method]
  have happly : (Service.dispatch call).apply s =
      (.ok (detectionAnswer d), withCatalog (c.putDetection d) s) := by
    rw [dispatch_stores h hsegment]
    exact apply_putDetection hloads hput
  exact answer_of_dispatch hmethod happly

/-- A detection run from the call, and one stored by one call and run by the next. -/
structure RunsAlike [ZoneDatabase] (s : Service) (adHoc store run : Call) : Prop where
  stored : (Service.answer store s).1.status = 200
  answer : (Service.answer run (Service.answer store s).2).1 = (Service.answer adHoc s).1
  network : SameTraffic (Service.answer adHoc s).2.network
    (Service.answer run (Service.answer store s).2).2.network

theorem runsAlike_of_readsBack [ZoneDatabase] (hloads : Loads s.file c) (hback : ReadsBack c)
    {d : Detection} (hsegment : IsSegment d.name) {start finish : Moment} {adHoc store run : Call}
    (hadHoc : RunsAdHoc adHoc ⟨d, start, finish⟩) (hstore : Stores store d)
    (hrun : RunsStored run d.name start finish) : RunsAlike s adHoc store run := by
  have hback' : ReadsBack (c.putDetection d) :=
    readsBack_effect hback (.save d) (isWritable_of_read hstore.body)
  have hstored : Service.answer store s = (detectionAnswer d, withCatalog (c.putDetection d) s) :=
    answer_stores hstore hsegment hloads hback'.isWritable
  have hloads' : Loads (withCatalog (c.putDetection d) s).file
      (sortedCatalog (c.putDetection d)) :=
    loads_ofData (wellKeyed_putDetection (wellKeyed_of_loads hloads) d) hback'
  have hfound : (sortedCatalog (c.putDetection d)).detection? d.name = some d :=
    Keyed.find?_put_self Detection.name d c.detections
  have hdirect := tells_adHoc hadHoc s
  have hlater := tells_stored hrun hsegment hloads' hfound
  obtain ⟨hresults, htraffic⟩ := runOn_alike (knows_onFile hloads)
    (knows_loaded (withCatalog (c.putDetection d) s).file (sortedCatalog (c.putDetection d)))
    ⟨rfl, rfl, rfl⟩ s.settings d start finish s.network
  refine ⟨?_, ?_, ?_⟩
  · rw [hstored]
    rfl
  · rw [hstored, hlater.1, hdirect.1]
    exact congrArg responseOf (outcomeResult_of_coupled hresults).symm
  · rw [hstored, hlater.2, hdirect.2]
    exact htraffic

def adHocCall (body start finish : String) : Call where
  method := "POST"
  address := ⟨executionPath, []⟩
  body := some ("\x7b\"spec\":" ++ body ++ ",\"start\":\"" ++ start ++ "\",\"end\":\"" ++ finish ++
    "\"\x7d")

def storeCall (name body : String) : Call where
  method := "PUT"
  address := ⟨pathOf name, []⟩
  body := some body

def runCall (name start finish : String) : Call where
  method := "POST"
  address := ⟨runPath name, [("start", start), ("end", finish)]⟩

/-- The calls are about one detection, and run it over one interval. -/
structure AreCalls (d : Detection) (start finish : Moment) (adHoc store run : Call) : Prop where
  segment : IsSegment d.name
  adHoc : RunsAdHoc adHoc ⟨d, start, finish⟩
  store : Stores store d
  run : RunsStored run d.name start finish

/-- Whether the calls are read alike, and give moments with a property. -/
def areRead (name body start finish : String) (p : Moment → Moment → Bool) : Bool :=
  ((adHocCall body start finish).read AdHoc.ofData).toOption.any fun a =>
    ((storeCall name body).read (Detection.ofData .modelAttributesType)).toOption.any fun d =>
      (runCall name start finish).bounds.toOption.any fun bounds =>
        d.name == name && d == a.detection && bounds == (a.start, a.finish) && p a.start a.finish

theorem exists_areCalls {name body start finish : String} {p : Moment → Moment → Bool}
    (hsegment : IsSegment name) (hstore : IsPaired (storeCall name body).body)
    (hadHoc : IsPaired (adHocCall body start finish).body)
    (h : areRead name body start finish p = true) :
    ∃ d first last, d.name = name ∧ p first last = true ∧
      AreCalls d first last (adHocCall body start finish) (storeCall name body)
        (runCall name start finish) := by
  obtain ⟨⟨detection, first, last⟩, hread, h⟩ := exists_ok_of_any h
  obtain ⟨d, hread', h⟩ := exists_ok_of_any h
  obtain ⟨bounds, hbounds, h⟩ := exists_ok_of_any h
  simp only [Bool.and_eq_true, beq_iff_eq] at h
  obtain ⟨⟨⟨rfl, rfl⟩, rfl⟩, hp⟩ := h
  exact ⟨d, first, last, rfl, hp, hsegment, ⟨rfl, rfl, hread, hadHoc⟩, ⟨rfl, rfl, hread', hstore⟩,
    ⟨rfl, rfl, hbounds⟩⟩

def areIdle (start finish : Moment) : Bool :=
  start == finish && start.asUtc.toOption.isSome

theorem ofMoments_of_areIdle {start finish : Moment} (h : areIdle start finish = true) :
    ∃ u, Interval.ofMoments start finish = .error (.emptyInterval u u) := by
  rw [areIdle, Bool.and_eq_true, beq_iff_eq] at h
  obtain ⟨rfl, hsome⟩ := h
  cases hread : start.asUtc with
  | error fault =>
      rw [hread] at hsome
      cases hsome
  | ok u =>
      refine ⟨u, ?_⟩
      rw [Interval.ofMoments, hread]
      exact if_neg (lt_irrefl u.wall)

def midnight : String := "2024-11-01T00:00:00Z"

theorem exists_hourly : ∃ d start finish, d.name = "hourly" ∧ areIdle start finish = true ∧
    AreCalls d start finish (adHocCall hourlyBody midnight midnight)
      (storeCall "hourly" hourlyBody) (runCall "hourly" midnight midnight) :=
  exists_areCalls (by decide) (isPaired_some (by decide +kernel))
    (isPaired_some (by decide +kernel)) (by decide +kernel)

theorem exists_weekly : ∃ d start finish, d.name = "weekly" ∧ areIdle start finish = true ∧
    AreCalls d start finish (adHocCall weeklyBody midnight midnight)
      (storeCall "weekly" weeklyBody) (runCall "weekly" midnight midnight) :=
  exists_areCalls (by decide) (isPaired_some (by decide +kernel))
    (isPaired_some (by decide +kernel)) (by decide +kernel)

theorem isWritable_of_stored [ZoneDatabase] {call : Call} {d : Detection} (h : Stores call d)
    (hsegment : IsSegment d.name) (hloads : Loads s.file c)
    (hstored : (Service.answer call s).1.status = 200) :
    (c.putDetection d).toData.isWritable = true := by
  by_contra hput
  have hmethod : call.method ≠ "HEAD" := by simp [h.method]
  have hfails := apply_putDetection_fails hloads hput
  rw [← dispatch_stores h hsegment] at hfails
  rw [answer_of_dispatch hmethod (Prod.ext hfails rfl)] at hstored
  cases hstored

theorem answer_run_of_unreadable [ZoneDatabase] {call : Call} {name : String}
    {start finish : Moment} (h : RunsStored call name start finish) (hsegment : IsSegment name)
    {fault : Fault} (hread : s.file.read = .error fault) :
    (Service.answer call s).1 = .internalError := by
  have hmethod : call.method ≠ "HEAD" := by simp [h.method]
  have hlost : (Store.detection? name).apply (.onFile s.file) =
      (.error fault, ((Store.detection? name).apply (.onFile s.file)).2) :=
    Prod.ext (apply_look_of_unreadable hread _) rfl
  have hfails : ((Service.dispatch call).apply s).1 = .error fault := by
    rw [dispatch_stored h hsegment]
    simp only [Service.runDetection, Service.runNamed, Act.apply_bind, Act.apply_look,
      Service.onSite, Act.apply_within, Site.onStore]
    rw [hlost]
  rw [answer_of_dispatch hmethod (Prod.ext hfails rfl)]
  rfl

theorem answer_run_of_not_isPlain [ZoneDatabase] (hloads : Loads s.file c)
    (hwritable : c.toData.isWritable = true) (hplain : c.toData.isPlain ≠ true) {d : Detection}
    {start finish : Moment} {adHoc store run : Call}
    (hcalls : AreCalls d start finish adHoc store run) :
    (Service.answer run (Service.answer store s).2).1 = .internalError := by
  have hput : (c.putDetection d).toData.isWritable = true :=
    isWritable_effect hwritable (.save d) (isWritable_of_read hcalls.store.body)
  have hlost : (withCatalog (c.putDetection d) s).file.read = .error .notYaml :=
    read_of_not_isPlain hput (isPlain_effect (.save d) c ▸ hplain)
  rw [answer_stores hcalls.store hcalls.segment hloads hput]
  exact answer_run_of_unreadable hcalls.run hcalls.segment hlost

/-- Where the catalog cannot be read again, the stored detection is not found, while one that comes
with the call is refused for its interval. -/
theorem not_runsAlike_of_not_isPlain [ZoneDatabase] (hloads : Loads s.file c)
    (hwritable : c.toData.isWritable = true) (hplain : c.toData.isPlain ≠ true) {d : Detection}
    {start finish : Moment} (hidle : areIdle start finish = true) {adHoc store run : Call}
    (hcalls : AreCalls d start finish adHoc store run) : ¬RunsAlike s adHoc store run := by
  intro halike
  have hanswer := halike.answer
  obtain ⟨u, hinterval⟩ := ofMoments_of_areIdle hidle
  rw [answer_run_of_not_isPlain hloads hwritable hplain hcalls, (tells_adHoc hcalls.adHoc s).1,
    runOn_of_error hinterval] at hanswer
  have hstatus : (500 : Int) = 400 := congrArg Response.status hanswer
  cases hstatus

/-- A detection is run alike from the call and from the catalog, exactly if the catalog can be
written down and what is written can be read again. -/
theorem runsAlike_iff [ZoneDatabase] (hloads : Loads s.file c) :
    (∀ (d : Detection) (start finish : Moment) (adHoc store run : Call), IsSegment d.name →
      RunsAdHoc adHoc ⟨d, start, finish⟩ → Stores store d → RunsStored run d.name start finish →
        RunsAlike s adHoc store run) ↔
    (∀ entry ∈ c.detectors, entry.isPlain = true) ∧ c.toData.isWritable = true := by
  rw [← readsBack_iff]
  constructor
  · intro h
    obtain ⟨d, start, finish, hname, hidle, hcalls⟩ := exists_hourly
    have halike := h d start finish _ _ _ hcalls.segment hcalls.adHoc hcalls.store hcalls.run
    have hwritable : c.toData.isWritable = true := by
      by_contra hnot
      obtain ⟨d', start', finish', hname', -, hcalls'⟩ := exists_weekly
      have halike' := h d' start' finish' _ _ _ hcalls'.segment hcalls'.adHoc hcalls'.store
        hcalls'.run
      have hne : d.name ≠ d'.name := by
        rw [hname, hname']
        decide
      rcases not_isWritable_put hnot hne with hput | hput
      · exact hput (isWritable_of_stored hcalls.store hcalls.segment hloads halike.stored)
      · exact hput (isWritable_of_stored hcalls'.store hcalls'.segment hloads halike'.stored)
    refine ⟨?_, hwritable⟩
    by_contra hplain
    exact not_runsAlike_of_not_isPlain hloads hwritable hplain hidle hcalls halike
  · intro hback d start finish adHoc store run hsegment hadHoc hstore hrun
    exact runsAlike_of_readsBack hloads hback hsegment hadHoc hstore hrun

def seriesBody : String :=
  "\x7b\"status\":\"success\"," ++
    "\"data\":\x7b\"result\":[\x7b\"values\":[[1730419200,\"1\"]]\x7d]\x7d\x7d"

/-- The answer of a detector that tells of a spike, and of the sample that it was found in. -/
def spikeBody : String :=
  "\x7b\"anomalies\":[\x7b\"start\":\"2024-11-01T00:00:00Z\",\"end\":\"2024-11-02T00:00:00Z\"," ++
    "\"properties\":\x7b\"_sample\":5\x7d\x7d]\x7d"

def spikesService (file : CatalogFile) : Service :=
  { serviceOver file with
    network :=
      { replies := [("GET http://localhost:8428/api/v1/query_range", [.answered ⟨200, seriesBody⟩]),
          ("POST http://spikes/", [.answered ⟨200, spikeBody⟩])] } }

def dailyBody : String :=
  "\x7b\"name\":\"daily\",\"metric_urn\":\"slidewatch:metric:1\",\"detector\":\"spikes\"\x7d"

def nextMidnight : String := "2024-11-02T00:00:00Z"

/-- The calls that run the detection over one day, store it, and run it from there. -/
def dailyAdHoc : Call := adHocCall dailyBody midnight nextMidnight
def dailyStore : Call := storeCall "daily" dailyBody
def dailyStored : Call := runCall "daily" midnight nextMidnight

theorem exists_daily :
    ∃ d start finish, AreCalls d start finish dailyAdHoc dailyStore dailyStored := by
  have hread : areRead "daily" dailyBody midnight nextMidnight (fun _ _ => true) = true := by
    decide +kernel
  have hpaired : IsPaired dailyAdHoc.body := isPaired_some (by decide +kernel)
  obtain ⟨d, start, finish, -, -, hcalls⟩ :=
    exists_areCalls (by decide) (isPaired_some (by decide +kernel)) hpaired hread
  exact ⟨d, start, finish, hcalls⟩

def asked (n : Network) : List Peer :=
  n.traffic.filterMap fun
    | .sent peer _ => some peer
    | _ => none

open scoped ZoneTable

def spikesCatalog : Catalog where
  datasets := [{ name := "site" }]
  metrics := [{ id := 1, name := "visits", dataset := "site" }]
  detectors := [.ofFields [("name", .text "spikes"), ("endpoint", .text "http://spikes/"),
    ("parameters", .ofFields [("window", .int 3), ("alpha", .int 1)])]]

theorem daily_runs_alike :
    ∃ c d start finish, Loads (.saved spikesCatalog.toData) c ∧
      AreCalls d start finish dailyAdHoc dailyStore dailyStored ∧
      let s := spikesService (.saved spikesCatalog.toData)
      RunsAlike s dailyAdHoc dailyStore dailyStored ∧
        (Service.answer dailyAdHoc s).1.status = 200 ∧
        asked (Service.answer dailyAdHoc s).2.network =
          [.database, .detector "spikes", .database] := by
  have hcheck : (loaded? (.saved spikesCatalog.toData)).any (fun c =>
      c.toData.isPlain && c.toData.isWritable) = true := by decide +kernel
  obtain ⟨c, hloads, hc⟩ := exists_loads hcheck
  rw [Bool.and_eq_true] at hc
  obtain ⟨d, start, finish, hcalls⟩ := exists_daily
  have hservice : Loads (spikesService (.saved spikesCatalog.toData)).file c := hloads
  have halike := (runsAlike_iff hservice).mpr ((readsBack_iff c).mp ⟨hc.1, hc.2⟩) d start finish
    dailyAdHoc dailyStore dailyStored hcalls.segment hcalls.adHoc hcalls.store hcalls.run
  exact ⟨c, d, start, finish, hloads, hcalls, halike, by decide +kernel⟩

def stagedFile : CatalogFile :=
  .text "datasets: [\x7bname: site\x7d]
metrics: [\x7bid: 1, name: visits, dataset: site\x7d]
detectors: [\x7bname: spikes, endpoint: http://spikes/,
  parameters: \x7bstages: !!omap [smooth: 7]\x7d\x7d]"

theorem staged_runs_differ :
    ∃ c d start finish, Loads stagedFile c ∧
      AreCalls d start finish dailyAdHoc dailyStore dailyStored ∧
      let s := spikesService stagedFile
      (Service.answer dailyAdHoc s).1.status = 200 ∧
        (Service.answer dailyStored (Service.answer dailyStore s).2).1 = .internalError ∧
        ¬RunsAlike s dailyAdHoc dailyStore dailyStored := by
  have hcheck : (loaded? stagedFile).any (fun c =>
      c.toData.isWritable && !c.toData.isPlain) = true := by decide +kernel
  obtain ⟨c, hloads, hc⟩ := exists_loads hcheck
  simp only [Bool.and_eq_true, Bool.not_eq_true'] at hc
  obtain ⟨hwritable, hplain⟩ := hc
  obtain ⟨d, start, finish, hcalls⟩ := exists_daily
  have hservice : Loads (spikesService stagedFile).file c := hloads
  have hdirect : (Service.answer dailyAdHoc (spikesService stagedFile)).1.status = 200 := by
    decide +kernel
  have hlater : (Service.answer dailyStored
      (Service.answer dailyStore (spikesService stagedFile)).2).1 = .internalError :=
    answer_run_of_not_isPlain hservice hwritable (ne_true_of_eq_false hplain) hcalls
  refine ⟨c, d, start, finish, hloads, hcalls, hdirect, hlater, fun halike => ?_⟩
  rw [← halike.answer, hlater] at hdirect
  cases hdirect

end AnomalyWindows.Proofs.StoredRuns
