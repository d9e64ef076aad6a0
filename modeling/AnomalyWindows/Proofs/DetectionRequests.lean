import AnomalyWindows.Calendar.ZoneTable
import AnomalyWindows.Proofs.DetectionHandlers
import AnomalyWindows.Proofs.JsonData
import Mathlib.Logic.Function.Basic

namespace AnomalyWindows.Proofs.DetectionRequests

open Calendar
open AnomalyWindows.Proofs.CatalogRoundTrip AnomalyWindows.Proofs.ReopenedStores
open AnomalyWindows.Proofs.DetectionHandlers AnomalyWindows.Proofs.JsonData

/-- Detections under their names, which stand in the order in which they came up. -/
structure DetectionMap where
  names : List String
  spec : String → Option Detection

namespace DetectionMap

def empty : DetectionMap := ⟨[], fun _ => none⟩

def insert (d : Detection) (m : DetectionMap) : DetectionMap where
  names := if d.name ∈ m.names then m.names else m.names ++ [d.name]
  spec := Function.update m.spec d.name (some d)

def remove (name : String) (m : DetectionMap) : DetectionMap where
  names := m.names.filter (· ≠ name)
  spec := Function.update m.spec name none

def ofList (ds : List Detection) : DetectionMap :=
  ds.foldl (fun m d => m.insert d) empty

def listed (m : DetectionMap) : List Detection :=
  m.names.filterMap m.spec

end DetectionMap

/-- A list of detections is what a map holds. -/
structure Represents (ds : List Detection) (m : DetectionMap) : Prop where
  nodup : (ds.map Detection.name).Nodup
  names : m.names = ds.map Detection.name
  spec : ∀ name, m.spec name = Keyed.find? Detection.name name ds

theorem represents_put {ds : List Detection} {m : DetectionMap} (h : Represents ds m)
    (d : Detection) : Represents (Keyed.put Detection.name d ds) (m.insert d) := by
  refine ⟨Keyed.nodup_put Detection.name d h.nodup, ?_, ?_⟩
  · rw [Keyed.map_key_put, ← h.names]
    rfl
  · intro name
    by_cases hname : name = d.name
    · simp [DetectionMap.insert, hname, Keyed.find?_put_self]
    · simp [DetectionMap.insert, hname, Keyed.find?_put_of_ne Detection.name hname, h.spec]

theorem represents_erase {ds : List Detection} {m : DetectionMap} (h : Represents ds m)
    (name : String) : Represents (Keyed.erase Detection.name name ds) (m.remove name) := by
  refine ⟨Keyed.nodup_erase Detection.name name h.nodup, ?_, ?_⟩
  · rw [Keyed.map_key_erase, ← h.names]
    rfl
  · intro other
    by_cases hname : other = name
    · simp [DetectionMap.remove, hname, Keyed.find?_erase_self]
    · simp [DetectionMap.remove, hname, Keyed.find?_erase_of_ne Detection.name hname, h.spec]

theorem represents_ofList (ds : List Detection) :
    Represents (Keyed.ofList Detection.name ds) (DetectionMap.ofList ds) := by
  suffices h : ∀ done m, Represents done m →
      Represents (ds.foldl (fun done d => Keyed.put Detection.name d done) done)
        (ds.foldl (fun m d => m.insert d) m) from h [] .empty ⟨List.nodup_nil, rfl, fun _ => rfl⟩
  induction ds with
  | nil => exact fun done m h => h
  | cons d rest ih => exact fun done m h => ih _ _ (represents_put h d)

theorem listed_of_represents {ds : List Detection} {m : DetectionMap} (h : Represents ds m) :
    m.listed = ds := by
  rw [DetectionMap.listed, h.names, show m.spec = _ from funext h.spec]
  exact Keyed.filterMap_find?_keys Detection.name h.nodup

theorem mem_names_iff {ds : List Detection} {m : DetectionMap} (h : Represents ds m)
    (name : String) : name ∈ m.names ↔ (Keyed.find? Detection.name name ds).isSome = true := by
  rw [h.names, Option.isSome_iff_ne_none, ne_eq, Keyed.find?_eq_none_iff, not_not]

inductive DetectionRequest
  | list
  | get (name : String)
  | put (name : String) (body : Option String)
  | delete (name : String)

namespace DetectionRequest

def call : DetectionRequest → Call
  | list => { method := "GET", address := ⟨detectionsPath, []⟩ }
  | get name => { method := "GET", address := ⟨pathOf name, []⟩ }
  | put name body => { method := "PUT", address := ⟨pathOf name, []⟩, body }
  | delete name => { method := "DELETE", address := ⟨pathOf name, []⟩ }

def IsUsable : DetectionRequest → Prop
  | list => True
  | get name | delete name => IsSegment name
  | put name body => IsSegment name ∧ IsPaired body

end DetectionRequest

open DetectionRequest

/-- The detection that the body of a request holds, or the answer to a body that holds none. -/
def detectionIn (request : DetectionRequest) : Except Response Detection :=
  request.call.read (Detection.ofData .modelAttributesType)

namespace DetectionMap

def answer (m : DetectionMap) (request : DetectionRequest) : Response × DetectionMap :=
  match request with
  | .list => (listAnswer m.listed, m)
  | .get name => ((m.spec name).elim (.unknownDetection name) detectionAnswer, m)
  | .put name _ =>
    match detectionIn request with
    | .ok d =>
      if d.name = name then (detectionAnswer d, m.insert d) else (.nameMismatch d.name name, m)
    | .error response => (response, m)
  | .delete name =>
    if name ∈ m.names then (deletedAnswer name, m.remove name) else (.unknownDetection name, m)

end DetectionMap

variable {s : Service} {c : Catalog}

theorem dispatch_list [ZoneDatabase] : Service.dispatch list.call = Service.listDetections := rfl

theorem dispatch_get [ZoneDatabase] {name : String} (h : IsSegment name) :
    Service.dispatch (get name).call = Service.getDetection name :=
  dispatch_of_isSegment h rfl (by simp [Route.methods, call])

theorem dispatch_put [ZoneDatabase] {name : String} (h : IsSegment name) (body : Option String) :
    Service.dispatch (put name body).call =
      Service.orRefuse (detectionIn (put name body)) (Service.putDetection name) :=
  dispatch_of_isSegment h rfl (by simp [Route.methods, call])

theorem dispatch_delete [ZoneDatabase] {name : String} (h : IsSegment name) :
    Service.dispatch (delete name).call = Service.deleteDetection name :=
  dispatch_of_isSegment h rfl (by simp [Route.methods, call])

theorem method_ne_head (request : DetectionRequest) : request.call.method ≠ "HEAD" := by
  cases request <;> simp [call]

def change? (request : DetectionRequest) (c : Catalog) : Option StoreCall :=
  match request with
  | .list | .get _ => none
  | .put name _ =>
    match detectionIn request with
    | .ok d => if d.name = name then some (.save d) else none
    | .error _ => none
  | .delete name => if (c.detection? name).isSome then some (.delete name) else none

theorem answer_eq [ZoneDatabase] (request : DetectionRequest) (hrequest : request.IsUsable)
    (hloads : Loads s.file c) (hwritable : c.toData.isWritable = true) {m : DetectionMap}
    (hm : Represents c.detections m) :
    Service.answer request.call s =
      ((m.answer request).1,
        (change? request c).elim s fun change => withCatalog (change.effect c) s) := by
  suffices h : (Service.dispatch request.call).apply s = (.ok (m.answer request).1,
      (change? request c).elim s fun change => withCatalog (change.effect c) s) from
    answer_of_dispatch (method_ne_head request) h
  cases request with
  | list =>
      rw [dispatch_list, apply_listDetections hloads hwritable, DetectionMap.answer,
        listed_of_represents hm]
      rfl
  | get name =>
      rw [dispatch_get hrequest, apply_getDetection hloads hwritable, DetectionMap.answer, hm.spec]
      rfl
  | put name body =>
      rw [dispatch_put hrequest.1]
      unfold DetectionMap.answer change?
      cases hread : detectionIn (put name body) with
      | error response => rfl
      | ok d =>
          rcases eq_or_ne d.name name with rfl | hname
          · have hput : (c.putDetection d).toData.isWritable = true :=
              isWritable_effect hwritable (.save d) (isWritable_of_read hread)
            simp only [Service.orRefuse, apply_putDetection hloads hput, if_true, Option.elim_some,
              StoreCall.effect]
          · simp only [Service.orRefuse, apply_putDetection_of_ne hname, if_neg hname,
              Option.elim_none]
  | delete name =>
      have herased : (c.eraseDetection name).toData.isWritable = true :=
        isWritable_effect hwritable (.delete name) trivial
      rw [dispatch_delete hrequest, apply_deleteDetection hloads herased]
      unfold DetectionMap.answer change?
      simp only [mem_names_iff hm]
      -- Map and catalog decide by the same condition now, so one split is enough for both.
      change _ =
        (Except.ok (if (c.detection? name).isSome = true then _ else _ : Response × _).1, _)
      cases (c.detection? name).isSome with
      | false => rfl
      | true => rfl

theorem change_cases (request : DetectionRequest) {m : DetectionMap}
    (hm : Represents c.detections m) :
    ((m.answer request).2 = m ∧ change? request c = none) ∨
      (∃ d, m.answer request = (detectionAnswer d, m.insert d) ∧
        change? request c = some (.save d)) ∨
      ∃ name, m.answer request = (deletedAnswer name, m.remove name) ∧
        change? request c = some (.delete name) := by
  cases request with
  | list => exact .inl ⟨rfl, rfl⟩
  | get name => exact .inl ⟨rfl, rfl⟩
  | put name body =>
      unfold DetectionMap.answer change?
      cases detectionIn (put name body) with
      | error response => exact .inl ⟨rfl, rfl⟩
      | ok d =>
          by_cases hname : d.name = name
          · exact .inr (.inl ⟨d, if_pos hname, if_pos hname⟩)
          · exact .inl ⟨by simp [hname], if_neg hname⟩
  | delete name =>
      have hmem : name ∈ m.names ↔ (c.detection? name).isSome = true := mem_names_iff hm name
      unfold DetectionMap.answer change?
      by_cases hname : name ∈ m.names
      · exact .inr (.inr ⟨name, if_pos hname, if_pos (hmem.mp hname)⟩)
      · exact .inl ⟨by simp [hname], if_neg (hname ∘ hmem.mpr)⟩

theorem isWritable_of_change {request : DetectionRequest} {change : StoreCall}
    (h : change? request c = some change) : change.IsWritable := by
  unfold change? at h
  split at h
  · cases h
  · cases h
  · split at h
    · next hread =>
        split at h
        · cases h
          exact isWritable_of_read hread
        · cases h
    · cases h
  · split at h
    · cases h
      trivial
    · cases h

/-- The service stands for a map: it reads the detections of the map from its file, and what it
writes down can be read again. -/
def StandsFor (s : Service) (m : DetectionMap) : Prop :=
  ∃ c, Loads s.file c ∧ ReadsBack c ∧ Represents c.detections m

theorem standsFor_withCatalog {m : DetectionMap} (hloads : Loads s.file c) (hback : ReadsBack c)
    {change : StoreCall} (hchange : change.IsWritable)
    (hm : Represents (change.effect c).detections m) :
    StandsFor (withCatalog (change.effect c) s) m := by
  have hback' : ReadsBack (change.effect c) := readsBack_effect hback change hchange
  have hkeyed : WellKeyed (change.effect c) := wellKeyed_effect (wellKeyed_of_loads hloads) change
  exact ⟨_, loads_ofData hkeyed hback', (readsBack_sortedCatalog _).mpr hback', hm⟩

/-- One request: the answer is the one of the map, the service stands for the map behind it, and a
request that is refused leaves the file as it was. -/
theorem standsFor_answer [ZoneDatabase] {m : DetectionMap} (h : StandsFor s m)
    (request : DetectionRequest)
    (hrequest : request.IsUsable) :
    (Service.answer request.call s).1 = (m.answer request).1 ∧
      StandsFor (Service.answer request.call s).2 (m.answer request).2 ∧
      ((Service.answer request.call s).1.status ≠ 200 →
        (Service.answer request.call s).2.file = s.file) := by
  obtain ⟨c, hloads, hback, hm⟩ := h
  have hstands : StandsFor s m := ⟨c, hloads, hback, hm⟩
  rw [answer_eq request hrequest hloads hback.isWritable hm]
  rcases change_cases request hm with ⟨hsame, hnone⟩ | ⟨d, hanswer, hsome⟩ | ⟨name, hanswer, hsome⟩
  · rw [hsame, hnone]
    exact ⟨rfl, hstands, fun _ => rfl⟩
  · rw [hanswer, hsome]
    have hchange := isWritable_of_change hsome
    refine ⟨rfl, standsFor_withCatalog hloads hback hchange (represents_put hm d), ?_⟩
    exact fun hrefused => absurd rfl hrefused
  · rw [hanswer, hsome]
    have hchange := isWritable_of_change hsome
    refine ⟨rfl, standsFor_withCatalog hloads hback hchange (represents_erase hm name), ?_⟩
    exact fun hrefused => absurd rfl hrefused

def answers {σ : Type} (answer : σ → DetectionRequest → Response × σ) :
    List DetectionRequest → σ → List Response × σ
  | [], s => ([], s)
  | request :: rest, s =>
    let (response, s) := answer s request
    let (responses, s) := answers answer rest s
    (response :: responses, s)

def served [ZoneDatabase] (s : Service) (request : DetectionRequest) : Response × Service :=
  Service.answer request.call s

theorem standsFor_answers [ZoneDatabase] {m : DetectionMap} (h : StandsFor s m)
    {requests : List DetectionRequest} (hrequests : ∀ request ∈ requests, request.IsUsable) :
    (answers served requests s).1 = (answers DetectionMap.answer requests m).1 ∧
      StandsFor (answers served requests s).2 (answers DetectionMap.answer requests m).2 := by
  induction requests generalizing s m with
  | nil => exact ⟨rfl, h⟩
  | cons request rest ih =>
      obtain ⟨hrequest, hrest⟩ := List.forall_mem_cons.mp hrequests
      obtain ⟨hanswer, hstands, -⟩ := standsFor_answer h request hrequest
      obtain ⟨hanswers, hbehind⟩ := ih hstands hrest
      exact ⟨congrArg₂ List.cons hanswer hanswers, hbehind⟩

/-- Requests to a service, and any request behind them, are answered as by a map. -/
structure FollowsMap [ZoneDatabase] (s : Service) (m : DetectionMap)
    (requests : List DetectionRequest) :
    Prop where
  answers : (answers served requests s).1 = (answers DetectionMap.answer requests m).1
  refused : ∀ request : DetectionRequest, request.IsUsable →
    let s' := (DetectionRequests.answers served requests s).2
    (served s' request).1.status ≠ 200 → (served s' request).2.file = s'.file
  stored : ∀ body (d : Detection), (put d.name body).IsUsable →
    detectionIn (put d.name body) = .ok d →
    let s' := (DetectionRequests.answers served requests s).2
    (served s' (put d.name body)).1 = detectionAnswer d ∧
      (served (served s' (put d.name body)).2 (get d.name)).1 = detectionAnswer d
  position : ∀ name body,
    let m' := (DetectionRequests.answers DetectionMap.answer requests m).2
    name ∈ m'.names → (m'.answer (put name body)).2.names = m'.names

theorem answer_put_of_read {body : Option String} {d : Detection} (m : DetectionMap)
    (h : detectionIn (put d.name body) = .ok d) :
    m.answer (put d.name body) = (detectionAnswer d, m.insert d) := by
  unfold DetectionMap.answer
  simp only [h, if_true]

theorem names_answer_put {name : String} {m : DetectionMap} (body : Option String)
    (h : name ∈ m.names) : (m.answer (put name body)).2.names = m.names := by
  unfold DetectionMap.answer
  cases detectionIn (put name body) with
  | error response => rfl
  | ok d =>
      by_cases hname : d.name = name
      · simp [hname, DetectionMap.insert, h]
      · simp [hname]

theorem followsMap_of_standsFor [ZoneDatabase] {m : DetectionMap} (h : StandsFor s m)
    {requests : List DetectionRequest} (hrequests : ∀ request ∈ requests, request.IsUsable) :
    FollowsMap s m requests := by
  obtain ⟨hanswers, hbehind⟩ := standsFor_answers h hrequests
  refine ⟨hanswers, ?_, ?_, ?_⟩
  · intro request hrequest s'
    exact (standsFor_answer hbehind request hrequest).2.2
  · intro body d hrequest hread s'
    obtain ⟨hput, hstands, -⟩ := standsFor_answer hbehind (put d.name body) hrequest
    obtain ⟨hget, -, -⟩ := standsFor_answer hstands (get d.name) hrequest.1
    rw [answer_put_of_read _ hread] at hput hget
    refine ⟨hput, hget.trans ?_⟩
    simp [DetectionMap.answer, DetectionMap.insert]
  · intro name body m' hname
    exact names_answer_put body hname

def validDetections (file : CatalogFile) : List Detection :=
  match (partsIn? file).map (Catalog.sectionOf Catalog.detectionsName) with
  | some (.ok entries) => itemsIn (Detection.ofRecord .modelType) entries
  | _ => []

theorem detections_of_loads {file : CatalogFile} (h : Loads file c) :
    c.detections = Keyed.ofList Detection.name (validDetections file) := by
  obtain ⟨r, sections, hparts, hof, -, rfl⟩ := (loads_iff file c).mp h
  have hvalid : validDetections file = sections.validDetections := by
    rw [validDetections, hparts, Option.map_some, hof.detections]
    rfl
  rw [hvalid]
  rfl

def mapIn (file : CatalogFile) : DetectionMap :=
  .ofList (validDetections file)

theorem represents_mapIn {file : CatalogFile} (h : Loads file c) :
    Represents c.detections (mapIn file) := by
  rw [detections_of_loads h]
  exact represents_ofList _

theorem answer_list_of_unreadable [ZoneDatabase]
    (h : (CatalogFile.ofData c.toData).read = .error .notYaml) (s : Service) :
    (served (withCatalog c s) list).1 = .internalError := by
  have hstore : (Store.detections.apply (.onFile (.ofData c.toData))).1 = .error .notYaml :=
    apply_look_of_unreadable h Catalog.detections
  have hlist : ((Service.dispatch list.call).apply (withCatalog c s)).1 = .error .notYaml := by
    rw [dispatch_list, Service.listDetections, Act.apply_bind, Service.onStore, Act.apply_within]
    simp only [withCatalog, hstore]
  simp only [served, Service.answer, hlist]
  rfl

theorem change?_put_of_read {body : Option String} {d : Detection} (c : Catalog)
    (h : detectionIn (put d.name body) = .ok d) :
    change? (put d.name body) c = some (.save d) := by
  unfold change?
  simp only [h, if_true]

theorem answers_of_not_isPlain [ZoneDatabase] (hloads : Loads s.file c)
    (hwritable : c.toData.isWritable = true) (hplain : c.toData.isPlain ≠ true)
    {body : Option String} {d : Detection} (hrequest : (put d.name body).IsUsable)
    (hread : detectionIn (put d.name body) = .ok d) :
    (answers served [put d.name body, list] s).1 = [detectionAnswer d, .internalError] := by
  have hput : served s (put d.name body) =
      (detectionAnswer d, withCatalog (c.putDetection d) s) := by
    rw [served, answer_eq (put d.name body) hrequest hloads hwritable (represents_mapIn hloads),
      answer_put_of_read _ hread, change?_put_of_read c hread]
    rfl
  have hlost : (CatalogFile.ofData (c.putDetection d).toData).read = .error .notYaml :=
    read_of_not_isPlain (isWritable_effect hwritable (.save d) (isWritable_of_read hread))
      (isPlain_effect (.save d) c ▸ hplain)
  have hlist : (served (withCatalog (c.putDetection d) s) list).1 = .internalError :=
    answer_list_of_unreadable hlost s
  simp only [answers, hput, hlist]

theorem not_followsMap [ZoneDatabase] (hloads : Loads s.file c)
    (hwritable : c.toData.isWritable = true) (hplain : c.toData.isPlain ≠ true)
    {body : Option String} {d : Detection} (hrequest : (put d.name body).IsUsable)
    (hread : detectionIn (put d.name body) = .ok d) (m : DetectionMap) :
    ¬FollowsMap s m [put d.name body, list] := by
  intro hfollows
  have hanswers := hfollows.answers
  rw [answers_of_not_isPlain hloads hwritable hplain hrequest hread] at hanswers
  simp only [answers, answer_put_of_read m hread, List.cons.injEq, and_true, true_and] at hanswers
  have hstatus : (500 : Int) = 200 := congrArg Response.status hanswers
  cases hstatus

theorem isWritable_of_stored [ZoneDatabase] (hloads : Loads s.file c) {m : DetectionMap}
    (hfollows : FollowsMap s m []) {body : Option String} {d : Detection}
    (hrequest : (put d.name body).IsUsable) (hread : detectionIn (put d.name body) = .ok d) :
    (c.putDetection d).toData.isWritable = true := by
  by_contra hput
  have hanswer : (served s (put d.name body)).1 = detectionAnswer d :=
    (hfollows.stored body d hrequest hread).1
  have hfails : ((Service.dispatch (put d.name body).call).apply s).1 =
      .error .integerTooLong := by
    rw [dispatch_put hrequest.1, hread]
    exact apply_putDetection_fails hloads hput
  have hfault : (served s (put d.name body)).1 = .internalError := by
    simp only [served, Service.answer, hfails]
    rfl
  have hstatus : (500 : Int) = 200 := congrArg Response.status (hfault.symm.trans hanswer)
  cases hstatus

theorem exists_put {name body : String} (hsegment : IsSegment name)
    (hpaired : arePaired (escapes body.toList) = true)
    (h : (detectionIn (put name (some body))).toOption.any (fun d => d.name == name) = true) :
    ∃ d : Detection, d.name = name ∧ (put d.name (some body)).IsUsable ∧
      detectionIn (put d.name (some body)) = .ok d := by
  obtain ⟨d, hread, hname⟩ := exists_ok_of_any h
  obtain rfl := beq_iff_eq.mp hname
  exact ⟨d, rfl, ⟨hsegment, isPaired_some hpaired⟩, hread⟩

theorem exists_put_hourly : ∃ d : Detection, d.name = "hourly" ∧
    (put d.name (some hourlyBody)).IsUsable ∧ detectionIn (put d.name (some hourlyBody)) = .ok d :=
  exists_put (by decide) (by decide +kernel) (by decide +kernel)

theorem exists_put_weekly : ∃ d : Detection, d.name = "weekly" ∧
    (put d.name (some weeklyBody)).IsUsable ∧ detectionIn (put d.name (some weeklyBody)) = .ok d :=
  exists_put (by decide) (by decide +kernel) (by decide +kernel)

theorem readsBack_of_followsMap [ZoneDatabase] (hloads : Loads s.file c)
    (h : ∀ requests : List DetectionRequest, (∀ request ∈ requests, request.IsUsable) →
      FollowsMap s (mapIn s.file) requests) : ReadsBack c := by
  obtain ⟨d, hname, hrequest, hread⟩ := exists_put_hourly
  have hwritable : c.toData.isWritable = true := by
    by_contra hnot
    -- Setting a detection drops one entry at most, which is not the same one for both of these.
    obtain ⟨d', hname', hrequest', hread'⟩ := exists_put_weekly
    have hnil : FollowsMap s (mapIn s.file) [] := h [] (List.forall_mem_nil _)
    have hne : d.name ≠ d'.name := by
      rw [hname, hname']
      decide
    rcases not_isWritable_put hnot hne with hput | hput
    · exact hput (isWritable_of_stored hloads hnil hrequest hread)
    · exact hput (isWritable_of_stored hloads hnil hrequest' hread')
  refine ⟨?_, hwritable⟩
  by_contra hplain
  refine not_followsMap hloads hwritable hplain hrequest hread _ (h _ ?_)
  exact List.forall_mem_cons.mpr ⟨hrequest, List.forall_mem_singleton.mpr trivial⟩

/-- The requests on detections are those on an ordered map exactly if the catalog of the file can be
written down, and what is written can be read again. -/
theorem followsMap_iff [ZoneDatabase] (hloads : Loads s.file c) :
    (∀ requests : List DetectionRequest, (∀ request ∈ requests, request.IsUsable) →
      FollowsMap s (mapIn s.file) requests) ↔
    (∀ entry ∈ c.detectors, entry.isPlain = true) ∧ c.toData.isWritable = true := by
  rw [← readsBack_iff]
  refine ⟨readsBack_of_followsMap hloads, fun hback requests hrequests => ?_⟩
  exact followsMap_of_standsFor ⟨c, hloads, hback, represents_mapIn hloads⟩ hrequests

open scoped ZoneTable

theorem visitsFile_followsMap :
    ∃ c, Loads visitsFile c ∧
      ∀ requests : List DetectionRequest, (∀ request ∈ requests, request.IsUsable) →
        FollowsMap (serviceOver visitsFile) (mapIn visitsFile) requests := by
  obtain ⟨c, hloads, hback, -⟩ := visitsFile_loads
  have hservice : Loads (serviceOver visitsFile).file c := hloads
  exact ⟨c, hloads, (followsMap_iff hservice).mpr ((readsBack_iff c).mp hback)⟩

theorem stagesFile_list_fails :
    ∃ d : Detection, d.name = "hourly" ∧
      (answers served [put "hourly" (some hourlyBody), list] (serviceOver stagesFile)).1 =
        [detectionAnswer d, .internalError] ∧
      ¬FollowsMap (serviceOver stagesFile) (mapIn stagesFile)
        [put "hourly" (some hourlyBody), list] := by
  obtain ⟨c, hloads, hwritable, hplain, -⟩ := stagesFile_loads
  obtain ⟨d, hname, hrequest, hread⟩ := exists_put_hourly
  have hservice : Loads (serviceOver stagesFile).file c := hloads
  refine ⟨d, hname, ?_⟩
  rw [← hname]
  exact ⟨answers_of_not_isPlain hservice hwritable hplain hrequest hread,
    not_followsMap hservice hwritable hplain hrequest hread _⟩

end AnomalyWindows.Proofs.DetectionRequests
