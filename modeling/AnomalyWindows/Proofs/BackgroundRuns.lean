import AnomalyWindows.Calendar.ZoneTable
import AnomalyWindows.Proofs.RequestedMoments
import AnomalyWindows.Proofs.RunHandlers

namespace AnomalyWindows.Proofs.BackgroundRuns

open AnomalyWindows.Calendar
open AnomalyWindows.Proofs.DetectionHandlers AnomalyWindows.Proofs.StoredRuns
open AnomalyWindows.Proofs.WrittenMoments AnomalyWindows.Proofs.RequestedMoments
open AnomalyWindows.Proofs.RunHandlers

mutual

/-- No entry of data is kept from readers, at any depth. -/
def isOpen : Data → Bool
  | .list items => areOpen items
  | .pair key value => isOpen key && isOpen value
  | .map entries => entriesOpen entries
  | _ => true

def areOpen : List Data → Bool
  | [] => true
  | item :: rest => isOpen item && areOpen rest

def entriesOpen : List (Data × Data) → Bool
  | [] => true
  | (key, value) :: rest => !Response.isHidden key && isOpen value && entriesOpen rest

end

theorem length_shownEntries_le (entries : List (Data × Data)) :
    (Response.shownEntries entries).length ≤ entries.length := by
  induction entries with
  | nil => exact Nat.le_refl 0
  | cons entry rest ih =>
      rw [Response.shownEntries]
      split
      · exact Nat.le_succ_of_le ih
      · exact Nat.succ_le_succ ih

mutual

theorem shown_eq_self_iff (data : Data) : Response.shown data = data ↔ isOpen data = true := by
  cases data with
  | list items =>
      rw [Response.shown, isOpen, Data.list.injEq]
      exact shownItems_eq_self_iff items
  | pair key value =>
      rw [Response.shown, isOpen, Data.pair.injEq, Bool.and_eq_true]
      exact and_congr (shown_eq_self_iff key) (shown_eq_self_iff value)
  | map entries =>
      rw [Response.shown, isOpen, Data.map.injEq]
      exact shownEntries_eq_self_iff entries
  | null => simp [Response.shown, isOpen]
  | bool b => simp [Response.shown, isOpen]
  | int n => simp [Response.shown, isOpen]
  | float x => simp [Response.shown, isOpen]
  | text s => simp [Response.shown, isOpen]
  | date d => simp [Response.shown, isOpen]
  | moment m => simp [Response.shown, isOpen]

theorem shownItems_eq_self_iff (items : List Data) :
    Response.shownItems items = items ↔ areOpen items = true := by
  cases items with
  | nil => simp [Response.shownItems, areOpen]
  | cons item rest =>
      rw [Response.shownItems, areOpen, List.cons.injEq, Bool.and_eq_true]
      exact and_congr (shown_eq_self_iff item) (shownItems_eq_self_iff rest)

theorem shownEntries_eq_self_iff (entries : List (Data × Data)) :
    Response.shownEntries entries = entries ↔ entriesOpen entries = true := by
  match entries with
  | [] => simp [Response.shownEntries, entriesOpen]
  | (key, value) :: rest =>
      rw [Response.shownEntries, entriesOpen]
      split
      · rename_i hhidden
        refine iff_of_false (fun heq => ?_) (by simp [hhidden])
        have hlength := length_shownEntries_le rest
        rw [heq, List.length_cons] at hlength
        omega
      · rename_i hshown
        simp only [List.cons.injEq, Prod.mk.injEq, true_and, Bool.and_eq_true, hshown,
          Bool.not_false]
        exact and_congr (shown_eq_self_iff value) (shownEntries_eq_self_iff rest)

end

/-- An outcome that has a form in JSON, as readers see it. -/
def IsWritable (outcome : Outcome) : Prop :=
  Json.encodable (Response.shown outcome.toData) = .ok ()

/-- A response answers what the worker comes to: an outcome is answered as readers see it, which is
as it is if nothing is kept from them; a detection that is not there is not found; and the response
tells of an error where the worker fails or its outcome has no form in JSON. -/
structure Agrees (response : Response) (result : Except Fault (Option Outcome)) : Prop where
  answered : response.status = 200 ↔ ∃ outcome, result = .ok (some outcome) ∧ IsWritable outcome
  seen : ∀ outcome, result = .ok (some outcome) → IsWritable outcome →
    response = .ofData 200 (Response.shown outcome.toData)
  same : ∀ outcome, result = .ok (some outcome) → IsWritable outcome →
    isOpen outcome.toData = true → response = .ofData 200 outcome.toData
  missing : response.status = 404 ↔ result = .ok none
  failed : response.status ≠ 200 ∧ response.status ≠ 404 ↔
    (∃ fault, result = .error fault) ∨ ∃ outcome, result = .ok (some outcome) ∧ ¬ IsWritable outcome
  unwritable : ∀ outcome, result = .ok (some outcome) → ¬ IsWritable outcome →
    response = .internalError

theorem agrees_missing (name : String) : Agrees (.unknownDetection name) (.ok none) := by
  have hstatus : (Response.unknownDetection name).status = 404 := rfl
  refine ⟨?_, ?_, ?_, ?_, ?_, ?_⟩ <;> simp [hstatus]

theorem agrees_failed {response : Response} (hfound : response.status ≠ 200)
    (hmissing : response.status ≠ 404) (fault : Fault) : Agrees response (.error fault) := by
  refine ⟨?_, ?_, ?_, ?_, ?_, ?_⟩ <;> simp [hfound, hmissing]

theorem agrees_internalError (fault : Fault) : Agrees .internalError (.error fault) :=
  agrees_failed (show (500 : Int) ≠ 200 by decide) (show (500 : Int) ≠ 404 by decide) fault

theorem agrees_unwritable {outcome : Outcome} (h : ¬ IsWritable outcome) :
    Agrees .internalError (.ok (some outcome)) := by
  have hstatus : Response.internalError.status = 500 := rfl
  refine ⟨?_, ?_, ?_, ?_, ?_, ?_⟩ <;> simp [hstatus, h]

theorem agrees_writable {outcome : Outcome} (h : IsWritable outcome) :
    Agrees (.ofData 200 (Response.shown outcome.toData)) (.ok (some outcome)) := by
  have hstatus : (Response.ofData 200 (Response.shown outcome.toData)).status = 200 := rfl
  refine ⟨?_, ?_, ?_, ?_, ?_, ?_⟩
  · simp [hstatus, h]
  · rintro _ ⟨⟩ _
    rfl
  · rintro _ ⟨⟩ _ hopen
    rw [(shown_eq_self_iff _).2 hopen]
  · simp [hstatus]
  · simp [hstatus, h]
  · rintro _ ⟨⟩ hnot
    exact absurd h hnot

theorem status_of_ofFault? {fault : Fault} {response : Response}
    (h : Response.ofFault? fault = some response) :
    response.status = 400 ∨ response.status = 502 := by
  unfold Response.ofFault? at h
  split at h
  · cases h
    exact .inl rfl
  · cases h
    exact .inr rfl
  · cases h
    exact .inr rfl
  · obtain ⟨-, hresponse⟩ := Option.ite_none_right_eq_some.1 h
    cases hresponse
    exact .inl rfl

theorem agrees_ran (result : Except Fault Outcome) :
    Agrees (responseOf (outcomeResult result)) (result.map some) := by
  cases result with
  | error fault =>
      rw [outcomeResult]
      cases hfault : Response.ofFault? fault with
      | none => exact agrees_internalError fault
      | some response =>
          have hstatus := status_of_ofFault? hfault
          exact agrees_failed (show response.status ≠ 200 by omega)
            (show response.status ≠ 404 by omega) fault
  | ok outcome =>
      rw [outcomeResult, Response.success]
      cases hencodable : Json.encodable (Response.shown outcome.toData) with
      | error fault =>
          have hnot : ¬ IsWritable outcome := by
            rw [IsWritable, hencodable]
            exact fun h => by cases h
          exact agrees_unwritable hnot
      | ok _ => exact agrees_writable hencodable

/-- A call that comes with the bounds of a run, on a path that leads somewhere. -/
structure Requests (call : Call) (route : Route) (start finish : Moment) : Prop where
  method : call.method = "POST"
  path : Route.ofPath? call.address.path = some route
  bounds : call.bounds = .ok (start, finish)

variable {call : Call} {name : String} {start finish : Moment}

theorem dispatch_run [ZoneDatabase] (h : Requests call (.run name) start finish) :
    Service.dispatch call = Service.runDetection name start finish := by
  simp [Service.dispatch, Service.handle, Service.orRefuse, Route.methods, h.path, h.method,
    h.bounds]

theorem dispatch_schedule [ZoneDatabase] (h : Requests call (.schedule name) start finish) :
    Service.dispatch call = Service.scheduleDetection name start finish := by
  simp [Service.dispatch, Service.handle, Service.orRefuse, Route.methods, h.path, h.method,
    h.bounds]

theorem answer_run [ZoneDatabase] (h : Requests call (.run name) start finish) (s : Service) :
    let ran := (Service.runDetection name start finish).apply s
    Service.answer call s = (responseOf ran.1, ran.2) := by
  have hmethod : call.method ≠ "HEAD" := by simp [h.method]
  exact answer_of_dispatch hmethod (by rw [dispatch_run h])

/-- The answer to a call that leaves a run to the worker. -/
def triggered : Response :=
  .ofData 200 (.ofFields [("message", .text "Detection run triggered"),
    ("task_id", .text Service.taskId)])

theorem answer_schedule [ZoneDatabase] (h : Requests call (.schedule name) start finish)
    (s : Service) :
    Service.answer call s =
      (triggered, { s with dispatched := ⟨name, start.iso, finish.iso⟩ :: s.dispatched }) := by
  have hmethod : call.method ≠ "HEAD" := by simp [h.method]
  have hdispatch : (Service.dispatch call).apply s =
      (.ok triggered, { s with dispatched := ⟨name, start.iso, finish.iso⟩ :: s.dispatched }) := by
    rw [dispatch_schedule h]
    rfl
  rw [answer_of_dispatch hmethod hdispatch]
  rfl

theorem taskMoment_iso {m : Moment} (h : IsPlain m) : Service.taskMoment m.iso = .ok m := by
  rw [Service.taskMoment, ofText?_iso h]

theorem agrees_task [ZoneDatabase] {startText finishText : String}
    (hstart : Service.taskMoment startText = .ok start)
    (hfinish : Service.taskMoment finishText = .ok finish) (name : String) (s : Service)
    (dispatched : List Dispatch) :
    let worked := (Service.task name startText finishText).apply { s with dispatched }
    let ran := (Service.runDetection name start finish).apply s
    worked.2.network = ran.2.network ∧ Agrees (responseOf ran.1) worked.1 := by
  dsimp only
  have hlooked : lookedUp name { s with dispatched } = lookedUp name s := rfl
  rw [apply_task hstart hfinish, apply_runDetection, hlooked]
  rcases lookedUp name s with ⟨fault | found, store⟩
  · exact ⟨rfl, agrees_internalError fault⟩
  cases found with
  | none => exact ⟨rfl, agrees_missing name⟩
  | some d => exact ⟨rfl, agrees_ran _⟩

/-- A run that is left to the worker asks for the same as one that is answered at once, and has the
result that the answer tells. -/
theorem background_agrees [ZoneDatabase] {run schedule : Call}
    (hrun : Requests run (.run name) start finish)
    (hschedule : Requests schedule (.schedule name) start finish) (s : Service) :
    ∃ left, Service.answer schedule s = (triggered, { s with dispatched := left :: s.dispatched }) ∧
      let answered := Service.answer run s
      let worked := (Service.task left.detection left.start left.finish).apply
        (Service.answer schedule s).2
      worked.2.network = answered.2.network ∧ Agrees answered.1 worked.1 := by
  obtain ⟨hstart, hfinish⟩ := isPlain_of_bounds hrun.bounds
  refine ⟨⟨name, start.iso, finish.iso⟩, answer_schedule hschedule s, ?_⟩
  rw [answer_schedule hschedule, answer_run hrun]
  exact agrees_task (taskMoment_iso hstart) (taskMoment_iso hfinish) name s _

def sampledService : Service :=
  { siteService with
    network :=
      { replies := [("GET http://localhost:8428/api/v1/query_range", [.answered ⟨200, seriesBody⟩]),
          ("POST http://spikes/", [.answered ⟨200, spikeBody⟩])] } }

def schedulePath : List Char := pathOf "daily" ++ "/schedule".toList

def dailySchedule : Call :=
  { dailyRun with address := { dailyRun.address with path := schedulePath } }

def dayStart : Moment := .ofInstant 1730419200000000
def dayFinish : Moment := .ofInstant 1730505600000000

open scoped ZoneTable

theorem daily_background_agrees :
    Requests dailyRun (.run "daily") dayStart dayFinish ∧
      Requests dailySchedule (.schedule "daily") dayStart dayFinish ∧
      ∃ left, Service.answer dailySchedule sampledService =
          (triggered, { sampledService with dispatched := left :: sampledService.dispatched }) ∧
        let answered := Service.answer dailyRun sampledService
        let worked := (Service.task left.detection left.start left.finish).apply
          (Service.answer dailySchedule sampledService).2
        worked.2.network = answered.2.network ∧ Agrees answered.1 worked.1 := by
  have hany : dailyRun.bounds.toOption.any
      (fun bounds => bounds = (dayStart, dayFinish)) = true := by
    decide +kernel
  obtain ⟨bounds, hread, hvalue⟩ := exists_ok_of_any hany
  have hbounds : dailyRun.bounds = .ok (dayStart, dayFinish) := by
    rw [hread, of_decide_eq_true hvalue]
  have hrun : Requests dailyRun (.run "daily") dayStart dayFinish :=
    ⟨rfl, ofPath?_runPath (by decide), hbounds⟩
  have hschedule : Requests dailySchedule (.schedule "daily") dayStart dayFinish :=
    ⟨rfl, by decide, hbounds⟩
  exact ⟨hrun, hschedule, background_agrees hrun hschedule sampledService⟩

/-- The call is answered without the sample, which the worker hands over with the rest. -/
theorem sample_kept_back :
    (Service.answer dailySchedule sampledService).2.dispatched =
        [⟨"daily", dayStart.iso, dayFinish.iso⟩] ∧
      ∃ outcome,
        ((Service.task "daily" dayStart.iso dayFinish.iso).apply sampledService).1 =
          .ok (some outcome) ∧
        (Service.answer dailyRun sampledService).1.status = 200 ∧
        (Service.answer dailyRun sampledService).1 ≠ .ofData 200 outcome.toData := by
  refine ⟨by decide +kernel, ?_⟩
  have hworked : ((Service.task "daily" dayStart.iso dayFinish.iso).apply
      sampledService).1.toOption.any (fun found => found.any fun outcome =>
        let response := (Service.answer dailyRun sampledService).1
        decide (response.status = 200 ∧ response ≠ .ofData 200 outcome.toData)) = true := by
    decide +kernel
  obtain ⟨found, hfound, hany⟩ := exists_ok_of_any hworked
  obtain ⟨outcome, rfl, hdiffers⟩ := (Option.any_eq_true _ _).1 hany
  exact ⟨outcome, hfound, of_decide_eq_true hdiffers⟩

end AnomalyWindows.Proofs.BackgroundRuns
