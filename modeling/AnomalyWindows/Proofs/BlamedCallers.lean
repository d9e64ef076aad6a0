import AnomalyWindows.Calendar.ZoneTable
import AnomalyWindows.Proofs.DatabaseReplies
import AnomalyWindows.Proofs.RunHandlers

namespace AnomalyWindows.Proofs.BlamedCallers

open AnomalyWindows.Calendar
open AnomalyWindows.Proofs.DetectionHandlers AnomalyWindows.Proofs.StoredRuns
open AnomalyWindows.Proofs.RunViews AnomalyWindows.Proofs.RunHandlers
open AnomalyWindows.Proofs.DatabaseReplies

variable {α : Type}

def IsBadRequest (result : Except Fault Response) : Prop :=
  (responseOf result).status = 400

def withDatabase (replies : List Reply) (s : Service) : Service :=
  { s with network := facing (databaseAddress s.settings) replies s.network }

/-- What is done for calls is blamed on the caller, if it would be without a database or if replies
that it reads mislead it. -/
def BlamesByReplies (a : Act Service Response) : Prop :=
  ∀ s replies, IsBadRequest (a.apply (withDatabase replies s)).1 ↔
    IsBadRequest (a.apply (withDatabase [] s)).1 ∨
      Misled (queries (a.apply (withDatabase replies s)).2.network - queries s.network) replies

/-- An action does the same on every network, and leaves it alone. -/
def Bystands (a : Act Service α) : Prop :=
  ∀ n, Follows (fun s => { s with network := n }) a a

theorem bystands_onStore (a : Act Store α) : Bystands (Service.onStore a) :=
  fun _ _ => rfl

theorem bystands_pure (x : α) : Bystands (pure x : Act Service α) :=
  fun _ => follows_pure x

theorem bystands_success (data : Data) : Bystands (Service.success data) :=
  fun _ => follows_ofResult _

theorem bystands_bind {β : Type} {a : Act Service α} {f : α → Act Service β} (ha : Bystands a)
    (hf : ∀ x, Bystands (f x)) : Bystands (a >>= f) :=
  fun n => follows_bind (ha n) fun x => hf x n

theorem bystands_listDetections : Bystands Service.listDetections :=
  bystands_bind (bystands_onStore _) fun _ => bystands_success _

theorem bystands_getDetection (name : String) : Bystands (Service.getDetection name) := by
  refine bystands_bind (bystands_onStore _) fun found => ?_
  cases found with
  | none => exact bystands_pure _
  | some d => exact bystands_success _

theorem bystands_putDetection (name : String) (d : Detection) :
    Bystands (Service.putDetection name d) := by
  rw [Service.putDetection]
  split
  · exact bystands_bind (bystands_onStore _) fun _ => bystands_success _
  · exact bystands_pure _

theorem bystands_deleteDetection (name : String) : Bystands (Service.deleteDetection name) := by
  refine bystands_bind (bystands_onStore _) fun found => ?_
  cases found with
  | true => exact bystands_success _
  | false => exact bystands_pure _

theorem bystands_scheduleDetection (name : String) (start finish : Moment) :
    Bystands (Service.scheduleDetection name start finish) :=
  bystands_bind (fun _ _ => rfl) fun _ => bystands_success _

theorem blames_of_bystands {a : Act Service Response} (h : Bystands a) : BlamesByReplies a := by
  intro s replies
  have hfacing := fun replies => h (facing (databaseAddress s.settings) replies s.network) s
  change ∀ replies, a.apply (withDatabase replies s) = _ at hfacing
  simp only [hfacing]
  have hnone : queries (facing (databaseAddress s.settings) replies s.network) -
      queries s.network = 0 := Nat.sub_self _
  rw [hnone]
  exact ⟨.inl, fun hblamed => hblamed.resolve_right (not_misled_zero replies)⟩

theorem isBadRequest_outcomeResult_iff (result : Except Fault Outcome) :
    IsBadRequest (outcomeResult result) ↔ IsRefused result := by
  cases result with
  | ok outcome =>
      refine iff_of_false (fun hbad => ?_) (not_isRefused_ok outcome)
      rw [IsBadRequest, outcomeResult, Response.success] at hbad
      cases hencodable : Json.encodable (Response.shown outcome.toData) with
      | error fault =>
          rw [hencodable] at hbad
          have hstatus : (500 : Int) = 400 := hbad
          omega
      | ok _ =>
          rw [hencodable] at hbad
          have hstatus : (200 : Int) = 400 := hbad
          omega
  | error fault =>
      rw [isRefused_error_iff, IsBadRequest, outcomeResult, Blames]
      cases Response.ofFault? fault with
      | none =>
          refine iff_of_false (fun hbad => ?_) (fun hblames => by cases hblames)
          have hstatus : (500 : Int) = 400 := hbad
          omega
      | some response => exact Option.some_inj.symm

theorem blames_executeAdHoc [ZoneDatabase] (a : AdHoc) : BlamesByReplies (Service.executeAdHoc a) :=
    by
  intro s replies
  simp only [apply_executeAdHoc, isBadRequest_outcomeResult_iff]
  exact blamedByReplies_execute s.settings a.detection a.start a.finish
    ⟨.onFile s.file, s.network⟩ replies

theorem blames_runDetection [ZoneDatabase] (name : String) (start finish : Moment) :
    BlamesByReplies (Service.runDetection name start finish) := by
  intro s replies
  have hlooked : ∀ replies, lookedUp name (withDatabase replies s) = lookedUp name s := fun _ => rfl
  have hnone : queries (withDatabase replies s).network - queries s.network = 0 := Nat.sub_self _
  simp only [apply_runDetection, hlooked]
  rcases lookedUp name s with ⟨fault | found, store⟩
  · change _ ↔ _ ∨ Misled (queries (withDatabase replies s).network - queries s.network) replies
    rw [hnone]
    exact ⟨.inl, fun hblamed => hblamed.resolve_right (not_misled_zero replies)⟩
  cases found with
  | none =>
      change _ ↔ _ ∨ Misled (queries (withDatabase replies s).network - queries s.network) replies
      rw [hnone]
      exact ⟨.inl, fun hblamed => hblamed.resolve_right (not_misled_zero replies)⟩
  | some d =>
      simp only [isBadRequest_outcomeResult_iff]
      exact blamedByReplies_execute s.settings d start finish ⟨store, s.network⟩ replies

theorem blames_orRefuse {value : Except Response α} {handler : α → Act Service Response}
    (h : ∀ a, BlamesByReplies (handler a)) : BlamesByReplies (Service.orRefuse value handler) := by
  cases value with
  | ok a => exact h a
  | error response => exact blames_of_bystands (bystands_pure response)

theorem blames_handle [ZoneDatabase] (call : Call) (route : Route) :
    BlamesByReplies (Service.handle call route) := by
  cases route with
  | health => exact blames_of_bystands (bystands_success _)
  | detections => exact blames_of_bystands bystands_listDetections
  | detection name =>
      rw [Service.handle]
      split
      · exact blames_orRefuse fun d => blames_of_bystands (bystands_putDetection name d)
      split
      · exact blames_of_bystands (bystands_deleteDetection name)
      · exact blames_of_bystands (bystands_getDetection name)
  | run name => exact blames_orRefuse fun bounds => blames_runDetection name bounds.1 bounds.2
  | schedule name =>
      exact blames_orRefuse fun bounds =>
        blames_of_bystands (bystands_scheduleDetection name bounds.1 bounds.2)
  | execution => exact blames_orRefuse blames_executeAdHoc

theorem blames_dispatch [ZoneDatabase] (call : Call) : BlamesByReplies (Service.dispatch call) := by
  rw [Service.dispatch]
  split
  · split
    · exact blames_handle call _
    · exact blames_of_bystands (bystands_pure _)
  · exact blames_of_bystands (bystands_pure _)

/-- The caller is told that the request was bad. -/
def IsBlamed [ZoneDatabase] (call : Call) (s : Service) : Prop :=
  (Service.answer call s).1.status = 400

instance [ZoneDatabase] (call : Call) (s : Service) : Decidable (IsBlamed call s) :=
  inferInstanceAs (Decidable (_ = _))

/-- One of the replies of the database that a call reads misleads it. -/
def IsMisled [ZoneDatabase] (call : Call) (s : Service) (replies : List Reply) : Prop :=
  Misled (queries (Service.answer call (withDatabase replies s)).2.network - queries s.network)
    replies

theorem isBlamed_iff_dispatch [ZoneDatabase] (call : Call) (s : Service) :
    IsBlamed call s ↔ IsBadRequest ((Service.dispatch call).apply s).1 := by
  rw [IsBlamed, IsBadRequest, Service.answer]
  rcases (Service.dispatch call).apply s with ⟨fault | response, s'⟩
  · dsimp only
    split <;> rfl
  · dsimp only
    split <;> rfl

theorem isBlamed_withDatabase_iff [ZoneDatabase] (call : Call) (s : Service) (replies : List Reply)
    :
    IsBlamed call (withDatabase replies s) ↔
      IsBlamed call (withDatabase [] s) ∨ IsMisled call s replies := by
  rw [isBlamed_iff_dispatch, isBlamed_iff_dispatch]
  exact blames_dispatch call s replies

/-- Whether the caller is blamed is the same over two databases exactly when the call is blamed
without any, or when the replies of both mislead it or those of neither. -/
theorem blamed_alike_iff [ZoneDatabase] (call : Call) (s : Service) (replies replies' : List Reply)
    :
    (IsBlamed call (withDatabase replies s) ↔ IsBlamed call (withDatabase replies' s)) ↔
      IsBlamed call (withDatabase [] s) ∨
        (IsMisled call s replies ↔ IsMisled call s replies') := by
  rw [isBlamed_withDatabase_iff call s replies, isBlamed_withDatabase_iff call s replies']
  by_cases hblamed : IsBlamed call (withDatabase [] s)
  · simp [hblamed]
  · simp [hblamed]

open scoped ZoneTable

/-- A database that gives a page in place of data gets the caller blamed; one that is down does
not. -/
theorem daily_blamed_for_page :
    IsBlamed dailyRun (withDatabase [.answered ⟨200, "<html>"⟩] siteService) ∧
      ¬ IsBlamed dailyRun (withDatabase [.answered ⟨503, "down"⟩] siteService) := by
  decide +kernel

end AnomalyWindows.Proofs.BlamedCallers
