import AnomalyWindows.Calendar.ZoneTable
import AnomalyWindows.Proofs.DatabaseReplies
import AnomalyWindows.Proofs.DetectorAnswers

namespace AnomalyWindows.Proofs.WholeAnswers

open Calendar
open Calendar
open AnomalyWindows.Run
open AnomalyWindows.Proofs.WindowAnswers AnomalyWindows.Proofs.RunVerdict
open AnomalyWindows.Proofs.RunStages AnomalyWindows.Proofs.ClientSessions
open AnomalyWindows.Proofs.DatabaseReplies AnomalyWindows.Proofs.DetectorAnswers

def scriptOf (address : String) (replies : List (String × List Reply)) : List Reply :=
  ((replies.find? fun entry => entry.1 = address).map (·.2)).getD []

theorem takeReply_eq (address : String) (replies : List (String × List Reply)) :
    ((Network.takeReply address replies).1,
        scriptOf address (Network.takeReply address replies).2) =
      Network.nextReply (scriptOf address replies) := by
  induction replies with
  | nil => rfl
  | cons entry rest ih =>
      by_cases h : entry.1 = address
      · simp [Network.takeReply, scriptOf, h]
      · simpa [Network.takeReply, scriptOf, h] using ih

theorem scriptOf_takeReply_of_ne {address other : String} (h : other ≠ address)
    (replies : List (String × List Reply)) :
    scriptOf address (Network.takeReply other replies).2 = scriptOf address replies := by
  induction replies with
  | nil => rfl
  | cons entry rest ih =>
      by_cases hother : entry.1 = other
      · simp [Network.takeReply, scriptOf, hother, h]
      · by_cases haddress : entry.1 = address
        · simp [Network.takeReply, scriptOf, haddress, h.symm]
        · simpa [Network.takeReply, scriptOf, hother, haddress] using ih

def endpointOf (d : RemoteDetector) : String :=
  "POST" ++ " " ++ (Request.ofAddress "POST" d.endpoint none).url

/-- Whether the parameters of a detector have a form in JSON. Without one there are no questions. -/
def canAsk (d : RemoteDetector) : Bool :=
  (Json.encodable (.map d.parameters)).isOk

/-- What comes of a question to an endpoint: a reply, if it can be asked, and the replies left. -/
def replyTo (d : RemoteDetector) (script : List Reply) : Option Reply × List Reply :=
  if canAsk d then (some (Network.nextReply script).1, (Network.nextReply script).2)
  else (none, script)

/-- What comes of some questions in turn: the first replies, if they can be asked. -/
def repliesTo (d : RemoteDetector) (count : Nat) (script : List Reply) : List (Option Reply) :=
  if canAsk d then (handedOut count script).map some else List.replicate count none

theorem repliesTo_succ (d : RemoteDetector) (count : Nat) (script : List Reply) :
    repliesTo d (count + 1) script =
      (replyTo d script).1 :: repliesTo d count (replyTo d script).2 := by
  unfold repliesTo replyTo
  split
  · rfl
  · rfl

/-- A reply is taken as a whole or not at all. It gives findings exactly when it is a response that
lists items, and the findings are the records to which these convert one by one; else it gives a
fault. -/
def TakenWhole (reply : Option Reply) (result : Except Fault (List Finding)) : Prop :=
  ∀ findings, result = .ok findings ↔ ∃ response items anomalies,
    reply = some (.answered response) ∧ Lists response items ∧
      List.Forall₂ Converts items anomalies ∧ findings = anomalies.map .record

def asRecords (result : Except Fault (List Anomaly)) : Except Fault (List Finding) :=
  result.map (List.map .record)

theorem takenWhole_error (fault : Fault) : TakenWhole none (.error fault) :=
  fun _ => ⟨nofun, nofun⟩

theorem takenWhole_received (w : Window) (reply : Reply) :
    TakenWhole (some reply)
      (asRecords ((received reply).bind (RemoteDetector.readResponse w))) := by
  intro findings
  cases reply with
  | broken fault => exact ⟨nofun, nofun⟩
  | answered response =>
      change asRecords (RemoteDetector.readResponse w response) = .ok findings ↔ _
      constructor
      · intro h
        cases hread : RemoteDetector.readResponse w response with
        | error fault =>
            rw [hread] at h
            cases h
        | ok anomalies =>
            rw [hread] at h
            obtain ⟨items, hlists, hconvert⟩ := readResponse_eq_ok_iff.mp hread
            exact ⟨response, items, anomalies, rfl, hlists, hconvert, (Except.ok.inj h).symm⟩
      · rintro ⟨_, items, anomalies, hsame, hlists, hconvert, rfl⟩
        cases hsame
        rw [readResponse_eq_ok_iff.mpr ⟨items, hlists, hconvert⟩]
        rfl

theorem encodable_question (d : RemoteDetector) (w : Window) (urn : String) :
    Json.encodable (d.question w urn) = Json.encodable (.map d.parameters) := by
  change (Json.encodable (.map d.parameters) >>= fun _ => Except.ok ()) = _
  cases Json.encodable (.map d.parameters) <;> rfl

/-- A detector that is still the one it was, and an endpoint that is still to give replies. -/
structure Awaits (d : RemoteDetector) (script : List Reply) (d' : RemoteDetector)
    (n : Network) : Prop where
  endpoint : d'.endpoint = d.endpoint
  parameters : d'.parameters = d.parameters
  script : scriptOf (endpointOf d) n.replies = script

theorem ask_of_awaits {d d' : RemoteDetector} {script : List Reply} {n : Network}
    (h : Awaits d script d' n) (w : Window) (urn : String) :
    TakenWhole (replyTo d script).1 (asRecords (d'.ask w urn n).1) ∧
      Awaits d (replyTo d script).2 (d'.ask w urn n).2.1 (d'.ask w urn n).2.2 := by
  obtain ⟨hendpoint, hparameters, hscript⟩ := h
  have haddress : endpointOf d' = endpointOf d := by rw [endpointOf, endpointOf, hendpoint]
  obtain ⟨hreply, hlater⟩ := Prod.ext_iff.mp (takeReply_eq (endpointOf d) n.replies)
  rw [hscript] at hreply hlater
  rw [RemoteDetector.ask, encodable_question, replyTo, canAsk, ← hparameters]
  cases hencodable : Json.encodable (.map d'.parameters) with
  | error fault =>
      refine ⟨takenWhole_error fault, hendpoint, hparameters, ?_⟩
      change scriptOf _ (d'.client.ready n).2.replies = script
      rw [replies_ready, hscript]
  | ok _ =>
      simp only [Client.send, send_eq]
      refine ⟨?_, hendpoint, hparameters, ?_⟩
      · change TakenWhole (some (Network.nextReply script).1) (asRecords
          ((received (Network.takeReply (endpointOf d') (d'.client.ready n).2.replies).1).bind
            (RemoteDetector.readResponse w)))
        rw [replies_ready, haddress, ← hreply]
        exact takenWhole_received w _
      · change scriptOf (endpointOf d)
          (Network.takeReply (endpointOf d') (d'.client.ready n).2.replies).2 =
            (Network.nextReply script).2
        rw [replies_ready, haddress]
        exact hlater

/-- Equipment in which a name stands for a detector whose endpoint is still to give replies. -/
def Registered (name : String) (d : RemoteDetector) (script : List Reply) (e : Equipment) : Prop :=
  ∃ d', e.detectors.find? name = some d' ∧ Awaits d script d' e.network

variable {name : String} {d : RemoteDetector} {script : List Reply}

theorem keeps_query_registered (q : RangeQuery) :
    Keeps (Registered name d script) (Equipment.query q) := by
  rintro e ⟨d', hfound, hendpoint, hparameters, hscript⟩
  refine ⟨d', hfound, hendpoint, hparameters, ?_⟩
  -- A query goes out by GET and a question by POST, so that they never take the same reply.
  have hne : addressOf e.tsdb ≠ endpointOf d := Ne.symm (post_ne_addressOf e.tsdb _)
  simp only [Equipment.query, Act.apply_ofFunction, queryRange_eq]
  rw [replies_ready, scriptOf_takeReply_of_ne hne, hscript]

theorem keeps_series_registered (slice : Slice) :
    Keeps (Registered name d script) (Equipment.series slice) :=
  keeps_series_of_query (fun _ _ h => h) keeps_query_registered slice

theorem answerTo_of_registered {around : Surroundings Equipment}
    (hdetect : around.detect = Equipment.detect) {r : Run} {e : Equipment}
    (h : Registered r.detector d script e) (w : Window) :
    TakenWhole (replyTo d script).1 (answerTo around r w e).1 ∧
      Registered r.detector d (replyTo d script).2 (answerTo around r w e).2 := by
  obtain ⟨d', hfound, hawaits⟩ := h
  obtain ⟨hwhole, hawaits'⟩ := ask_of_awaits hawaits w r.detection.metricUrn
  simp only [answerTo, hdetect, Equipment.detect, Act.apply_ofFunction, hfound]
  refine ⟨?_, (d'.ask w r.detection.metricUrn e.network).2.1, ?_, hawaits'⟩
  · revert hwhole
    cases (d'.ask w r.detection.metricUrn e.network).1 <;> exact id
  · exact congrArg (Option.map Prod.snd)
      (Keyed.find?_put_self Prod.fst (r.detector, (d'.ask w r.detection.metricUrn e.network).2.1) _)

theorem forall₂_answers {around : Surroundings Equipment}
    (hdetect : around.detect = Equipment.detect) {r : Run} {e : Equipment}
    (h : Registered r.detector d script e) (ws : List Window) :
    List.Forall₂ TakenWhole (repliesTo d ws.length script) (answers around r ws e) := by
  induction ws generalizing script e with
  | nil =>
      rw [repliesTo]
      split <;> exact .nil
  | cons w rest ih =>
      obtain ⟨hwhole, hregistered⟩ := answerTo_of_registered hdetect h w
      rw [List.length_cons, repliesTo_succ]
      exact .cons hwhole (ih hregistered)

/-- A run over a remote detector takes each answer as a whole or not at all. The windows come to
what the replies of its endpoint tell, one by one. The run is given up or fails by the windows that
fail, and goes on from all the records that the others tell, in order. -/
theorem run_takes_whole [ZoneDatabase] {names : List String} {r : Run} {l l₁ : Logged Equipment}
    {d : RemoteDetector} (hfound : l.world.detectors.find? r.detector = some d)
    (hwarm : (r.warmUp (Equipment.surroundings names)).apply l = (.ok (), l₁)) :
    let around := Equipment.surroundings names
    let windows := windowsOf r
    let script := scriptOf (endpointOf d) l.world.network.replies
    let given := answers around r windows l₁.world
    let limit := r.scheduling.earlyTerminateWindow
    let ended := ((r.run around).apply l).1
    let read := ((around.series (watermarkSlice r)).apply (worldBehind around r windows l₁.world)).1
    List.Forall₂ TakenWhole (repliesTo d windows.length script) given ∧
    (GivesUp limit given →
      ended = .error (.aborted (r.abort windows.length) (lastFault (given.take limit.toNat)))) ∧
    (¬ GivesUp limit given → windows ≠ [] ∧ AllFail given →
      ended = .error (.failed r.failure (lastFault given))) ∧
    (¬ GivesUp limit given → ¬ (windows ≠ [] ∧ AllFail given) →
      ∃ records : List Anomaly, found given = records.map .record ∧
        ended = (read.bind (watermarkOf r)).map fun watermark =>
          ⟨(records.map r.enrich).filter (isConfirmed watermark), watermark⟩) := by
  intro around windows script given limit ended read
  have hstart : Registered r.detector d script l.world := ⟨d, hfound, rfl, rfl, rfl⟩
  have hregistered : Registered r.detector d script l₁.world := by
    have hkept : Registered r.detector d script ((r.warmUp around).apply l).2.world :=
      keeps_warmUp r keeps_series_registered l hstart
    rwa [hwarm] at hkept
  obtain ⟨log, hrun⟩ := run_of_warm around r hwarm
  obtain ⟨records, hrecords⟩ := exists_records_of_answers
    (givesRecords_of_detect (show around.detect = Equipment.detect from rfl) r) windows l₁.world
  have hended : ended = (judgement r given).bind fun p =>
      (((around.series (watermarkSlice r)).apply
        (worldBehind around r (reached r given) l₁.world)).1.bind (watermarkOf r)).map
          (outcomeAt r records) := by
    simp only [ended, hrun]
    cases hjudged : judgement r given with
    | error fault => rfl
    | ok p =>
        obtain ⟨_, hconcluded⟩ := conclude_apply around r
          ((findings_of_judgement_ok hjudged).trans hrecords) ⟨_, log⟩
        exact congrArg Prod.fst hconcluded
  refine ⟨forall₂_answers rfl hregistered windows, fun hstop => ?_, fun hgoes hfail => ?_,
    fun hgoes hsome => ?_⟩
  · rw [hended, judgement, if_pos hstop]
    rfl
  · rw [hended, judgement, if_neg hgoes, verdict_of_allFail r given hfail.1 hfail.2]
    rfl
  · refine ⟨records, hrecords, ?_⟩
    rw [hended, reached, judgement, if_neg hgoes, if_neg hgoes, verdict_of_success r given hsome]
    rfl

def firstHourItem : String :=
  "\x7b\"start\": \"1970-01-01T00:00Z\", \"end\": \"1970-01-01T01:00Z\"\x7d"

def endlessItem : String :=
  "\x7b\"start\": \"1970-01-01T00:00Z\"\x7d"

def itemsReply (items : List String) : Reply :=
  .answered ⟨200, "\x7b\"anomalies\": [" ++ ", ".intercalate items ++ "]\x7d"⟩

def hourReply : Reply :=
  .answered ⟨200, "\x7b\"status\": \"success\", \"data\": \x7b\"result\": [
\x7b\"values\": [[3600, \"7\"]]\x7d]\x7d\x7d"⟩

def itemsReplies : List Reply :=
  [itemsReply [firstHourItem], itemsReply [firstHourItem, endlessItem], itemsReply []]

def spikesDetector : RemoteDetector :=
  .make "spikes" "http://spikes/run" 30.0 [] []

def spikesEquipment : Equipment where
  store := ⟨.missing, { metrics := [⟨1, "visits", "site", none⟩] }, true⟩
  tsdb := .make "http://tsdb" 30.0 []
  detectors := [("spikes", spikesDetector)]
  network := ⟨[("GET http://tsdb/api/v1/query_range", [hourReply]),
    ("POST http://spikes/run", itemsReplies)], []⟩

open scoped ZoneTable

theorem threeHours_takes_whole :
    let around := Equipment.surroundings []
    let l : Logged Equipment := { world := spikesEquipment }
    let given := answers around threeHours (windowsOf threeHours) spikesEquipment
    l.world.detectors.find? threeHours.detector = some spikesDetector ∧
    (threeHours.warmUp around).apply l = (.ok (), l) ∧
    List.Forall₂ TakenWhole (itemsReplies.map some) given ∧
    given.map (fun result => result.toOption.map List.length) = [some 1, none, some 0] ∧
    ((threeHours.run around).apply l).1.toOption.map (fun o => o.anomalies.length) = some 1 := by
  intro around l given
  have hfound : l.world.detectors.find? threeHours.detector = some spikesDetector := rfl
  have hwarm : (threeHours.warmUp around).apply l = (.ok (), l) := rfl
  obtain ⟨hwhole, -⟩ := run_takes_whole hfound hwarm
  have hreplies : repliesTo spikesDetector (windowsOf threeHours).length
      (scriptOf (endpointOf spikesDetector) l.world.network.replies) = itemsReplies.map some := by
    decide +kernel
  exact ⟨hfound, hwarm, hreplies ▸ hwhole, by decide +kernel, by decide +kernel⟩

end AnomalyWindows.Proofs.WholeAnswers
