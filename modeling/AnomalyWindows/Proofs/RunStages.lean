import AnomalyWindows.Proofs.RunFaults

namespace AnomalyWindows.Proofs.RunStages

open Calendar
open Calendar
open AnomalyWindows.Run
open AnomalyWindows.Proofs.WindowAnswers AnomalyWindows.Proofs.RunVerdict
open AnomalyWindows.Proofs.RunSetup AnomalyWindows.Proofs.RunFaults

variable {σ α β : Type}

def lookbackSlice (r : Run) : Slice where
  metric := r.entity.id
  start := { r.interval.start with
    wall := r.interval.start.wall - r.policy.cachingLookback * 1000 }
  finish := r.interval.finish
  filters := r.entity.filters

theorem warmUp_off (around : Surroundings σ) {r : Run} (hoff : r.policy.cachingLookback < 0)
    (l : Logged σ) : (r.warmUp around).apply l = (.ok (), l) := by
  rw [warmUp, if_pos hoff]
  rfl

theorem warmUpSlice_of_near {r : Run} (hon : 0 ≤ r.policy.cachingLookback)
    (hnear : ¬ LooksTooFarBack r) : r.warmUpSlice = .ok (lookbackSlice r) := by
  cases hslice : r.warmUpSlice with
  | error fault => exact absurd ⟨hon, (warmUpSlice_eq_error_iff.mp hslice).2⟩ hnear
  | ok slice =>
      obtain ⟨lookback, hlookback, h⟩ := CalendarMoves.bind_eq_ok_iff.mp hslice
      obtain ⟨wall, hwall, h⟩ := CalendarMoves.bind_eq_ok_iff.mp h
      obtain rfl := CalendarMoves.eq_of_checkedDuration_eq_ok hlookback
      obtain ⟨-, rfl⟩ := CalendarMoves.checkedWall_eq_ok_iff.mp hwall
      exact h.symm

theorem warmUp_on (around : Surroundings σ) {r : Run} (hon : 0 ≤ r.policy.cachingLookback)
    (hnear : ¬ LooksTooFarBack r) (l : Logged σ) :
    (r.warmUp around).apply l =
      let read := (around.series (lookbackSlice r)).apply l.world
      (read.1.map fun _ => (), { l with world := read.2 }) := by
  rw [warmUp, if_neg (Int.not_lt.mpr hon), warmUpSlice_of_near hon hnear]
  simp only [Act.apply_bind, Act.apply_ofResult, Logged.outside, Act.apply_within]
  rcases (around.series (lookbackSlice r)).apply l.world with ⟨fault | points, s⟩
  · rfl
  · rfl

instance (given : List (Except Fault (List Finding))) : Decidable (AllFail given) :=
  decidable_of_iff (∀ answer ∈ given, answer.isOk = false) <| by
    refine forall₂_congr fun answer _ => ?_
    cases answer <;> simp [Except.isOk, Except.toBool]

instance (limit : Int) (given : List (Except Fault (List Finding))) :
    Decidable (GivesUp limit given) :=
  inferInstanceAs (Decidable (_ ∧ _ ∧ _))

/-- What the windows of a run come to, told by the answers to them. -/
def judgement [ZoneDatabase] (r : Run) (given : List (Except Fault (List Finding))) : Except Fault
    Progress :=
  if GivesUp r.scheduling.earlyTerminateWindow given then
    .error (.aborted (r.abort (windowsOf r).length)
      (lastFault (given.take r.scheduling.earlyTerminateWindow.toNat)))
  else verdict r given

/-- The windows that are asked about before a run goes on or ends. -/
def reached [ZoneDatabase] (r : Run) (given : List (Except Fault (List Finding))) : List Window :=
  if GivesUp r.scheduling.earlyTerminateWindow given then
    (windowsOf r).take r.scheduling.earlyTerminateWindow.toNat
  else windowsOf r

theorem judgement_eq_error [ZoneDatabase] {r : Run} {given : List (Except Fault (List Finding))}
    {fault : Fault}
    (h : judgement r given = .error fault) :
    (∃ cause, fault = .aborted (r.abort (windowsOf r).length) cause) ∨
      ∃ cause, fault = .failed r.failure cause := by
  rw [judgement] at h
  split at h
  · exact .inl ⟨_, (Except.error.inj h).symm⟩
  · rw [verdict] at h
    split at h
    · exact .inr ⟨_, (Except.error.inj h).symm⟩
    · cases h

theorem askWindows_apply [ZoneDatabase] (around : Surroundings σ) (r : Run) {l l₁ : Logged σ}
    (hwarm : (r.warmUp around).apply l = (.ok (), l₁)) :
    let given := answers around r (windowsOf r) l₁.world
    ∃ log, (askWindows around r).apply l =
      (judgement r given, ⟨worldBehind around r (reached r given) l₁.world, log⟩) := by
  intro given
  by_cases hstop : GivesUp r.scheduling.earlyTerminateWindow given
  · rw [judgement, reached, if_pos hstop, if_pos hstop]
    exact askWindows_of_givesUp around r l l₁ hwarm hstop
  · rw [judgement, reached, if_neg hstop, if_neg hstop]
    exact askWindows_of_not_givesUp around r l l₁ hwarm hstop

theorem run_of_cold [ZoneDatabase] (around : Surroundings σ) (r : Run) {l l₁ : Logged σ}
    {fault : Fault}
    (hwarm : (r.warmUp around).apply l = (.error fault, l₁)) :
    (r.run around).apply l = (.error fault, l₁) := by
  rw [run, Act.apply_bind, hwarm]

theorem run_of_warm [ZoneDatabase] (around : Surroundings σ) (r : Run) {l l₁ : Logged σ}
    (hwarm : (r.warmUp around).apply l = (.ok (), l₁)) :
    let given := answers around r (windowsOf r) l₁.world
    let behind := worldBehind around r (reached r given) l₁.world
    ∃ log, (r.run around).apply l =
      match judgement r given with
      | .error fault => (.error fault, ⟨behind, log⟩)
      | .ok p => (conclude around r p).apply ⟨behind, log⟩ := by
  intro given behind
  obtain ⟨log, hasked⟩ := askWindows_apply around r hwarm
  cases hjudged : judgement r given with
  | error fault =>
      rw [hjudged] at hasked
      exact ⟨log, run_of_askWindows_error around r l _ fault hasked⟩
  | ok p =>
      rw [hjudged] at hasked
      exact ⟨log, run_of_askWindows_ok around r l _ p hasked⟩

/-- The detector of a run gives nothing but records. -/
def GivesRecords (around : Surroundings σ) (r : Run) : Prop :=
  ∀ w s found, ((around.detect r.detector w r.detection.metricUrn).apply s).1 = .ok (some found) →
    ∃ records : List Anomaly, found = records.map .record

theorem exists_records_of_answers {around : Surroundings σ} {r : Run}
    (hgives : GivesRecords around r) (ws : List Window) (s : σ) :
    ∃ records : List Anomaly, found (answers around r ws s) = records.map .record := by
  induction ws generalizing s with
  | nil => exact ⟨[], rfl⟩
  | cons w rest ih =>
      obtain ⟨later, hlater⟩ := ih (answerTo around r w s).2
      rw [answers, found, List.flatMap_cons]
      rw [found] at hlater
      rw [hlater, answerTo]
      rcases hasked : ((around.detect r.detector w r.detection.metricUrn).apply s).1 with
        fault | _ | given
      · exact ⟨later, rfl⟩
      · exact ⟨later, rfl⟩
      · obtain ⟨records, rfl⟩ := hgives w s given hasked
        exact ⟨records ++ later, List.map_append.symm⟩

theorem findings_of_judgement_ok [ZoneDatabase] {r : Run}
    {given : List (Except Fault (List Finding))}
    {p : Progress} (h : judgement r given = .ok p) : p.findings = found given := by
  rw [judgement] at h
  split at h
  · cases h
  · rw [eq_foldl_of_verdict_ok r given p h, findings_foldl]
    rfl

/-- What holds of a world holds of the world behind an action, whether it fails or not. -/
def Keeps (I : σ → Prop) (a : Act σ α) : Prop :=
  ∀ s, I s → I (a.apply s).2

theorem keeps_bind {I : σ → Prop} {a : Act σ α} {f : α → Act σ β} (ha : Keeps I a)
    (hf : ∀ x, Keeps I (f x)) : Keeps I (a >>= f) := by
  intro s hs
  have hbehind := ha s hs
  rw [Act.apply_bind]
  rcases hresult : a.apply s with ⟨fault | x, s₁⟩
  · rw [hresult] at hbehind
    exact hbehind
  · rw [hresult] at hbehind
    exact hf x s₁ hbehind

theorem keeps_pure {I : σ → Prop} (x : α) : Keeps I (pure x : Act σ α) :=
  fun _ hs => hs

theorem keeps_ofResult {I : σ → Prop} (result : Except Fault α) :
    Keeps I (Act.ofResult result : Act σ α) :=
  fun _ hs => hs

theorem keeps_ite {I : σ → Prop} (c : Prop) [Decidable c] {a b : Act σ α} (ha : Keeps I a)
    (hb : Keeps I b) : Keeps I (if c then a else b) := by
  split
  · exact ha
  · exact hb

section Run

variable {I : σ → Prop} {around : Surroundings σ}

theorem keeps_lookUp (d : Detection) (hmetric : ∀ id, Keeps I (around.metric id))
    (hdataset : ∀ name, Keeps I (around.dataset name)) :
    Keeps (fun l : Logged σ => I l.world) (lookUp around d) := by
  refine keeps_bind (keeps_ofResult _) fun entity => ?_
  refine keeps_bind (fun l hl => hmetric entity.id l.world hl) fun metric => ?_
  refine keeps_bind (keeps_ofResult _) fun metric => ?_
  refine keeps_bind (fun l hl => hdataset metric.dataset l.world hl) fun dataset => ?_
  refine keeps_bind (keeps_ofResult _) fun dataset => ?_
  exact keeps_ite _ (fun _ hl => hl) (keeps_pure _)

theorem keeps_settle [ZoneDatabase] (d : Detection) (interval : Interval) (s : Scheduling)
    (parts : Parts) :
    Keeps (fun l : Logged σ => I l.world) (settle d interval s parts) := by
  refine keeps_bind (keeps_ofResult _) fun policy => ?_
  refine keeps_bind (fun _ hl => hl) fun _ => ?_
  refine keeps_bind (keeps_ofResult _) fun _ => ?_
  exact keeps_bind (keeps_ofResult _) fun _ => keeps_pure _

theorem keeps_warmUp (r : Run) (hseries : ∀ slice, Keeps I (around.series slice)) :
    Keeps (fun l : Logged σ => I l.world) (r.warmUp around) := by
  refine keeps_ite _ (keeps_pure _) ?_
  refine keeps_bind (keeps_ofResult _) fun slice => ?_
  exact keeps_bind (fun l hl => hseries slice l.world hl) fun _ => keeps_pure _

theorem keeps_resolve [ZoneDatabase] (r : Run)
    (hseries : ∀ slice, Keeps I (around.series slice)) :
    Keeps I
      (Watermark.resolve around r.interval r.entity.id r.entity.filters (some r.dataset)) := by
  refine keeps_bind (hseries _) fun points => ?_
  cases points.getLast? with
  | none => exact keeps_pure _
  | some last => exact keeps_bind (keeps_ofResult _) fun _ => keeps_pure _

theorem keeps_conclude [ZoneDatabase] (r : Run) (hseries : ∀ slice, Keeps I (around.series slice))
    (p : Progress) : Keeps (fun l : Logged σ => I l.world) (conclude around r p) := by
  refine keeps_bind (keeps_ofResult _) fun anomalies => ?_
  refine keeps_bind (fun l hl => keeps_resolve r hseries l.world hl) fun watermark => ?_
  exact keeps_bind (fun _ hl => hl) fun _ => keeps_bind (fun _ hl => hl) fun _ => keeps_pure _

theorem worldBehind_keeps {r : Run}
    (hdetect : ∀ w urn, Keeps I (around.detect r.detector w urn)) (ws : List Window) {s : σ}
    (hs : I s) : I (worldBehind around r ws s) := by
  induction ws generalizing s with
  | nil => exact hs
  | cons w rest ih => exact ih (hdetect w r.detection.metricUrn s hs)

theorem keeps_run [ZoneDatabase] (r : Run) (hseries : ∀ slice, Keeps I (around.series slice))
    (hdetect : ∀ w urn, Keeps I (around.detect r.detector w urn)) :
    Keeps (fun l : Logged σ => I l.world) (r.run around) := by
  intro l hl
  have hbehind := keeps_warmUp r hseries l hl
  rcases hwarm : (r.warmUp around).apply l with ⟨fault | ⟨⟩, l₁⟩
  · rw [hwarm] at hbehind
    rw [run_of_cold around r hwarm]
    exact hbehind
  · rw [hwarm] at hbehind
    obtain ⟨log, hrun⟩ := run_of_warm around r hwarm
    have hwindows := worldBehind_keeps hdetect
      (reached r (answers around r (windowsOf r) l₁.world)) hbehind
    rw [hrun]
    split
    · exact hwindows
    · exact keeps_conclude r hseries _ _ hwindows

end Run

theorem detection_of_settle [ZoneDatabase] {d : Detection} {interval : Interval} {s : Scheduling}
    {parts : Parts}
    {r : Run} {l l' : Logged σ} (h : (settle d interval s parts).apply l = (.ok r, l')) :
    r.detection = d ∧ r.entity = parts.entity ∧ r.metric = parts.metric ∧
      r.dataset = parts.dataset := by
  obtain ⟨policy, l₁, -, h⟩ := apply_bind_eq_ok_iff.mp h
  obtain ⟨_, l₂, -, h⟩ := apply_bind_eq_ok_iff.mp h
  obtain ⟨_, l₃, -, h⟩ := apply_bind_eq_ok_iff.mp h
  obtain ⟨_, l₄, -, h⟩ := apply_bind_eq_ok_iff.mp h
  cases h
  exact ⟨rfl, rfl, rfl, rfl⟩

/-- What metadata, series and the detector of a detection keep, its whole run keeps. Nothing is
asked of the other detectors. -/
theorem keeps_whole [ZoneDatabase] {I : σ → Prop} {around : Surroundings σ} (d : Detection)
    (interval : Interval)
    (s : Scheduling) (hmetric : ∀ id, Keeps I (around.metric id))
    (hdataset : ∀ name, Keeps I (around.dataset name))
    (hseries : ∀ slice, Keeps I (around.series slice))
    (hdetect : ∀ w urn, Keeps I (around.detect d.detectorName w urn)) :
    Keeps (fun l : Logged σ => I l.world) (Run.whole around s d interval) := by
  intro l hl
  have hprepared : Keeps (fun l : Logged σ => I l.world) (prepare around d interval s) := by
    rw [prepare_eq]
    exact keeps_bind (keeps_lookUp d hmetric hdataset) (keeps_settle d interval s)
  have hbehind := hprepared l hl
  rw [Run.whole, Act.apply_bind]
  rcases hready : (prepare around d interval s).apply l with ⟨fault | r, l₁⟩
  · rw [hready] at hbehind
    exact hbehind
  · rw [hready] at hbehind
    rw [prepare_eq] at hready
    obtain ⟨parts, l₂, -, hsettled⟩ := apply_bind_eq_ok_iff.mp hready
    have hdetector : r.detector = d.detectorName := by
      rw [Run.detector, (detection_of_settle hsettled).1]
    exact keeps_run r hseries (fun w urn => hdetector ▸ hdetect w urn) l₁ hbehind

end AnomalyWindows.Proofs.RunStages
