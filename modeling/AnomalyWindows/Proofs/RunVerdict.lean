import AnomalyWindows.Calendar.ZoneTable
import AnomalyWindows.Proofs.WindowAnswers

namespace AnomalyWindows.Proofs.RunVerdict

open Calendar
open AnomalyWindows.Run
open AnomalyWindows.Proofs.WindowAnswers

variable {σ : Type}

def windowsOf [ZoneDatabase] (r : Run) : List Window :=
  r.plan.windows r.interval

def askWindows [ZoneDatabase] (around : Surroundings σ) (r : Run) : Act (Logged σ) Progress := do
  r.warmUp around
  Logged.notes (planEntries r.plan)
  let p ← tryWindows around r (windowsOf r).length 0 {} (windowsOf r)
  if p.succeeded = 0 ∧ windowsOf r ≠ [] then throw (.failed r.failure p.lastFault)
  return p

def conclude [ZoneDatabase] (around : Surroundings σ) (r : Run) (p : Progress) : Act (Logged σ)
    Outcome := do
  let anomalies ← Act.ofResult (r.enriched p.findings)
  let (watermark, entries) ← Logged.outside
    (Watermark.resolve around r.interval r.entity.id r.entity.filters (some r.dataset))
  Logged.notes entries
  let confirmed := anomalies.filter (isConfirmed watermark)
  Logged.notes (dropEntries anomalies confirmed watermark)
  return ⟨confirmed, watermark⟩

theorem run_eq [ZoneDatabase] (around : Surroundings σ) (r : Run) :
    r.run around = askWindows around r >>= conclude around r := by
  simp only [run, askWindows, bind_assoc]
  refine bind_congr fun _ => bind_congr fun _ => bind_congr fun p => ?_
  by_cases hnone : p.succeeded = 0 ∧ windowsOf r ≠ []
  · rw [if_pos hnone]
    exact if_pos hnone
  · rw [if_neg hnone, pure_bind]
    exact if_neg hnone

theorem run_of_askWindows_error [ZoneDatabase] (around : Surroundings σ) (r : Run) (l l₂ : Logged σ)
    (fault : Fault) (hasked : (askWindows around r).apply l = (.error fault, l₂)) :
    (r.run around).apply l = (.error fault, l₂) := by
  rw [run_eq, Act.apply_bind, hasked]

theorem run_of_askWindows_ok [ZoneDatabase] (around : Surroundings σ) (r : Run) (l l₂ : Logged σ)
    (p : Progress) (hasked : (askWindows around r).apply l = (.ok p, l₂)) :
    (r.run around).apply l = (conclude around r p).apply l₂ := by
  rw [run_eq, Act.apply_bind, hasked]

theorem askWindows_of_givesUp [ZoneDatabase] (around : Surroundings σ) (r : Run) (l l₁ : Logged σ)
    (hwarm : (r.warmUp around).apply l = (.ok (), l₁))
    (hstop : GivesUp r.scheduling.earlyTerminateWindow
      (answers around r (windowsOf r) l₁.world)) :
    ∃ log, (askWindows around r).apply l =
      (.error (.aborted (r.abort (windowsOf r).length)
          (lastFault ((answers around r (windowsOf r) l₁.world).take
            r.scheduling.earlyTerminateWindow.toNat))),
        ⟨worldBehind around r ((windowsOf r).take r.scheduling.earlyTerminateWindow.toNat)
          l₁.world, log⟩) := by
  obtain ⟨hpos, hlt, hfail⟩ := hstop
  rw [answers_length] at hlt
  obtain ⟨log, hloop⟩ := tryWindows_of_failing around r (windowsOf r).length (windowsOf r) 0
    r.scheduling.earlyTerminateWindow.toNat {}
    ⟨l₁.world, (planEntries r.plan).reverse ++ l₁.log⟩ rfl (by omega) (by omega) hfail
  refine ⟨log, ?_⟩
  simp only [askWindows, Act.apply_bind, hwarm, Logged.notes, Act.apply_change, hloop,
    lastFault_foldl _ hfail]

def verdict [ZoneDatabase] (r : Run) (given : List (Except Fault (List Finding))) : Except Fault
    Progress :=
  let p := given.foldl Progress.after {}
  if p.succeeded = 0 ∧ windowsOf r ≠ [] then .error (.failed r.failure p.lastFault) else .ok p

theorem verdict_of_allFail [ZoneDatabase] (r : Run) (given : List (Except Fault (List Finding)))
    (hsome : windowsOf r ≠ []) (hfail : AllFail given) :
    verdict r given = .error (.failed r.failure (lastFault given)) := by
  have hnone := (succeeded_foldl_eq_zero_iff given {}).mpr ⟨rfl, hfail⟩
  rw [← lastFault_foldl given hfail]
  exact if_pos ⟨hnone, hsome⟩

theorem verdict_of_success [ZoneDatabase] (r : Run) (given : List (Except Fault (List Finding)))
    (hsome : ¬ (windowsOf r ≠ [] ∧ AllFail given)) :
    verdict r given = .ok (given.foldl Progress.after {}) := by
  refine if_neg fun hnone => hsome ⟨hnone.2, ?_⟩
  exact ((succeeded_foldl_eq_zero_iff given {}).mp hnone.1).2

theorem eq_foldl_of_verdict_ok [ZoneDatabase] (r : Run) (given : List (Except Fault (List Finding)))
    (p : Progress) (hverdict : verdict r given = .ok p) :
    p = given.foldl Progress.after {} := by
  rw [verdict] at hverdict
  split at hverdict
  · cases hverdict
  · exact (Except.ok.inj hverdict).symm

theorem askWindows_of_not_givesUp [ZoneDatabase] (around : Surroundings σ) (r : Run)
    (l l₁ : Logged σ)
    (hwarm : (r.warmUp around).apply l = (.ok (), l₁))
    (hgoes : ¬ GivesUp r.scheduling.earlyTerminateWindow
      (answers around r (windowsOf r) l₁.world)) :
    ∃ log, (askWindows around r).apply l =
      (verdict r (answers around r (windowsOf r) l₁.world),
        ⟨worldBehind around r (windowsOf r) l₁.world, log⟩) := by
  obtain ⟨log, hloop⟩ := tryWindows_of_going around r (windowsOf r).length (windowsOf r) 0 {}
    ⟨l₁.world, (planEntries r.plan).reverse ++ l₁.log⟩ (by
      intro ahead hahead hlimit
      refine .inr fun hfail => hgoes ⟨by omega, ?_, ?_⟩
      · rw [answers_length]
        omega
      · rw [show r.scheduling.earlyTerminateWindow.toNat = ahead by omega]
        exact hfail)
  refine ⟨log, ?_⟩
  simp only [askWindows, Act.apply_bind, hwarm, Logged.notes, Act.apply_change, hloop,
    Act.apply_ite, Act.apply_throw, Act.apply_pure, verdict]
  split <;> rfl

theorem other_mem_or_exists_records (findings : List Finding) :
    .other ∈ findings ∨ ∃ records : List Anomaly, findings = records.map .record := by
  induction findings with
  | nil => exact .inr ⟨[], rfl⟩
  | cons finding rest ih =>
      cases finding with
      | other => exact .inl (List.mem_cons_self ..)
      | record a =>
          rcases ih with hstray | ⟨records, rfl⟩
          · exact .inl (List.mem_cons_of_mem _ hstray)
          · exact .inr ⟨a :: records, rfl⟩

theorem enriched_records (r : Run) (records : List Anomaly) :
    r.enriched (records.map .record) = .ok (records.map r.enrich) := by
  induction records with
  | nil => rfl
  | cons a rest ih =>
      rw [enriched] at ih ⊢
      rw [List.map_cons, List.mapM_cons, ih]
      rfl

theorem enriched_of_other (r : Run) {findings : List Finding} (hstray : .other ∈ findings) :
    r.enriched findings = .error .noNamedParts := by
  induction findings with
  | nil => cases hstray
  | cons finding rest ih =>
      cases finding with
      | other => rfl
      | record a =>
          have hrest := ih (by simpa using hstray)
          rw [enriched] at hrest ⊢
          rw [List.mapM_cons, hrest]
          rfl

def watermarkSlice (r : Run) : Slice :=
  ⟨r.entity.id, r.interval.start, r.interval.finish, r.entity.filters⟩

def watermarkOf [ZoneDatabase] (r : Run) (points : List Point) : Except Fault
    (Option Calendar.Moment) :=
  match points.getLast? with
  | none => .ok none
  | some last => (Watermark.ofLast r.interval r.dataset last.time).map some

/-- What a watermark makes of the anomalies that have been found. -/
def outcomeAt (r : Run) (anomalies : List Anomaly) (watermark : Option Calendar.Moment) :
    Outcome :=
  ⟨(anomalies.map r.enrich).filter (isConfirmed watermark), watermark⟩

theorem resolve_apply [ZoneDatabase] (around : Surroundings σ) (r : Run) (s : σ) :
    let read := (around.series (watermarkSlice r)).apply s
    ∃ entries, (Watermark.resolve around r.interval r.entity.id r.entity.filters
      (some r.dataset)).apply s =
        ((read.1.bind (watermarkOf r)).map (·, entries), read.2) := by
  rw [Watermark.resolve]
  simp only [Act.apply_bind, watermarkSlice]
  rcases (around.series ⟨r.entity.id, r.interval.start, r.interval.finish,
    r.entity.filters⟩).apply s with ⟨fault | points, s⟩
  · exact ⟨[], rfl⟩
  · cases hlast : points.getLast? with
    | none => exact ⟨_, by simp [Except.bind, watermarkOf, hlast, Except.map]; rfl⟩
    | some last =>
        refine ⟨[], ?_⟩
        simp only [Act.apply_bind, Act.apply_ofResult, Except.bind, watermarkOf, hlast]
        cases Watermark.ofLast r.interval r.dataset last.time <;> rfl

theorem conclude_of_other [ZoneDatabase] (around : Surroundings σ) (r : Run) {p : Progress}
    (hstray : .other ∈ p.findings) (l : Logged σ) :
    (conclude around r p).apply l = (.error .noNamedParts, l) := by
  rw [conclude, enriched_of_other r hstray]
  rfl

theorem conclude_apply [ZoneDatabase] (around : Surroundings σ) (r : Run) {p : Progress}
    {records : List Anomaly} (hrecords : p.findings = records.map .record) (l : Logged σ) :
    let read := (around.series (watermarkSlice r)).apply l.world
    ∃ log, (conclude around r p).apply l =
      ((read.1.bind (watermarkOf r)).map (outcomeAt r records), ⟨read.2, log⟩) := by
  obtain ⟨entries, hresolved⟩ := resolve_apply around r l.world
  simp only [conclude, hrecords, enriched_records, Act.apply_bind, Act.apply_ofResult,
    Logged.outside, Act.apply_within, hresolved]
  cases ((around.series (watermarkSlice r)).apply l.world).1.bind (watermarkOf r) with
  | error fault => exact ⟨l.log, rfl⟩
  | ok watermark => exact ⟨_, rfl⟩

/-- A run that returns has come through its warm-up, was not given up, and had its windows come to
records from which it went on. -/
theorem exists_of_run_ok [ZoneDatabase] (around : Surroundings σ) (r : Run) (l l' : Logged σ)
    (outcome : Outcome) (hrun : (r.run around).apply l = (.ok outcome, l')) :
    ∃ l₁ records watermark, (r.warmUp around).apply l = (.ok (), l₁) ∧
      found (answers around r (windowsOf r) l₁.world) = records.map .record ∧
      ((around.series (watermarkSlice r)).apply
        (worldBehind around r (windowsOf r) l₁.world)).1.bind (watermarkOf r) = .ok watermark ∧
      outcome = outcomeAt r records watermark := by
  rcases hwarm : (r.warmUp around).apply l with ⟨fault | _, l₁⟩
  · rw [run, Act.apply_bind, hwarm] at hrun
    simp at hrun
  by_cases hstop : GivesUp r.scheduling.earlyTerminateWindow
      (answers around r (windowsOf r) l₁.world)
  · obtain ⟨log, hasked⟩ := askWindows_of_givesUp around r l l₁ hwarm hstop
    rw [run_of_askWindows_error around r l _ _ hasked] at hrun
    simp at hrun
  obtain ⟨log, hasked⟩ := askWindows_of_not_givesUp around r l l₁ hwarm hstop
  cases hverdict : verdict r (answers around r (windowsOf r) l₁.world) with
  | error fault =>
      rw [hverdict] at hasked
      rw [run_of_askWindows_error around r l _ _ hasked] at hrun
      simp at hrun
  | ok p =>
      rw [hverdict] at hasked
      rw [run_of_askWindows_ok around r l _ _ hasked] at hrun
      have hfindings : p.findings = found (answers around r (windowsOf r) l₁.world) := by
        rw [eq_foldl_of_verdict_ok r _ p hverdict, findings_foldl]
        rfl
      rcases other_mem_or_exists_records p.findings with hstray | ⟨records, hrecords⟩
      · rw [conclude_of_other around r hstray] at hrun
        cases hrun
      obtain ⟨_, hconcluded⟩ := conclude_apply around r hrecords
        ⟨worldBehind around r (windowsOf r) l₁.world, log⟩
      rw [hconcluded, Prod.mk.injEq] at hrun
      rcases hread : ((around.series (watermarkSlice r)).apply
        (worldBehind around r (windowsOf r) l₁.world)).1.bind (watermarkOf r) with
        fault | watermark
      · rw [hread] at hrun
        cases hrun.1
      · rw [hread] at hrun
        exact ⟨l₁, records, watermark, rfl, hfindings ▸ hrecords, hread,
          (Except.ok.inj hrun.1).symm⟩

/-- Behind the warm-up a run aborts exactly when the leading windows up to its limit all fail and
there is one more, having asked about these and no other; else it asks about each window once and in
order, fails exactly when there are windows and all of them fail, and goes on to the watermark
otherwise, if all that was found are records. The cause is the fault of the last window that was
asked about. -/
theorem run_ends_by_windows [ZoneDatabase] (around : Surroundings σ) (r : Run)
    (l l₁ : Logged (Traced σ))
    (hwarm : (r.warmUp around.traced).apply l = (.ok (), l₁)) :
    let windows := windowsOf r
    let given := answers around r windows l₁.world.world
    let limit := r.scheduling.earlyTerminateWindow
    let asking := (askWindows around.traced r).apply l
    let ended := (r.run around.traced).apply l
    let asked (ws : List Window) := l₁.world.inquiries ++ ws.map (inquiryAbout r)
    ((∃ abort cause, asking.1 = .error (.aborted abort cause)) ↔ GivesUp limit given) ∧
    ((∃ failure cause, asking.1 = .error (.failed failure cause)) ↔
      ¬ GivesUp limit given ∧ windows ≠ [] ∧ AllFail given) ∧
    (GivesUp limit given →
      ended.1 = .error (.aborted (r.abort windows.length)
        (lastFault (given.take limit.toNat))) ∧
      ended.2.world.inquiries = asked (windows.take limit.toNat)) ∧
    (¬ GivesUp limit given → windows ≠ [] ∧ AllFail given →
      ended.1 = .error (.failed r.failure (lastFault given)) ∧
      ended.2.world.inquiries = asked windows) ∧
    (¬ GivesUp limit given → ¬ (windows ≠ [] ∧ AllFail given) →
      (∀ records : List Anomaly, found given = records.map .record →
        ended.1 = (((around.series (watermarkSlice r)).apply
          (worldBehind around r windows l₁.world.world)).1.bind (watermarkOf r)).map
            (outcomeAt r records) ∧
        ended.2.world.inquiries = asked windows ++ [.series (watermarkSlice r)]) ∧
      (.other ∈ found given →
        ended.1 = .error .noNamedParts ∧ ended.2.world.inquiries = asked windows)) := by
  intro windows given limit asking ended asked
  have hgiven : answers around.traced r windows l₁.world = given :=
    answers_traced around r windows l₁.world
  by_cases hstop : GivesUp limit given
  · obtain ⟨log, hasked⟩ := askWindows_of_givesUp around.traced r l l₁ hwarm
      (hgiven.symm ▸ hstop)
    have hended := run_of_askWindows_error around.traced r l _ _ hasked
    rw [hgiven] at hended
    refine ⟨?_, ?_, fun _ => ⟨?_, ?_⟩, fun hgoes => absurd hstop hgoes,
      fun hgoes => absurd hstop hgoes⟩
    · simp [asking, hasked, hstop]
    · simp [asking, hasked, hstop]
    · simp only [ended, hended]
      rfl
    · simp only [ended, hended, inquiries_worldBehind_traced]
      rfl
  obtain ⟨log, hasked⟩ := askWindows_of_not_givesUp around.traced r l l₁ hwarm
    (hgiven.symm ▸ hstop)
  rw [hgiven] at hasked
  by_cases hfail : windows ≠ [] ∧ AllFail given
  · rw [verdict_of_allFail r given hfail.1 hfail.2] at hasked
    have hended := run_of_askWindows_error around.traced r l _ _ hasked
    refine ⟨?_, ?_, fun h => absurd h hstop, fun _ _ => ⟨?_, ?_⟩, fun _ h => absurd hfail h⟩
    · simp [asking, hasked, hstop]
    · simp [asking, hasked, hstop, hfail]
    · simp only [ended, hended]
    · simp only [ended, hended, inquiries_worldBehind_traced]
      rfl
  · rw [verdict_of_success r given hfail] at hasked
    have hended := run_of_askWindows_ok around.traced r l _ _ hasked
    have hfindings : (given.foldl Progress.after {}).findings = found given :=
      findings_foldl given {}
    refine ⟨?_, ?_, fun h => absurd h hstop, fun _ h => absurd h hfail,
      fun _ _ => ⟨fun records hrecords => ?_, fun hstray => ?_⟩⟩
    · simp [asking, hasked, hstop]
    · simp [asking, hasked, hfail]
    · obtain ⟨_, hconcluded⟩ := conclude_apply around.traced r (hfindings.trans hrecords)
        ⟨worldBehind around.traced r (windowsOf r) l₁.world, log⟩
      rw [hconcluded] at hended
      simp only [ended, hended, worldBehind_traced]
      refine ⟨rfl, ?_⟩
      simp [Surroundings.traced, Traced.answer, Traced.inquiries, asked, windows]
    · rw [conclude_of_other around.traced r (hfindings.symm ▸ hstray)] at hended
      simp only [ended, hended, inquiries_worldBehind_traced, true_and]
      rfl

/-- Three hours of an hourly dataset in windows of one hour, given up after two failures. -/
def threeHours : Run where
  detection := {
    name := "hourly", metricUrn := "slidewatch:metric:1", detector := "spikes",
    movingWindow := true }
  interval := ⟨.ofInstant 0, .ofInstant (3 * Calendar.hour)⟩
  scheduling := { earlyTerminateWindow := 2 }
  entity := ⟨1, []⟩
  metric := { id := 1, name := "visits", dataset := "site" }
  dataset := { name := "site", granularity := .hourly }
  policy := {
    timezone := "UTC", datasetUnit := .hours, frequency := ⟨15, .minutes⟩,
    bucketPeriod := .of 1 .hours, windowUnit := .hours }

open scoped ZoneTable

theorem windowsOf_threeHours : (windowsOf threeHours).length = 3 := by
  decide +kernel

/-- Too little data for the first window and no list for the second one. -/
def twoFailures : List (Except Fault (Option (List Finding))) :=
  [.error (.insufficientData (.stated "cold")), .ok none, .ok (some [])]

theorem threeHours_aborts :
    let start : Logged (Traced _) := ⟨⟨twoFailures, []⟩, []⟩
    (threeHours.warmUp (scripted []).traced).apply start = (.ok (), start) ∧
    ((threeHours.run (scripted []).traced).apply start).1 =
      .error (.aborted (threeHours.abort 3) (some .wrongKind)) ∧
    ((threeHours.run (scripted []).traced).apply start).2.world.inquiries =
      ((windowsOf threeHours).take 2).map (inquiryAbout threeHours) := by
  intro start
  have hwarm : (threeHours.warmUp (scripted []).traced).apply start = (.ok (), start) := rfl
  have hgiven : answers (scripted []) threeHours (windowsOf threeHours) twoFailures =
      twoFailures.map answered :=
    answers_scripted [] threeHours _ _ windowsOf_threeHours
  obtain ⟨-, -, haborts, -, -⟩ := run_ends_by_windows (scripted []) threeHours start start hwarm
  have hstop : GivesUp threeHours.scheduling.earlyTerminateWindow
      (twoFailures.map answered) := by
    refine ⟨by decide, by decide, fun answer hanswer => ?_⟩
    simp [threeHours, twoFailures, answered] at hanswer
    rcases hanswer with rfl | rfl <;> exact ⟨_, rfl⟩
  rw [← hgiven] at hstop
  obtain ⟨hended, hasked⟩ := haborts hstop
  refine ⟨hwarm, ?_, ?_⟩
  · refine hended.trans ?_
    change Except.error (Fault.aborted (threeHours.abort (windowsOf threeHours).length)
      (lastFault
        ((answers (scripted []) threeHours (windowsOf threeHours) twoFailures).take 2))) = _
    rw [windowsOf_threeHours, hgiven]
    rfl
  · rw [hasked]
    rfl

end AnomalyWindows.Proofs.RunVerdict
