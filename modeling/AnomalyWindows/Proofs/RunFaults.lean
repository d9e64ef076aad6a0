import AnomalyWindows.Calendar.ZoneTable
import AnomalyWindows.Proofs.DerivedPolicies
import AnomalyWindows.Proofs.RunViews
import AnomalyWindows.Proofs.WatermarkOrder

/-!
What a run may fail with: a fault of its configuration, its own verdict on the windows, or what a
fetch has raised. It keeps to these unless a size leads out of the bounds of the calendar at one of
three places, the record of a zone cannot be opened, or a detector gives other values than records.
-/

namespace AnomalyWindows.Proofs.RunFaults

open Calendar
open AnomalyWindows.Run
open AnomalyWindows.Proofs.CalendarMoves AnomalyWindows.Proofs.ZoneReading
open AnomalyWindows.Proofs.WindowAnswers
open AnomalyWindows.Proofs.RunVerdict AnomalyWindows.Proofs.RunSetup
open AnomalyWindows.Proofs.RunViews AnomalyWindows.Proofs.DerivedPolicies

/-- A world together with the faults that fetches have raised. -/
structure Noted (σ : Type) where
  world : σ
  raised : List Fault := []

variable {σ α : Type}

def Noted.fetch (a : Act σ α) : Act (Noted σ) α :=
  Act.ofFunction fun n =>
    match a.apply n.world with
    | (.ok x, s) => (.ok x, ⟨s, n.raised⟩)
    | (.error fault, s) => (.error fault, ⟨s, n.raised ++ [fault]⟩)

/-- The same surroundings with the faults of their metadata and series noted; those of detectors are
none of a fetch. -/
def noting (around : Surroundings σ) : Surroundings (Noted σ) where
  metric id := Noted.fetch (around.metric id)
  dataset name := Noted.fetch (around.dataset name)
  series slice := Noted.fetch (around.series slice)
  detectors := around.detectors
  detect name window urn :=
    (around.detect name window urn).within Noted.world fun s n => { n with world := s }

theorem raised_of_fetch_ok {a : Act σ α} {n n' : Noted σ} {x : α}
    (h : (Noted.fetch a).apply n = (.ok x, n')) : n'.raised = n.raised := by
  rw [Noted.fetch, Act.apply_ofFunction] at h
  split at h
  · cases h
    rfl
  · cases h

theorem mem_raised_of_fetch_error {a : Act σ α} {n n' : Noted σ} {fault : Fault}
    (h : (Noted.fetch a).apply n = (.error fault, n')) : fault ∈ n'.raised := by
  rw [Noted.fetch, Act.apply_ofFunction] at h
  split at h
  · cases h
  · cases h
    simp

theorem follows_fetch (a : Act σ α) : Follows Noted.world (Noted.fetch a) a := by
  intro n
  rw [Noted.fetch, Act.apply_ofFunction]
  rcases a.apply n.world with ⟨fault | x, s⟩
  · rfl
  · rfl

theorem shadows_noting (around : Surroundings σ) :
    Shadows Noted.world (noting around) around where
  metric _ := follows_fetch _
  dataset _ := follows_fetch _
  series _ := follows_fetch _
  detectors := rfl
  detect _ _ _ := fun _ => rfl

theorem apply_outside {a : Act σ α} {l l' : Logged σ} {result : Except Fault α}
    (h : (Logged.outside a).apply l = (result, l')) : a.apply l.world = (result, l'.world) := by
  rw [Logged.outside, Act.apply_within] at h
  cases h
  rfl

/-- The faults with which a run may end when fetches have raised some. -/
inductive Allowed (raised : List Fault) : Fault → Prop
  | configuration (cause : ConfigurationFault) : Allowed raised (.configuration cause)
  | aborted (abort : Abort) (cause : Option Fault) : Allowed raised (.aborted abort cause)
  | failed (failure : Failure) (cause : Option Fault) : Allowed raised (.failed failure cause)
  | raised (fault : Fault) (hraised : fault ∈ raised) : Allowed raised fault

/-- The warm-up of a run looks back beyond the bounds of the calendar. -/
def LooksTooFarBack (r : Run) : Prop :=
  0 ≤ r.policy.cachingLookback ∧
    ¬ (Spans (r.policy.cachingLookback * 1000) ∧
      InYears (r.interval.start.wall - r.policy.cachingLookback * 1000))

/-- A series ends so late that the bounds of the calendar end before one granularity behind it. -/
def EndsTooLate [ZoneDatabase] (r : Run) (points : List Point) : Prop :=
  ∃ last, points.getLast? = some last ∧
    Watermark.estimate r.dataset last.time = .error .outOfRange

/-- The first zone of a policy and its dataset that is not found is one that cannot be opened. -/
def FirstUnreadable [ZoneDatabase] (d : Detection) (policyZone datasetZone : String)
    (fault : Fault) : Prop :=
  ∃ name, fault = .unreadableZone name ∧
    (checkZone d policyZone = .error fault ∨
      checkZone d policyZone = .ok () ∧ checkZone d datasetZone = .error fault)

/-- The faults that a run lets through. A size leads out of the bounds of the calendar when the
policy is settled, in front of the windows, or behind them; a zone cannot be opened; or windows have
found a value that is no record. -/
inductive Escapes [ZoneDatabase] (around : Surroundings σ) (s : Scheduling) (d : Detection)
    (interval : Interval) (start : Logged σ) : Fault → Prop
  | bucket (parts : Parts) (behind : Logged σ)
      (hfound : (lookUp around d).apply start = (.ok parts, behind))
      (hfar : BucketTooLong d parts.dataset.granularity.unit s) :
      Escapes around s d interval start .outOfRange
  | zone (parts : Parts) (behind : Logged σ)
      (policy : WindowPolicy × Option WindowPolicy.SpeedUp) (fault : Fault)
      (hfound : (lookUp around d).apply start = (.ok parts, behind))
      (hpolicy : policyOf d parts.dataset interval s = .ok policy)
      (hzone : FirstUnreadable d policy.1.timezone parts.dataset.timezone fault) :
      Escapes around s d interval start fault
  | lookback (r : Run) (behind : Logged σ)
      (hready : (prepare around d interval s).apply start = (.ok r, behind))
      (hfar : LooksTooFarBack r) : Escapes around s d interval start .outOfRange
  | other (r : Run) (p : Progress) (behind behind' : Logged σ)
      (hready : (prepare around d interval s).apply start = (.ok r, behind))
      (hasked : (askWindows around r).apply behind = (.ok p, behind'))
      (hstray : .other ∈ p.findings) : Escapes around s d interval start .noNamedParts
  | watermark (r : Run) (p : Progress) (records : List Anomaly) (points : List Point)
      (behind behind' : Logged σ)
      (hready : (prepare around d interval s).apply start = (.ok r, behind))
      (hasked : (askWindows around r).apply behind = (.ok p, behind'))
      (hrecords : p.findings = records.map .record)
      (hread : ((around.series (watermarkSlice r)).apply behind'.world).1 = .ok points)
      (hfar : EndsTooLate r points) : Escapes around s d interval start .outOfRange

theorem shape_of_escapes [ZoneDatabase] {around : Surroundings σ} {s : Scheduling} {d : Detection}
    {interval : Interval} {start : Logged σ} {fault : Fault}
    (h : Escapes around s d interval start fault) :
    fault = .outOfRange ∨ fault = .noNamedParts ∨ ∃ name, fault = .unreadableZone name := by
  cases h with
  | bucket | lookback | watermark => exact .inl rfl
  | other => exact .inr (.inl rfl)
  | zone _ _ _ _ _ _ hzone =>
      obtain ⟨name, hname, -⟩ := hzone
      exact .inr (.inr ⟨name, hname⟩)

theorem mem_of_allowed_of_escapes [ZoneDatabase] {around : Surroundings σ} {s : Scheduling}
    {d : Detection} {interval : Interval} {start : Logged σ} {raised : List Fault} {fault : Fault}
    (hescapes : Escapes around s d interval start fault) (h : Allowed raised fault) :
    fault ∈ raised := by
  rcases shape_of_escapes hescapes with rfl | rfl | ⟨name, rfl⟩
  all_goals
    cases h with
    | raised _ hmem => exact hmem

theorem entityOf_eq_error {d : Detection} {fault : Fault} (h : entityOf d = .error fault) :
    ∃ cause, fault = .configuration cause := by
  rw [entityOf] at h
  split at h
  · cases h
  · exact ⟨_, (Except.error.inj h).symm⟩

theorem configured_eq_error {cause : ConfigurationFault} {found : Option α} {fault : Fault}
    (h : configured cause found = .error fault) : fault = .configuration cause := by
  cases found with
  | some x => cases h
  | none => exact (Except.error.inj h).symm

theorem policyOf_eq_error {d : Detection} {dataset : Dataset} {interval : Interval}
    {s : Scheduling} {fault : Fault} (h : policyOf d dataset interval s = .error fault) :
    (∃ cause, fault = .configuration cause) ∨
      fault = .outOfRange ∧ BucketTooLong d dataset.granularity.unit s := by
  rw [policyOf] at h
  split at h
  · cases h
  · next cause hderive =>
      split at h
      · exact .inl ⟨_, (Except.error.inj h).symm⟩
      · next husable =>
          obtain rfl := Except.error.inj h
          rcases derive_eq_error_iff.mp hderive with hbucket | hfar
          · exact absurd (bucketFor_eq_error hbucket) husable
          · exact .inr hfar

theorem policyOf_of_far {d : Detection} {dataset : Dataset} {s : Scheduling}
    (hfar : BucketTooLong d dataset.granularity.unit s) (interval : Interval) :
    policyOf d dataset interval s = .error .outOfRange := by
  rw [policyOf, derive_eq_error_iff.mpr (.inr ⟨rfl, hfar⟩)]
  rfl

theorem lookUp_eq_error {around : Surroundings σ} {d : Detection} {l l' : Logged (Noted σ)}
    {fault : Fault} (h : (lookUp (noting around) d).apply l = (.error fault, l')) :
    Allowed l'.world.raised fault := by
  have hfetched {α : Type} {a : Act σ α} {l : Logged (Noted σ)}
      (h : (Logged.outside (Noted.fetch a)).apply l = (.error fault, l')) :
      Allowed l'.world.raised fault :=
    .raised fault (mem_raised_of_fetch_error (apply_outside h))
  rcases apply_bind_eq_error_iff.mp h with h | ⟨entity, l₁, -, h⟩
  · obtain ⟨cause, rfl⟩ := entityOf_eq_error (congrArg Prod.fst h)
    exact .configuration cause
  rcases apply_bind_eq_error_iff.mp h with h | ⟨metric, l₂, -, h⟩
  · exact hfetched h
  rcases apply_bind_eq_error_iff.mp h with h | ⟨metric, l₃, -, h⟩
  · obtain rfl := configured_eq_error (congrArg Prod.fst h)
    exact .configuration _
  rcases apply_bind_eq_error_iff.mp h with h | ⟨dataset, l₄, -, h⟩
  · exact hfetched h
  rcases apply_bind_eq_error_iff.mp h with h | ⟨dataset, l₅, -, h⟩
  · obtain rfl := configured_eq_error (congrArg Prod.fst h)
    exact .configuration _
  dsimp only at h
  rw [Act.apply_ite] at h
  split at h
  · cases congrArg Prod.fst h
    exact .configuration _
  · cases congrArg Prod.fst h

theorem raised_of_lookUp_ok {around : Surroundings σ} {d : Detection} {l l' : Logged (Noted σ)}
    {parts : Parts} (h : (lookUp (noting around) d).apply l = (.ok parts, l')) :
    l'.world.raised = l.world.raised := by
  obtain ⟨entity, l₁, hentity, h⟩ := apply_bind_eq_ok_iff.mp h
  obtain ⟨found, l₂, hmetric, h⟩ := apply_bind_eq_ok_iff.mp h
  obtain ⟨metric, l₃, hconfigured, h⟩ := apply_bind_eq_ok_iff.mp h
  obtain ⟨found', l₄, hdataset, h⟩ := apply_bind_eq_ok_iff.mp h
  obtain ⟨dataset, l₅, hconfigured', h⟩ := apply_bind_eq_ok_iff.mp h
  have hmetric := raised_of_fetch_ok (apply_outside hmetric)
  have hdataset := raised_of_fetch_ok (apply_outside hdataset)
  cases congrArg Prod.snd hentity
  cases congrArg Prod.snd hconfigured
  cases congrArg Prod.snd hconfigured'
  dsimp only at h
  rw [Act.apply_ite] at h
  split at h
  · cases congrArg Prod.fst h
  · cases congrArg Prod.snd h
    exact hdataset.trans hmetric

theorem settle_eq_error [ZoneDatabase] {d : Detection} {interval : Interval} {s : Scheduling}
    {parts : Parts} {l l' : Logged σ} {fault : Fault}
    (h : (settle d interval s parts).apply l = (.error fault, l')) :
    (∃ cause, fault = .configuration cause) ∨
      fault = .outOfRange ∧ BucketTooLong d parts.dataset.granularity.unit s ∨
      ∃ policy, policyOf d parts.dataset interval s = .ok policy ∧
        FirstUnreadable d policy.1.timezone parts.dataset.timezone fault := by
  rcases apply_bind_eq_error_iff.mp h with h | ⟨policy, l₁, hpolicy, h⟩
  · rcases policyOf_eq_error (congrArg Prod.fst h) with hcause | hfar
    · exact .inl hcause
    · exact .inr (.inl hfar)
  replace hpolicy : policyOf d parts.dataset interval s = .ok policy := congrArg Prod.fst hpolicy
  rcases apply_bind_eq_error_iff.mp h with h | ⟨_, l₂, -, h⟩
  · cases congrArg Prod.fst h
  rcases apply_bind_eq_error_iff.mp h with h | ⟨⟨⟩, l₃, hfirst, h⟩
  · replace h : checkZone d policy.1.timezone = .error fault := congrArg Prod.fst h
    rcases checkZone_eq_error h with hcause | ⟨name, -, rfl⟩
    · exact .inl hcause
    · exact .inr (.inr ⟨policy, hpolicy, name, rfl, .inl h⟩)
  rcases apply_bind_eq_error_iff.mp h with h | ⟨_, l₄, -, h⟩
  · replace h : checkZone d parts.dataset.timezone = .error fault := congrArg Prod.fst h
    rcases checkZone_eq_error h with hcause | ⟨name, -, rfl⟩
    · exact .inl hcause
    · exact .inr (.inr ⟨policy, hpolicy, name, rfl, .inr ⟨congrArg Prod.fst hfirst, h⟩⟩)
  · cases congrArg Prod.fst h

theorem settle_of_far [ZoneDatabase] {d : Detection} {s : Scheduling} {parts : Parts}
    (hfar : BucketTooLong d parts.dataset.granularity.unit s) (interval : Interval)
    (l : Logged σ) : (settle d interval s parts).apply l = (.error .outOfRange, l) := by
  rw [settle, policyOf_of_far hfar]
  rfl

theorem settle_of_unreadable [ZoneDatabase] {d : Detection} {interval : Interval} {s : Scheduling}
    {parts : Parts} {policy : WindowPolicy × Option WindowPolicy.SpeedUp} {fault : Fault}
    (hpolicy : policyOf d parts.dataset interval s = .ok policy)
    (hzone : FirstUnreadable d policy.1.timezone parts.dataset.timezone fault) (l : Logged σ) :
    ∃ log, (settle d interval s parts).apply l = (.error fault, ⟨l.world, log⟩) := by
  obtain ⟨name, -, hfirst | ⟨hfound, hsecond⟩⟩ := hzone
  · refine ⟨(speedUpEntries policy.2).reverse ++ l.log, ?_⟩
    simp only [settle, hpolicy, hfirst, Act.apply_bind, Act.apply_ofResult, Logged.notes,
      Act.apply_change]
  · refine ⟨(speedUpEntries policy.2).reverse ++ l.log, ?_⟩
    simp only [settle, hpolicy, hfound, hsecond, Act.apply_bind, Act.apply_ofResult, Logged.notes,
      Act.apply_change]

theorem ready_of_prepare [ZoneDatabase] {around : Surroundings σ} {d : Detection}
    {interval : Interval}
    {s : Scheduling} {r : Run} {l l' : Logged σ}
    (h : (prepare around d interval s).apply l = (.ok r, l')) : Ready d interval s r := by
  rw [prepare_eq] at h
  obtain ⟨parts, l₁, -, h⟩ := apply_bind_eq_ok_iff.mp h
  exact (ready_of_settle h).1

theorem raised_of_prepare_ok [ZoneDatabase] {around : Surroundings σ} {d : Detection}
    {interval : Interval}
    {s : Scheduling} {r : Run} {l l' : Logged (Noted σ)}
    (h : (prepare (noting around) d interval s).apply l = (.ok r, l')) :
    l'.world.raised = l.world.raised := by
  rw [prepare_eq] at h
  obtain ⟨parts, l₁, hfound, h⟩ := apply_bind_eq_ok_iff.mp h
  rw [(ready_of_settle h).2, raised_of_lookUp_ok hfound]

theorem warmUpSlice_eq_error_iff {r : Run} {fault : Fault} :
    r.warmUpSlice = .error fault ↔
      fault = .outOfRange ∧ ¬ (Spans (r.policy.cachingLookback * 1000) ∧
        InYears (r.interval.start.wall - r.policy.cachingLookback * 1000)) := by
  constructor
  · intro h
    rcases bind_eq_error_iff.mp h with h | ⟨lookback, hlookback, h⟩
    · obtain ⟨hfar, hfault⟩ := checkedDuration_eq_error_iff.mp h
      exact ⟨hfault, fun hnear => hfar hnear.1⟩
    obtain rfl := eq_of_checkedDuration_eq_ok hlookback
    rcases bind_eq_error_iff.mp h with h | ⟨wall, -, h⟩
    · obtain ⟨hfar, hfault⟩ := checkedWall_eq_error_iff.mp h
      exact ⟨hfault, fun hnear => hfar hnear.2⟩
    · cases h
  · rintro ⟨rfl, hfar⟩
    by_cases hspans : Spans (r.policy.cachingLookback * 1000)
    · have hwall := checkedWall_eq_error_iff.mpr ⟨fun hnear => hfar ⟨hspans, hnear⟩, rfl⟩
      rw [warmUpSlice, checkedDuration_eq_ok_iff.mpr ⟨hspans, rfl⟩]
      exact bind_eq_error_iff.mpr (.inr ⟨_, rfl, bind_eq_error_iff.mpr (.inl hwall)⟩)
    · rw [warmUpSlice, checkedDuration_eq_error_iff.mpr ⟨hspans, rfl⟩]
      rfl

theorem warmUp_eq_error {around : Surroundings σ} {r : Run} {l l' : Logged (Noted σ)}
    {fault : Fault} (h : (r.warmUp (noting around)).apply l = (.error fault, l')) :
    Allowed l'.world.raised fault ∨ fault = .outOfRange ∧ LooksTooFarBack r := by
  rw [warmUp, Act.apply_ite] at h
  split at h
  · cases congrArg Prod.fst h
  · next hon =>
      rcases apply_bind_eq_error_iff.mp h with h | ⟨slice, l₁, -, h⟩
      · obtain ⟨hfault, hfar⟩ := warmUpSlice_eq_error_iff.mp (congrArg Prod.fst h)
        exact .inr ⟨hfault, Int.not_lt.mp hon, hfar⟩
      rcases apply_bind_eq_error_iff.mp h with h | ⟨points, l₂, -, h⟩
      · exact .inl (.raised fault (mem_raised_of_fetch_error (apply_outside h)))
      · cases congrArg Prod.fst h

theorem warmUp_of_far (around : Surroundings σ) {r : Run} (hfar : LooksTooFarBack r)
    (l : Logged σ) : (r.warmUp around).apply l = (.error .outOfRange, l) := by
  rw [warmUp, if_neg (Int.not_lt.mpr hfar.1), warmUpSlice_eq_error_iff.mpr ⟨rfl, hfar.2⟩]
  rfl

theorem raised_of_warmUp_ok {around : Surroundings σ} {r : Run} {l l' : Logged (Noted σ)}
    (h : (r.warmUp (noting around)).apply l = (.ok (), l')) :
    l'.world.raised = l.world.raised := by
  rw [warmUp, Act.apply_ite] at h
  split at h
  · cases congrArg Prod.snd h
    rfl
  · obtain ⟨slice, l₁, hslice, hrest⟩ := apply_bind_eq_ok_iff.mp h
    obtain ⟨points, l₂, hread, hdone⟩ := apply_bind_eq_ok_iff.mp hrest
    obtain rfl : l = l₁ := congrArg Prod.snd hslice
    obtain rfl : l₂ = l' := congrArg Prod.snd hdone
    exact raised_of_fetch_ok (apply_outside hread)

theorem raised_worldBehind (around : Surroundings σ) (r : Run) (ws : List Window)
    (n : Noted σ) : (worldBehind (noting around) r ws n).raised = n.raised := by
  induction ws generalizing n with
  | nil => rfl
  | cons w rest ih => exact ih (answerTo (noting around) r w n).2

theorem askWindows_eq_error [ZoneDatabase] {around : Surroundings σ} {r : Run}
    {l l' : Logged (Noted σ)}
    {fault : Fault} (h : (askWindows (noting around) r).apply l = (.error fault, l')) :
    Allowed l'.world.raised fault ∨ fault = .outOfRange ∧ LooksTooFarBack r := by
  rcases apply_bind_eq_error_iff.mp h with hwarm | ⟨⟨⟩, l₁, hwarm, -⟩
  · exact warmUp_eq_error hwarm
  by_cases hstop : GivesUp r.scheduling.earlyTerminateWindow
      (answers (noting around) r (windowsOf r) l₁.world)
  · obtain ⟨log, hasked⟩ := askWindows_of_givesUp (noting around) r l l₁ hwarm hstop
    rw [hasked] at h
    cases congrArg Prod.fst h
    exact .inl (.aborted _ _)
  · obtain ⟨log, hasked⟩ := askWindows_of_not_givesUp (noting around) r l l₁ hwarm hstop
    rw [hasked, verdict] at h
    have hverdict := congrArg Prod.fst h
    dsimp only at hverdict
    split at hverdict
    · cases hverdict
      exact .inl (.failed _ _)
    · cases hverdict

theorem raised_of_askWindows_ok [ZoneDatabase] {around : Surroundings σ} {r : Run}
    {l l' : Logged (Noted σ)}
    {p : Progress} (h : (askWindows (noting around) r).apply l = (.ok p, l')) :
    l'.world.raised = l.world.raised := by
  obtain ⟨⟨⟩, l₁, hwarm, -⟩ := apply_bind_eq_ok_iff.mp h
  by_cases hstop : GivesUp r.scheduling.earlyTerminateWindow
      (answers (noting around) r (windowsOf r) l₁.world)
  · obtain ⟨log, hasked⟩ := askWindows_of_givesUp (noting around) r l l₁ hwarm hstop
    rw [hasked] at h
    cases congrArg Prod.fst h
  · obtain ⟨log, hasked⟩ := askWindows_of_not_givesUp (noting around) r l l₁ hwarm hstop
    rw [hasked] at h
    have hbehind : worldBehind (noting around) r (windowsOf r) l₁.world = l'.world :=
      congrArg (·.2.world) h
    rw [← hbehind, raised_worldBehind, raised_of_warmUp_ok hwarm]

theorem watermarkOf_eq_error_iff [ZoneDatabase] {r : Run} {z : Zone}
    (hzone : zoneNamed r.dataset.timezone = .ok z) {points : List Point} {fault : Fault} :
    watermarkOf r points = .error fault ↔ fault = .outOfRange ∧ EndsTooLate r points := by
  unfold EndsTooLate
  cases hlast : points.getLast? with
  | none => simp [watermarkOf, hlast]
  | some last =>
      cases hestimate : Watermark.estimate r.dataset last.time with
      | ok e => simp [watermarkOf, hlast, Watermark.ofLast, hestimate, Except.map]
      | error cause =>
          obtain rfl := WatermarkOrder.estimate_eq_error hzone hestimate
          simp [watermarkOf, hlast, Watermark.ofLast, hestimate, Except.map, eq_comm]

theorem conclude_eq_error [ZoneDatabase] {around : Surroundings σ} {r : Run} {z : Zone}
    (hzone : zoneNamed r.dataset.timezone = .ok z) {p : Progress} {records : List Anomaly}
    (hrecords : p.findings = records.map .record) {l l' : Logged (Noted σ)} {fault : Fault}
    (h : (conclude (noting around) r p).apply l = (.error fault, l')) :
    Allowed l'.world.raised fault ∨
      fault = .outOfRange ∧ ∃ points,
        (((noting around).series (watermarkSlice r)).apply l.world).1 = .ok points ∧
          EndsTooLate r points := by
  obtain ⟨log, hconcluded⟩ := conclude_apply (noting around) r hrecords l
  rw [hconcluded] at h
  rcases hread : ((noting around).series (watermarkSlice r)).apply l.world with
    ⟨fault' | points, n⟩
  · rw [hread] at h
    cases h
    exact .inl (.raised _ (mem_raised_of_fetch_error hread))
  · rw [hread] at h
    have hresult := congrArg Prod.fst h
    rcases hwatermark : watermarkOf r points with fault' | watermark
    · obtain ⟨rfl, hfar⟩ := (watermarkOf_eq_error_iff hzone).mp hwatermark
      simp only [Except.bind, hwatermark, Except.map] at hresult
      cases hresult
      exact .inr ⟨rfl, points, rfl, hfar⟩
    · simp only [Except.bind, hwatermark, Except.map] at hresult
      cases hresult

theorem conclude_of_far [ZoneDatabase] {around : Surroundings σ} {r : Run} {z : Zone}
    (hzone : zoneNamed r.dataset.timezone = .ok z) {p : Progress} {records : List Anomaly}
    (hrecords : p.findings = records.map .record) {l : Logged σ} {points : List Point}
    (hread : ((around.series (watermarkSlice r)).apply l.world).1 = .ok points)
    (hfar : EndsTooLate r points) :
    ((conclude around r p).apply l).1 = .error .outOfRange ∧
      ((conclude around r p).apply l).2.world =
        ((around.series (watermarkSlice r)).apply l.world).2 := by
  obtain ⟨log, hconcluded⟩ := conclude_apply around r hrecords l
  have hwatermark := (watermarkOf_eq_error_iff hzone).mpr ⟨rfl, hfar⟩
  rw [hconcluded, hread]
  exact ⟨by simp only [Except.bind, hwatermark, Except.map], rfl⟩

theorem allowed_or_escapes [ZoneDatabase] {around : Surroundings σ} {s : Scheduling}
    {d : Detection} {interval : Interval} {start l' : Logged (Noted σ)} {fault : Fault}
    (h : (Run.whole (noting around) s d interval).apply start = (.error fault, l')) :
    Allowed l'.world.raised fault ∨ Escapes (noting around) s d interval start fault := by
  rcases apply_bind_eq_error_iff.mp h with h | ⟨r, l₁, hready, h⟩
  · rw [prepare_eq] at h
    rcases apply_bind_eq_error_iff.mp h with h | ⟨parts, l₁, hfound, h⟩
    · exact .inl (lookUp_eq_error h)
    · rcases settle_eq_error h with ⟨cause, rfl⟩ | ⟨rfl, hfar⟩ | ⟨policy, hpolicy, hzone⟩
      · exact .inl (.configuration cause)
      · exact .inr (.bucket parts l₁ hfound hfar)
      · exact .inr (.zone parts l₁ policy fault hfound hpolicy hzone)
  rw [run_eq] at h
  rcases apply_bind_eq_error_iff.mp h with h | ⟨p, l₂, hasked, h⟩
  · rcases askWindows_eq_error h with hallowed | ⟨rfl, hfar⟩
    · exact .inl hallowed
    · exact .inr (.lookback r l₁ hready hfar)
  · rcases other_mem_or_exists_records p.findings with hstray | ⟨records, hrecords⟩
    · rw [conclude_of_other (noting around) r hstray] at h
      cases h
      exact .inr (.other r p l₁ l' hready hasked hstray)
    obtain ⟨z, hzone⟩ := (ready_of_prepare hready).datasetZone
    rcases conclude_eq_error hzone hrecords h with hallowed | ⟨rfl, points, hread, hfar⟩
    · exact .inl hallowed
    · exact .inr (.watermark r p records points l₁ l₂ hready hasked hrecords hread hfar)

theorem whole_of_escapes [ZoneDatabase] {around : Surroundings σ} {s : Scheduling} {d : Detection}
    {interval : Interval} {start : Logged (Noted σ)} {fault : Fault}
    (h : Escapes (noting around) s d interval start fault) :
    ((Run.whole (noting around) s d interval).apply start).1 = .error fault ∧
      ((Run.whole (noting around) s d interval).apply start).2.world.raised =
        start.world.raised := by
  rw [Run.whole, Act.apply_bind]
  cases h with
  | bucket parts behind hfound hfar =>
      rw [prepare_eq, Act.apply_bind, hfound]
      dsimp only
      rw [settle_of_far hfar]
      exact ⟨rfl, raised_of_lookUp_ok hfound⟩
  | zone parts behind policy fault hfound hpolicy hzone =>
      obtain ⟨log, hsettled⟩ := settle_of_unreadable hpolicy hzone behind
      rw [prepare_eq, Act.apply_bind, hfound]
      dsimp only
      rw [hsettled]
      have hraised := raised_of_lookUp_ok hfound
      exact ⟨rfl, hraised⟩
  | lookback r behind hready hfar =>
      rw [hready]
      dsimp only
      rw [run, Act.apply_bind, warmUp_of_far (noting around) hfar]
      exact ⟨rfl, raised_of_prepare_ok hready⟩
  | other r p behind behind' hready hasked hstray =>
      rw [hready]
      dsimp only
      rw [run_of_askWindows_ok (noting around) r behind behind' p hasked,
        conclude_of_other (noting around) r hstray]
      exact ⟨rfl, (raised_of_askWindows_ok hasked).trans (raised_of_prepare_ok hready)⟩
  | watermark r p records points behind behind' hready hasked hrecords hread hfar =>
      obtain ⟨z, hzone⟩ := (ready_of_prepare hready).datasetZone
      obtain ⟨hresult, hworld⟩ := conclude_of_far hzone hrecords hread hfar
      have hraised : (((noting around).series (watermarkSlice r)).apply
          behind'.world).2.raised = behind'.world.raised :=
        raised_of_fetch_ok (Prod.ext hread rfl)
      rw [hready]
      dsimp only
      rw [run_of_askWindows_ok (noting around) r behind behind' p hasked, hresult, hworld, hraised,
        raised_of_askWindows_ok hasked, raised_of_prepare_ok hready]
      exact ⟨rfl, rfl⟩

/-- A run of a detection whose id can be written in the log ends with a result or with a fault that
it is allowed to end with, except exactly where it lets one through; and the walk of its windows
comes to an end in a regular zone. The run is one in the given surroundings, in which the faults of
fetches are noted. -/
theorem run_keeps_contract_iff [ZoneDatabase] {a b : Moment} {interval : Interval}
    (hinterval : Interval.ofMoments a b = .ok interval) (around : Surroundings σ)
    (s : Scheduling) (d : Detection) (_hid : d.id.all Text.isWritable = true) (world : σ) :
    let start : Logged (Noted σ) := ⟨⟨world, []⟩, []⟩
    let ended := (Run.whole (noting around) s d interval).apply start
    ((Run.whole around s d interval).apply ⟨world, []⟩).1 = ended.1 ∧
    ((∀ fault, ended.1 = .error fault → Allowed ended.2.world.raised fault) ↔
      ∀ fault, ¬ Escapes (noting around) s d interval start fault) ∧
    ∀ r behind, (prepare (noting around) d interval s).apply start = (.ok r, behind) →
      NamesRegular r.policy.timezone → r.plan ≠ .fallback .endlessWalk := by
  intro start ended
  refine ⟨congrArg Prod.fst (follows_whole (shadows_noting around) d interval s start),
    ⟨fun hkept fault hescapes => ?_, fun hnone fault hfault => ?_⟩,
    fun r behind hready hregular => ?_⟩
  · obtain ⟨hresult, hraised⟩ := whole_of_escapes hescapes
    have hmem := mem_of_allowed_of_escapes hescapes (hkept fault hresult)
    rw [hraised] at hmem
    cases hmem
  · exact (allowed_or_escapes (Prod.ext hfault rfl)).resolve_right (hnone fault)
  · obtain ⟨hextent, ⟨replaced, hpolicy⟩, -⟩ := ready_of_prepare hready
    rw [Run.plan, hextent]
    exact plan_ne_endless hinterval hregular (forward_of_derive hpolicy) _

def siteDown : Surroundings Unit where
  metric id := pure (if id = 1 then some { id := 1, name := "visits", dataset := "site" } else none)
  dataset name := pure (if name = "site" then some { name := "site" } else none)
  series _ := pure []
  detectors := ["spikes"]
  detect _ _ _ := throw (.runtime "down")

def spikesOf (bucket : Option String) : Detection where
  name := "daily"
  metricUrn := "slidewatch:metric:1"
  detector := "spikes"
  movingWindow := true
  bucketPeriod := bucket

def threeDays : Interval :=
  ⟨.ofInstant 0, .ofInstant (3 * day)⟩

def threeDaysRun : Run where
  detection := spikesOf none
  interval := threeDays
  scheduling := {}
  entity := ⟨1, []⟩
  metric := { id := 1, name := "visits", dataset := "site" }
  dataset := { name := "site" }
  policy := {
    timezone := "UTC", datasetUnit := .days, frequency := ⟨15, .minutes⟩,
    bucketPeriod := .of 1 .days, cachingLookback := 7776000000 }

open scoped ZoneTable

set_option maxRecDepth 10000 in
/-- Three days on which the detector is down make a run that has failed, as a run may. -/
theorem threeDays_down :
    let start : Logged (Noted Unit) := ⟨⟨(), []⟩, []⟩
    let ended := (Run.whole (noting siteDown) {} (spikesOf none) threeDays).apply start
    Interval.ofMoments threeDays.start threeDays.finish = .ok threeDays ∧
    (spikesOf none).id.all Text.isWritable = true ∧
    ended.1 = .error (.failed threeDaysRun.failure (some (.runtime "down"))) ∧
    ((Run.whole siteDown {} (spikesOf none) threeDays).apply ⟨(), []⟩).1 = ended.1 ∧
    ((∀ fault, ended.1 = .error fault → Allowed ended.2.world.raised fault) ↔
      ∀ fault, ¬ Escapes (noting siteDown) {} (spikesOf none) threeDays start fault) ∧
    ∀ r behind, (prepare (noting siteDown) (spikesOf none) threeDays {}).apply start =
      (.ok r, behind) → NamesRegular r.policy.timezone → r.plan ≠ .fallback .endlessWalk := by
  have hinterval : Interval.ofMoments threeDays.start threeDays.finish = .ok threeDays := rfl
  have hready : (prepare (noting siteDown) (spikesOf none) threeDays {}).apply ⟨⟨(), []⟩, []⟩ =
      (.ok threeDaysRun, ⟨⟨(), []⟩, []⟩) := rfl
  have hasked : ((askWindows (noting siteDown) threeDaysRun).apply ⟨⟨(), []⟩, []⟩).1 =
      .error (.failed threeDaysRun.failure (some (.runtime "down"))) := rfl
  have hrun := run_of_askWindows_error (noting siteDown) threeDaysRun _ _ _ (Prod.ext hasked rfl)
  refine ⟨hinterval, rfl, ?_, run_keeps_contract_iff hinterval siteDown {} (spikesOf none) rfl ()⟩
  simp only [Run.whole, Act.apply_bind, hready, hrun]

set_option maxRecDepth 10000 in
/-- A bucket of a thousand million days is read, but lasts too long for the speed-up to look at it,
and what it fails with is none of the faults that a run may end with. -/
theorem longBucket_escapes :
    let start : Logged (Noted Unit) := ⟨⟨(), []⟩, []⟩
    let ended := (Run.whole (noting siteDown) {} (spikesOf (some "P1000000000D"))
      threeDays).apply start
    Interval.ofMoments threeDays.start threeDays.finish = .ok threeDays ∧
    ended.1 = .error .outOfRange ∧ ended.2.world.raised = [] ∧
    ¬ ∀ fault, ended.1 = .error fault → Allowed ended.2.world.raised fault := by
  have hfound : (lookUp (noting siteDown) (spikesOf (some "P1000000000D"))).apply
      ⟨⟨(), []⟩, []⟩ =
        (.ok ⟨threeDaysRun.entity, threeDaysRun.metric, threeDaysRun.dataset⟩, ⟨⟨(), []⟩, []⟩) :=
    rfl
  have hbucket : WindowPolicy.bucketFor (spikesOf (some "P1000000000D")) .days {} =
      .ok (.of 1000000000 .days) := rfl
  have hescapes : Escapes (noting siteDown) {} (spikesOf (some "P1000000000D")) threeDays
      ⟨⟨(), []⟩, []⟩ .outOfRange := .bucket _ _ hfound ⟨_, hbucket, by decide⟩
  obtain ⟨hresult, hraised⟩ := whole_of_escapes hescapes
  refine ⟨rfl, hresult, hraised, fun hkept => ?_⟩
  have hmem := mem_of_allowed_of_escapes hescapes (hkept _ hresult)
  rw [hraised] at hmem
  cases hmem

end AnomalyWindows.Proofs.RunFaults
