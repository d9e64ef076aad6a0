import AnomalyWindows.Calendar.ZoneTable
import AnomalyWindows.Proofs.AlignedTimes
import AnomalyWindows.Proofs.ResumedWindows
import Mathlib.Algebra.EuclideanDomain.Basic
import Mathlib.Algebra.EuclideanDomain.Int

namespace AnomalyWindows.Proofs.BucketSteps

open Calendar
open AnomalyWindows.Alignment
open AnomalyWindows.Proofs.CalendarMoves AnomalyWindows.Proofs.AnchorWalk
open AnomalyWindows.Proofs.UtcGrid AnomalyWindows.Proofs.ResumedWindows
open AnomalyWindows.Proofs.WatermarkOrder AnomalyWindows.Proofs.AlignedTimes

/-- The clock without changes, or that of the zone UTC. -/
def IsUtc (clock : Clock) : Prop :=
  clock = .utc ∨ clock = .zone Zone.utc

theorem instant_of_isUtc {m : Moment} (hm : IsUtc m.clock) : m.instant = m.wall := by
  rcases hm with hfixed | hzone
  · exact instant_of_utc hfixed
  · exact instant_of_onUtc hzone

theorem isNaive_of_isUtc {m : Moment} (hm : IsUtc m.clock) : m.isNaive = false := by
  rcases hm with hfixed | hzone
  · exact isNaive_of_utc hfixed
  · exact isNaive_of_onZone hzone

theorem hasUtc_of_isUtc [ZoneDatabase] {m : Moment} (hm : IsUtc m.clock) (hrange : InYears m.wall) :
    HasUtc m := by
  have hclock : m.isNaive ≠ true := by simp [isNaive_of_isUtc hm]
  refine ⟨?_, (instant_of_isUtc hm).symm ▸ hrange, fun hnaive => absurd hnaive hclock,
    fun hnaive => absurd hnaive hclock⟩
  rcases hm with hfixed | hzone
  · exact known_of_utc hfixed
  · rw [hzone]
    rintro z ⟨⟩
    exact zoneNamed_utc

theorem convert_of_isUtc {m : Moment} {target : Clock} (hm : IsUtc m.clock) (htarget : IsUtc target)
    (hrange : InYears m.wall) :
    ∃ n, m.convert target = .ok n ∧ n.clock = target ∧ n.wall = m.wall := by
  have hinstant := instant_of_isUtc hm
  rcases hm with hm | hm <;> rcases htarget with rfl | rfl
  · exact ⟨m, if_pos (by rw [hm]; rfl), hm, rfl⟩
  · refine ⟨atUtc m.wall, ?_, rfl, rfl⟩
    rw [convert_zone_eq_ok_iff hm, hinstant, onClock_atUtc]
    exact ⟨hrange, hrange, rfl⟩
  · refine ⟨.ofInstant m.wall, ?_, rfl, rfl⟩
    rw [convert_utc_eq_ok_iff hm, hinstant]
    exact ⟨hrange, rfl⟩
  · exact ⟨m, if_pos (by rw [hm]; rfl), hm, rfl⟩

section Moves

variable {m : Moment} (hm : IsUtc m.clock)
include hm

theorem settled_of_isUtc (hrange : InYears m.wall) :
    ∃ n, m.settled = .ok n ∧ n.clock = m.clock ∧ n.wall = m.wall := by
  obtain ⟨utc, hutc, hclock, hwall⟩ := convert_of_isUtc hm (.inl rfl) hrange
  obtain ⟨n, hn, hclock', hwall'⟩ := convert_of_isUtc (.inl hclock) hm (hwall ▸ hrange)
  exact ⟨n, bind_eq_ok_iff.mpr ⟨utc, hutc, hn⟩, hclock', hwall'.trans hwall⟩

theorem moveDays_of_isUtc {days : Int} (hspans : Spans (days * day))
    (hrange : InYears (m.wall + days * day)) :
    ∃ n, Period.moveDays days 1 m = .ok n ∧ n.clock = m.clock ∧ n.wall = m.wall + days * day := by
  have hmoved : IsUtc (Moment.clock ⟨m.wall + days * day, false, m.clock⟩) := hm
  obtain ⟨n, hn, hclock, hwall⟩ := settled_of_isUtc hmoved hrange
  refine ⟨n, ?_, hclock, hwall⟩
  simp only [Period.moveDays, bind_eq_ok_iff, isNaive_of_isUtc hm, Bool.false_eq_true, if_false,
    checkedDuration_eq_ok_iff, checkedWall_eq_ok_iff, Int.one_mul]
  exact ⟨_, ⟨hspans, rfl⟩, _, ⟨hspans, rfl⟩, _, ⟨hrange, rfl⟩, hn⟩

theorem moveExact_of_isUtc {step : Int} (hwall : InYears m.wall) (hspans : Spans step)
    (hrange : InYears (m.wall + step)) :
    ∃ n, Period.moveExact step 1 m = .ok n ∧ n.clock = m.clock ∧ n.wall = m.wall + step := by
  obtain ⟨utc, hutc, -, hwall'⟩ := convert_of_isUtc hm (.inl rfl) hwall
  have hmoved : IsUtc (Moment.clock ⟨m.wall + step, false, .utc⟩) := .inl rfl
  obtain ⟨n, hn, hclock, hwall''⟩ := convert_of_isUtc hmoved hm hrange
  refine ⟨n, ?_, hclock, hwall''⟩
  simp only [Period.moveExact, bind_eq_ok_iff, isNaive_of_isUtc hm, Bool.false_eq_true, if_false,
    checkedDuration_eq_ok_iff, checkedWall_eq_ok_iff, Int.one_mul]
  exact ⟨_, ⟨hspans, rfl⟩, utc, hutc, _, ⟨hwall' ▸ hrange, hwall' ▸ rfl⟩, hn⟩

/-- On a clock of UTC a period without negative fields adds its duration, if that keeps to the
bounds of the calendar. -/
theorem addTo_of_isUtc {p : Period} (hp : Forward p) (hwall : InYears m.wall)
    (hrange : InYears (m.wall + p.total)) :
    ∃ n, p.addTo m = .ok n ∧ n.clock = m.clock ∧ n.wall = m.wall + p.total := by
  obtain ⟨hdays, hexact, -⟩ := parts_of_forward hp
  have htotal : p.total = p.calendarDays * day + p.exact := rfl
  have hpos : 0 ≤ p.calendarDays * day := Int.mul_nonneg hdays (by decide)
  have hbetween : InYears (m.wall + p.calendarDays * day) :=
    ⟨by have := hwall.1; omega, by have := hrange.2; omega⟩
  have hspans {duration : Int} (hnonneg : 0 ≤ duration) (hle : duration ≤ p.total) :
      Spans duration := by
    obtain ⟨hfirst, -⟩ := hwall
    obtain ⟨-, hlast⟩ := hrange
    simp only [Spans, shortestDuration, longestDuration, firstWall, lastWall, day, hour, minute,
      second] at *
    omega
  obtain ⟨onDay, honDay, hclock, hwall'⟩ : ∃ onDay,
      (if p.calendarDays = 0 then .ok m else Period.moveDays p.calendarDays 1 m) = .ok onDay ∧
        onDay.clock = m.clock ∧ onDay.wall = m.wall + p.calendarDays * day := by
    split
    · next hnone => exact ⟨m, rfl, rfl, by rw [hnone, Int.zero_mul, Int.add_zero]⟩
    · exact moveDays_of_isUtc hm (hspans hpos (by omega)) hbetween
  have hmoved : ∃ n,
      (if p.exact = 0 then .ok onDay else Period.moveExact p.exact 1 onDay) = .ok n ∧
        n.clock = onDay.clock ∧ n.wall = onDay.wall + p.exact := by
    split
    · next hnone => exact ⟨onDay, rfl, rfl, by rw [hnone, Int.add_zero]⟩
    · refine moveExact_of_isUtc (hclock ▸ hm) (hwall' ▸ hbetween) (hspans hexact (by omega)) ?_
      rw [hwall', Int.add_assoc, ← htotal]
      exact hrange
  obtain ⟨n, hn, hclock', hwall''⟩ := hmoved
  refine ⟨n, ?_, hclock'.trans hclock, by omega⟩
  rw [Period.addTo, shift_eq]
  refine bind_eq_ok_iff.mpr ⟨onDay, honDay, bind_eq_ok_iff.mpr ⟨p.exact, ?_, hn⟩⟩
  exact checkedDuration_eq_ok_iff.mpr ⟨hspans hexact (by omega), rfl⟩

end Moves

section Grid

variable {unit : TimeUnit} {frequency : Granularity} {maxMinutes : Int}

theorem isBoundary_iff_dvd (h : usesMinutes unit frequency maxMinutes = true)
    (hsize : 1 ≤ frequency.size) {time : Int} (hwhole : minute ∣ time) :
    IsBoundary unit frequency maxMinutes time ↔ frequency.size ∣ time / minute % 60 := by
  obtain ⟨minutes, rfl⟩ := hwhole
  rw [isBoundary_iff_of_minutes h, Int.mul_ediv_cancel_left _ (by decide)]
  constructor
  · rintro ⟨hours, count, hcount, hlt, htime⟩
    have hnonneg := Int.mul_nonneg hcount (show 0 ≤ frequency.size by omega)
    have hminutes : minutes % 60 = count * frequency.size := by
      simp only [hour, minute, second] at htime
      omega
    rw [hminutes]
    exact Int.dvd_mul_left count frequency.size
  · rintro ⟨count, hcount⟩
    have hpos := Int.emod_nonneg minutes (show (60 : Int) ≠ 0 by decide)
    have hlt := Int.emod_lt_of_pos minutes (show (0 : Int) < 60 by decide)
    rw [Int.mul_comm] at hcount
    refine ⟨minutes / 60, count, ?_, by omega, ?_⟩
    · refine nonneg_of_mul_nonneg_left (b := frequency.size) ?_ (by omega)
      omega
    · rw [← hcount]
      simp only [hour, minute, second]
      omega

theorem minute_dvd_of_isBoundary (h : usesMinutes unit frequency maxMinutes = true) {time : Int}
    (htime : IsBoundary unit frequency maxMinutes time) : minute ∣ time := by
  obtain ⟨hours, count, -, -, rfl⟩ := (isBoundary_iff_of_minutes h time).mp htime
  refine Int.dvd_add ?_ (Int.dvd_mul_left ..)
  exact Int.dvd_trans (by decide) (Int.dvd_mul_left hours hour)

theorem isBoundary_step_iff (hsize : 1 ≤ frequency.size) {time : Int}
    (htime : IsBoundary unit frequency maxMinutes time) :
    IsBoundary unit frequency maxMinutes (time + (bucket unit frequency maxMinutes).total) ↔
      (usesMinutes unit frequency maxMinutes = true →
        frequency.size ∣ (time + (bucket unit frequency maxMinutes).total) / minute % 60) := by
  by_cases h : usesMinutes unit frequency maxMinutes = true
  · rw [imp_iff_right h, total_bucket_of_minutes h]
    exact isBoundary_iff_dvd h hsize
      (Int.dvd_add (minute_dvd_of_isBoundary h htime) (Int.dvd_mul_left ..))
  · rw [isBoundary_iff_of_not_minutes h] at htime ⊢
    exact iff_of_true (Int.dvd_add htime (Int.dvd_refl _)) fun hminutes => absurd hminutes h

/-- The minutes of the frequency, if they are used, go with whole hours, or are too many for even
one step within the calendar. -/
def FitsHours (unit : TimeUnit) (frequency : Granularity) (maxMinutes : Int) : Prop :=
  usesMinutes unit frequency maxMinutes = true →
    frequency.size ∣ 60 ∨ 60 ∣ frequency.size ∨ lastWall - firstWall < frequency.size * minute

theorem isBoundary_step_of_fits (hsize : 1 ≤ frequency.size)
    (hfits : FitsHours unit frequency maxMinutes) {time : Int} (hrange : InYears time)
    (hrange' : InYears (time + (bucket unit frequency maxMinutes).total))
    (htime : IsBoundary unit frequency maxMinutes time) :
    IsBoundary unit frequency maxMinutes (time + (bucket unit frequency maxMinutes).total) := by
  refine (isBoundary_step_iff hsize htime).mpr fun h => ?_
  have hminute := (isBoundary_iff_dvd h hsize (minute_dvd_of_isBoundary h htime)).mp htime
  rw [total_bucket_of_minutes h] at hrange' ⊢
  rw [Int.add_mul_ediv_right _ _ (by decide)]
  rcases hfits h with hdivides | hmultiple | hlong
  · rw [EuclideanDomain.dvd_mod_iff hdivides] at hminute ⊢
    exact Int.dvd_add hminute (Int.dvd_refl _)
  · rwa [Int.add_emod, Int.emod_eq_zero_of_dvd hmultiple, Int.add_zero, Int.emod_emod]
  · obtain ⟨hfirst, -⟩ := hrange
    obtain ⟨-, hlast⟩ := hrange'
    omega

/-- Of sizes that do not go with whole hours the step from the last multiple within an hour misses
the multiples of the hour in which it ends. -/
theorem not_dvd_last_step {size : Int} (hsize : 1 ≤ size) (hdivides : ¬ size ∣ 60)
    (hmultiple : ¬ 60 ∣ size) : ¬ size ∣ (59 / size * size + size) % 60 := by
  intro hdvd
  have hlast := Int.ediv_mul_le 59 (show size ≠ 0 by omega)
  have hnext := Int.lt_ediv_add_one_mul_self 59 (show 0 < size by omega)
  rw [Int.add_mul, Int.one_mul] at hnext
  rcases Int.lt_or_le 60 size with hlong | hshort
  · rw [Int.ediv_eq_zero_of_lt (by decide) (by omega), Int.zero_mul, Int.zero_add] at hdvd
    have hle := Int.le_of_dvd (by omega) hdvd
    omega
  · have hhour : (59 / size * size + size) % 60 = 59 / size * size + size - 60 := by omega
    have hmultiples : size ∣ 59 / size * size + size :=
      Int.dvd_add (Int.dvd_mul_left ..) (Int.dvd_refl _)
    rw [hhour, dvd_sub_right hmultiples] at hdvd
    exact hdivides hdvd

theorem exists_step_off (hsize : 1 ≤ frequency.size)
    (hfits : ¬ FitsHours unit frequency maxMinutes) :
    ∃ time, InYears time ∧ InYears (time + (bucket unit frequency maxMinutes).total) ∧
      IsBoundary unit frequency maxMinutes time ∧
      ¬ IsBoundary unit frequency maxMinutes
        (time + (bucket unit frequency maxMinutes).total) := by
  unfold FitsHours at hfits
  push Not at hfits
  obtain ⟨h, hdivides, hmultiple, hshort⟩ := hfits
  have hnonneg : 0 ≤ 59 / frequency.size * frequency.size :=
    Int.mul_nonneg (Int.ediv_nonneg (by decide) (by omega)) (by omega)
  have hlast := Int.ediv_mul_le 59 (show frequency.size ≠ 0 by omega)
  have hminutes : (firstWall + 59 / frequency.size * frequency.size * minute) / minute % 60 =
      59 / frequency.size * frequency.size := by
    rw [Int.add_mul_ediv_right _ _ (by decide)]
    simp only [firstWall, minute, second]
    omega
  have hboundary : IsBoundary unit frequency maxMinutes
      (firstWall + 59 / frequency.size * frequency.size * minute) := by
    refine (isBoundary_iff_dvd h hsize ?_).mpr ?_
    · exact Int.dvd_add (by decide) (Int.dvd_mul_left ..)
    · rw [hminutes]
      exact Int.dvd_mul_left ..
  refine ⟨_, ?_, ?_, hboundary, ?_⟩
  · simp only [InYears, firstWall, lastWall, minute, second]
    omega
  · -- a frequency longer than an hour steps from the first moment of all
    have hshift : 59 / frequency.size * frequency.size = 0 ∨ frequency.size ≤ 59 := by
      rcases Int.lt_or_le 59 frequency.size with hlong | hwithin
      · rw [Int.ediv_eq_zero_of_lt (by decide) hlong]
        exact .inl (Int.zero_mul _)
      · exact .inr hwithin
    rw [total_bucket_of_minutes h]
    simp only [InYears, firstWall, lastWall, minute, second] at *
    omega
  · rw [isBoundary_step_iff hsize hboundary, Classical.not_imp, total_bucket_of_minutes h]
    refine ⟨h, ?_⟩
    have hstep := not_dvd_last_step hsize hdivides hmultiple
    rwa [Int.add_mul_ediv_right _ _ (by decide), ← Int.emod_add_emod, hminutes]

end Grid

/-- A moment that alignment in UTC leaves where it is. -/
def Aligned [ZoneDatabase] (unit : TimeUnit) (frequency : Granularity) (maxMinutes : Int)
    (m : Moment) : Prop :=
  ∃ r, align "UTC" unit frequency maxMinutes m = .ok r ∧ r.instant = m.instant

theorem aligned_iff [ZoneDatabase] (unit : TimeUnit) {frequency : Granularity}
    (hsize : 1 ≤ frequency.size)
    (maxMinutes : Int) {m : Moment} (hm : IsUtc m.clock) (hrange : InYears m.wall) :
    Aligned unit frequency maxMinutes m ↔ IsBoundary unit frequency maxMinutes m.wall := by
  obtain ⟨fold, halign⟩ := align_of_hasUtc unit hsize maxMinutes (hasUtc_of_isUtc hm hrange)
  rw [Aligned, halign, ← instant_of_isUtc hm, ← boundary_eq_self_iff unit hsize]
  constructor
  · rintro ⟨r, hr, hsame⟩
    rwa [← Except.ok.inj hr, instant_onUtc] at hsame
  · intro hsame
    exact ⟨_, rfl, (instant_onUtc _ _).trans hsame⟩

section Steps

variable {unit : TimeUnit} {frequency : Granularity} {maxMinutes : Int}
  (hsize : 1 ≤ frequency.size)
include hsize

theorem exists_step_of_aligned [ZoneDatabase] {m : Moment} (hm : IsUtc m.clock)
    (hwall : InYears m.wall)
    (haligned : Aligned unit frequency maxMinutes m)
    (hrange : InYears (m.wall + (bucket unit frequency maxMinutes).total)) :
    ∃ n, (bucket unit frequency maxMinutes).addTo m = .ok n ∧ IsUtc n.clock ∧
      n.wall = m.wall + (bucket unit frequency maxMinutes).total ∧
      (Aligned unit frequency maxMinutes n ↔
        (usesMinutes unit frequency maxMinutes = true →
          frequency.size ∣ n.wall / minute % 60)) := by
  obtain ⟨n, hn, hclock, hstep⟩ :=
    addTo_of_isUtc hm (forward_bucket unit hsize maxMinutes) hwall hrange
  have hutc : IsUtc n.clock := hclock ▸ hm
  refine ⟨n, hn, hutc, hstep, ?_⟩
  rw [aligned_iff unit hsize maxMinutes hm hwall] at haligned
  rw [aligned_iff unit hsize maxMinutes hutc (hstep ▸ hrange), hstep]
  exact isBoundary_step_iff hsize haligned

/-- Every step of the bucket from an aligned moment ends at an aligned one exactly if the minutes go
with whole hours. -/
theorem aligned_steps_iff [ZoneDatabase] :
    (∀ m, IsUtc m.clock → InYears m.wall → Aligned unit frequency maxMinutes m →
      InYears (m.wall + (bucket unit frequency maxMinutes).total) →
      ∃ n, (bucket unit frequency maxMinutes).addTo m = .ok n ∧
        Aligned unit frequency maxMinutes n) ↔ FitsHours unit frequency maxMinutes := by
  constructor
  · intro hsteps
    by_contra hfits
    obtain ⟨time, hwall, hrange, hboundary, hoff⟩ := exists_step_off hsize hfits
    have hutc : IsUtc (atUtc time).clock := .inr rfl
    obtain ⟨n, hn, haligned⟩ := hsteps (atUtc time) hutc hwall
      ((aligned_iff unit hsize maxMinutes hutc hwall).mpr hboundary) hrange
    obtain rfl := shift_atUtc hn
    rw [Int.one_mul, aligned_iff unit hsize maxMinutes (.inr rfl) hrange] at haligned
    exact hoff haligned
  · intro hfits m hm hwall haligned hrange
    obtain ⟨n, hn, hutc, hstep, -⟩ := exists_step_of_aligned hsize hm hwall haligned hrange
    refine ⟨n, hn, (aligned_iff unit hsize maxMinutes hutc (hstep ▸ hrange)).mpr ?_⟩
    rw [aligned_iff unit hsize maxMinutes hm hwall] at haligned
    exact hstep ▸ isBoundary_step_of_fits hsize hfits hwall hrange haligned

/-- A place of a walk in UTC that is on the grid. -/
def OnBoundary (unit : TimeUnit) (frequency : Granularity) (maxMinutes : Int) (m : Moment) : Prop :=
  ∃ wall, m = atUtc wall ∧ InYears wall ∧ IsBoundary unit frequency maxMinutes wall

theorem onBoundary_step (hfits : FitsHours unit frequency maxMinutes) {m n : Moment}
    (hm : OnBoundary unit frequency maxMinutes m)
    (hstep : (bucket unit frequency maxMinutes).addTo m = .ok n) :
    OnBoundary unit frequency maxMinutes n := by
  obtain ⟨wall, rfl, hrange, hboundary⟩ := hm
  obtain ⟨-, hinstant⟩ := shift_of_onZone (onZone_atUtc wall) hstep
  obtain ⟨instant, hinstant, hshown⟩ :=
    hinstant (parts_of_forward (forward_bucket unit hsize maxMinutes)).2.2
  obtain rfl := shift_atUtc hstep
  rw [Int.one_mul, onClock_atUtc] at *
  obtain rfl : _ = instant := congrArg Moment.wall hshown
  exact ⟨_, rfl, hinstant, isBoundary_step_of_fits hsize hfits hrange hinstant hboundary⟩

def derivedInUtc (p : WindowPolicy) (unit : TimeUnit) (frequency : Granularity)
    (maxMinutes : Int) : WindowPolicy :=
  { p with
    timezone := "UTC"
    datasetUnit := unit
    frequency := frequency
    maxMinuteFrequency := maxMinutes
    bucketPeriod := bucket unit frequency maxMinutes }

theorem aligned_anchors [ZoneDatabase] (hfits : FitsHours unit frequency maxMinutes)
    (p : WindowPolicy)
    {a b : Moment} {interval : Interval} (hinterval : Interval.ofMoments a b = .ok interval)
    {anchors : List Moment}
    (hanchors : (derivedInUtc p unit frequency maxMinutes).anchors interval = .ok anchors) :
    ∀ anchor ∈ anchors, Aligned unit frequency maxMinutes anchor := by
  obtain ⟨hutc, -⟩ := clock_bounds hinterval
  obtain ⟨start, finish, hstart, -, hwalked⟩ := walked_of_anchors hanchors
  have hwall := inYears_of_align hutc hstart
  rw [align_atUtc rfl hutc hwall hsize] at hstart
  obtain rfl := Except.ok.inj hstart
  have hplace : OnBoundary unit frequency maxMinutes
      (atUtc (boundary unit frequency maxMinutes interval.start.wall)) :=
    ⟨_, rfl, inYears_boundary unit hsize maxMinutes hwall,
      (boundary_isGreatest unit hsize maxMinutes _).1.1⟩
  intro anchor hanchor
  obtain ⟨wall, rfl, hrange, hboundary⟩ :=
    forall_of_walked (fun _ _ hm hstep => onBoundary_step hsize hfits hm hstep) hplace hwalked
      anchor hanchor
  exact (aligned_iff unit hsize maxMinutes (.inr rfl) hrange).mpr hboundary

end Steps

/-- A step of the bucket in UTC leads from an aligned moment to an aligned one unless it misses the
minutes that are counted from the hour in which it ends. No step does exactly if the minutes of the
frequency go with whole hours, and then the anchors of all intervals are on one grid. -/
theorem bucket_keeps_grid [ZoneDatabase] (unit : TimeUnit) (frequency : Granularity)
    (maxMinutes : Int)
    (hsize : 1 ≤ frequency.size) :
    (∀ m, IsUtc m.clock → InYears m.wall → Aligned unit frequency maxMinutes m →
      InYears (m.wall + (bucket unit frequency maxMinutes).total) →
      ∃ n, (bucket unit frequency maxMinutes).addTo m = .ok n ∧ IsUtc n.clock ∧
        n.wall = m.wall + (bucket unit frequency maxMinutes).total ∧
        (Aligned unit frequency maxMinutes n ↔
          (usesMinutes unit frequency maxMinutes = true →
            frequency.size ∣ n.wall / minute % 60))) ∧
    ((∀ m, IsUtc m.clock → InYears m.wall → Aligned unit frequency maxMinutes m →
      InYears (m.wall + (bucket unit frequency maxMinutes).total) →
      ∃ n, (bucket unit frequency maxMinutes).addTo m = .ok n ∧
        Aligned unit frequency maxMinutes n) ↔ FitsHours unit frequency maxMinutes) ∧
    (FitsHours unit frequency maxMinutes →
      ∀ p a b interval anchors, Interval.ofMoments a b = .ok interval →
        (derivedInUtc p unit frequency maxMinutes).anchors interval = .ok anchors →
        ∀ anchor ∈ anchors, Aligned unit frequency maxMinutes anchor) :=
  ⟨fun _ => exists_step_of_aligned hsize, aligned_steps_iff hsize,
    fun hfits p _ _ _ _ hinterval => aligned_anchors hsize hfits p hinterval⟩

open scoped ZoneTable

theorem twentyMinutes_on_grid :
    let frequency : Granularity := ⟨20, .minutes⟩
    1 ≤ frequency.size ∧ FitsHours .minutes frequency defaultMaxMinutes ∧
    (∀ m, IsUtc m.clock → InYears m.wall → Aligned .minutes frequency defaultMaxMinutes m →
      InYears (m.wall + (bucket .minutes frequency defaultMaxMinutes).total) →
      ∃ n, (bucket .minutes frequency defaultMaxMinutes).addTo m = .ok n ∧
        Aligned .minutes frequency defaultMaxMinutes n) ∧
    ∀ p a b interval anchors, Interval.ofMoments a b = .ok interval →
      (derivedInUtc p .minutes frequency defaultMaxMinutes).anchors interval = .ok anchors →
      ∀ anchor ∈ anchors, Aligned .minutes frequency defaultMaxMinutes anchor := by
  intro frequency
  have hfits : FitsHours .minutes frequency defaultMaxMinutes := fun _ => .inl (by decide)
  obtain ⟨-, hsteps, hanchors⟩ := bucket_keeps_grid .minutes frequency defaultMaxMinutes (by decide)
  exact ⟨by decide, hfits, hsteps.mpr hfits, hanchors hfits⟩

def onFirstOfMay (minutes : Int) : Moment :=
  atUtc (1714521600 * second + minutes * minute)

theorem sevenMinutes_off_grid :
    let frequency : Granularity := ⟨7, .minutes⟩
    let last := onFirstOfMay (12 * 60 + 56)
    let next := onFirstOfMay (13 * 60 + 3)
    1 ≤ frequency.size ∧ IsUtc last.clock ∧ InYears last.wall ∧ InYears next.wall ∧
    Aligned .minutes frequency defaultMaxMinutes last ∧
    (bucket .minutes frequency defaultMaxMinutes).addTo last = .ok next ∧
    align "UTC" .minutes frequency defaultMaxMinutes next = .ok (onFirstOfMay (13 * 60)) ∧
    ¬ Aligned .minutes frequency defaultMaxMinutes next := by
  intro frequency last next
  have halign : align "UTC" .minutes frequency defaultMaxMinutes next =
      .ok (onFirstOfMay (13 * 60)) := rfl
  refine ⟨by decide, .inr rfl, by decide, by decide, ⟨last, rfl, rfl⟩, rfl, halign, ?_⟩
  rintro ⟨r, hr, hsame⟩
  rw [halign] at hr
  obtain rfl := Except.ok.inj hr
  revert hsame
  decide

end AnomalyWindows.Proofs.BucketSteps
