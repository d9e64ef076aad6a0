import AnomalyWindows.Calendar.ZoneTable
import AnomalyWindows.Proofs.UtcGrid
import AnomalyWindows.Proofs.WatermarkOrder
import Mathlib.Order.Bounds.Basic

namespace AnomalyWindows.Proofs.AlignedTimes

open Calendar
open AnomalyWindows.Alignment
open AnomalyWindows.Proofs.CalendarMoves AnomalyWindows.Proofs.UtcGrid
open AnomalyWindows.Proofs.WatermarkOrder

/-- The bucket boundaries in UTC: every midnight for days, every whole hour for hours. For finer
units they are the minutes that are multiples of the frequency, counted anew from each whole hour,
and only the whole hours if the frequency is not a number of minutes or a number too large. -/
def IsBoundary (unit : TimeUnit) (frequency : Granularity) (maxMinutes time : Int) : Prop :=
  match unit with
  | .days => day ∣ time
  | .hours => hour ∣ time
  | .minutes | .seconds | .milliseconds =>
    if frequency.unit = .minutes ∧ frequency.size ≤ maxMinutes then
      ∃ hours count, 0 ≤ count ∧ count * frequency.size < 60 ∧
        time = hours * hour + count * frequency.size * minute
    else hour ∣ time

section Grid

variable {unit : TimeUnit} {frequency : Granularity} {maxMinutes : Int}

theorem usesMinutes_iff :
    usesMinutes unit frequency maxMinutes = true ↔
      unit.isSubHour = true ∧ frequency.unit = .minutes ∧ frequency.size ≤ maxMinutes := by
  simp [usesMinutes, and_assoc]

theorem isBoundary_iff_of_minutes (h : usesMinutes unit frequency maxMinutes = true) (time : Int) :
    IsBoundary unit frequency maxMinutes time ↔
      ∃ hours count, 0 ≤ count ∧ count * frequency.size < 60 ∧
        time = hours * hour + count * frequency.size * minute := by
  obtain ⟨hfine, hused⟩ := usesMinutes_iff.mp h
  cases unit with
  | days | hours => cases hfine
  | minutes | seconds | milliseconds => exact iff_of_eq (if_pos hused)

theorem isBoundary_iff_of_not_minutes (h : ¬ usesMinutes unit frequency maxMinutes = true)
    (time : Int) :
    IsBoundary unit frequency maxMinutes time ↔
      (bucket unit frequency maxMinutes).total ∣ time := by
  rw [bucket, if_neg h]
  rw [usesMinutes_iff] at h
  cases unit with
  | days | hours => exact Iff.rfl
  | minutes | seconds | milliseconds => exact iff_of_eq (if_neg fun hused => h ⟨rfl, hused⟩)

end Grid

theorem isGreatest_sub_emod {step : Int} (hstep : 0 < step) (time : Int) :
    IsGreatest {t | step ∣ t ∧ t ≤ time} (time - time % step) := by
  refine ⟨⟨dvd_sub_emod step time, ?_⟩, ?_⟩
  · have hpos := Int.emod_nonneg time (show step ≠ 0 by omega)
    omega
  · rintro t ⟨hdvd, hle⟩
    have hfloor := sub_emod_le hstep hle
    rwa [Int.emod_eq_zero_of_dvd hdvd, Int.sub_zero] at hfloor

theorem emod_hour (time : Int) : time % hour = time / minute % 60 * minute + time % minute :=
  emod_minutes time 60

/-- Of the minutes counted from each whole hour the last one before a time lies in its own hour. -/
theorem isGreatest_minutes {size : Int} (hsize : 1 ≤ size) (time : Int) :
    IsGreatest
      {t | (∃ hours count, 0 ≤ count ∧ count * size < 60 ∧
        t = hours * hour + count * size * minute) ∧ t ≤ time}
      (time - time % hour + time / minute % 60 / size * size * minute) := by
  have hpos := Int.emod_nonneg (time / minute) (show (60 : Int) ≠ 0 by decide)
  have hlt := Int.emod_lt_of_pos (time / minute) (show (0 : Int) < 60 by decide)
  have hseconds := Int.emod_nonneg time (show minute ≠ 0 by decide)
  have hseconds' := Int.emod_lt_of_pos time (show 0 < minute by decide)
  have hhour := emod_hour time
  have hstart := Int.emod_add_mul_ediv time hour
  have hfloor := Int.ediv_mul_le (time / minute % 60) (show size ≠ 0 by omega)
  have hcount : 0 ≤ time / minute % 60 / size := Int.ediv_nonneg hpos (by omega)
  have hcount' := Int.mul_nonneg hcount (show 0 ≤ size by omega)
  refine ⟨⟨⟨time / hour, _, hcount, by omega, ?_⟩, ?_⟩, ?_⟩
  · rw [Int.mul_comm (time / hour)]
    omega
  · simp only [minute, second] at *
    omega
  · rintro t ⟨⟨hours, count, hcounted, hwithin, rfl⟩, hle⟩
    have hcounted' := Int.mul_nonneg hcounted (show 0 ≤ size by omega)
    have hhours : hours ≤ time / hour := by
      refine (Int.le_ediv_iff_mul_le (by decide)).mpr ?_
      simp only [minute, second] at *
      omega
    rcases Int.le_iff_eq_or_lt.mp hhours with rfl | hearlier
    · have hminutes : count * size ≤ time / minute % 60 := by
        simp only [hour, minute, second] at *
        omega
      have hcounts := Int.mul_le_mul_of_nonneg_right
        ((Int.le_ediv_iff_mul_le (show 0 < size by omega)).mpr hminutes) (show 0 ≤ size by omega)
      simp only [hour, minute, second] at *
      omega
    · simp only [hour, minute, second] at *
      omega

theorem boundary_isGreatest (unit : TimeUnit) {frequency : Granularity}
    (hsize : 1 ≤ frequency.size) (maxMinutes time : Int) :
    IsGreatest {t | IsBoundary unit frequency maxMinutes t ∧ t ≤ time}
      (boundary unit frequency maxMinutes time) := by
  unfold boundary
  split
  · next hminutes =>
      simp only [isBoundary_iff_of_minutes hminutes]
      exact isGreatest_minutes hsize time
  · next hminutes =>
      simp only [isBoundary_iff_of_not_minutes hminutes]
      refine isGreatest_sub_emod ?_ time
      rw [bucket, if_neg hminutes]
      cases unit <;> decide

theorem boundary_eq_self_iff (unit : TimeUnit) {frequency : Granularity}
    (hsize : 1 ≤ frequency.size) (maxMinutes time : Int) :
    boundary unit frequency maxMinutes time = time ↔ IsBoundary unit frequency maxMinutes time := by
  have hgreatest := boundary_isGreatest unit hsize maxMinutes time
  constructor
  · intro heq
    exact heq ▸ hgreatest.1.1
  · intro htime
    exact le_antisymm hgreatest.1.2 (hgreatest.2 ⟨htime, Int.le_refl time⟩)

theorem inYears_boundary (unit : TimeUnit) {frequency : Granularity} (hsize : 1 ≤ frequency.size)
    (maxMinutes : Int) {time : Int} (hrange : InYears time) :
    InYears (boundary unit frequency maxMinutes time) := by
  obtain ⟨⟨-, hle⟩, hgreatest⟩ := boundary_isGreatest unit hsize maxMinutes time
  refine ⟨hgreatest ⟨?_, hrange.1⟩, Int.le_trans hle hrange.2⟩
  by_cases hminutes : usesMinutes unit frequency maxMinutes = true
  · rw [isBoundary_iff_of_minutes hminutes]
    exact ⟨firstWall / hour, 0, Int.le_refl 0, by omega, by rw [Int.zero_mul]; decide⟩
  · rw [isBoundary_iff_of_not_minutes hminutes, bucket, if_neg hminutes]
    cases unit <;> decide

/-- A moment that can be told in UTC within the bounds of the calendar. One without a clock is read
on the clock of the machine, here that of UTC, by way of the day before it, which the first day has
not, or on its second pass by way of the day behind it, which the last day has not. -/
structure HasUtc [ZoneDatabase] (m : Moment) : Prop where
  known : Known m.clock
  instant : InYears m.instant
  firstPass : m.isNaive = true → m.fold = false → firstWall + day ≤ m.wall
  secondPass : m.isNaive = true → m.fold = true → m.wall + day ≤ lastWall

theorem checkedInstant_of_hasUtc [ZoneDatabase] {m : Moment} (hm : HasUtc m) :
    m.checkedInstant = .ok m.instant := by
  rw [Moment.checkedInstant]
  split
  · next hclock =>
      have hnaive : m.isNaive = true := by rw [Moment.isNaive, hclock]
      have hwall : m.instant = m.wall := by
        rw [Moment.instant, Moment.offset, hclock]
        exact Int.sub_zero m.wall
      have hfirst (hfold : m.fold = false) := hm.firstPass hnaive hfold
      have hlast := hm.secondPass hnaive
      rw [if_neg, if_neg, hwall]
      · rintro ⟨hlate, hfold⟩
        exact Int.not_lt.mpr (hlast hfold) hlate
      · rintro ⟨hearly, hfold⟩
        have hlater := hfirst (by simpa using hfold)
        omega
  · exact checkedWall_eq_ok_iff.mpr ⟨hm.instant, rfl⟩

theorem exists_shown_of_hasUtc [ZoneDatabase] {m : Moment} (hm : HasUtc m) :
    ∃ shown, m.convert (.zone Zone.utc) = .ok shown ∧ OnZone Zone.utc shown ∧
      shown.wall = m.instant := by
  by_cases hsame : m.clock.same (.zone Zone.utc) = true
  · cases hclock : m.clock with
    | naive | fixed => simp [hclock, Clock.same] at hsame
    | zone z =>
        have hname : z.name = "UTC" := by
          rw [hclock] at hsame
          exact of_decide_eq_true hsame
        have hfound := hm.known z hclock
        rw [hname, zoneNamed_utc] at hfound
        obtain rfl := Except.ok.inj hfound
        exact ⟨m, if_pos hsame, hclock, (instant_of_onUtc hclock).symm⟩
  · refine ⟨atUtc m.instant, ?_, rfl, rfl⟩
    rw [Moment.convert, if_neg hsame, checkedInstant_of_hasUtc hm]
    refine bind_eq_ok_iff.mpr ⟨_, rfl, bind_eq_ok_iff.mpr ⟨m.instant, ?_, ?_⟩⟩
    · rw [onClock_atUtc]
      exact checkedWall_eq_ok_iff.mpr ⟨hm.instant, rfl⟩
    · rw [onClock_atUtc]
      rfl

theorem align_of_hasUtc [ZoneDatabase] (unit : TimeUnit) {frequency : Granularity}
    (hsize : 1 ≤ frequency.size)
    (maxMinutes : Int) {m : Moment} (hm : HasUtc m) :
    ∃ fold, align "UTC" unit frequency maxMinutes m =
      .ok ⟨boundary unit frequency maxMinutes m.instant, fold && unit != .days,
        .zone Zone.utc⟩ := by
  obtain ⟨shown, hconvert, hshown, hwall⟩ := exists_shown_of_hasUtc hm
  refine ⟨shown.fold, ?_⟩
  rw [← hwall]
  exact align_of_shown unit hsize maxMinutes hconvert hshown (hwall ▸ hm.instant)

theorem align_of_onUtc [ZoneDatabase] (unit : TimeUnit) {frequency : Granularity}
    (hsize : 1 ≤ frequency.size)
    (maxMinutes : Int) {m : Moment} (hm : OnZone Zone.utc m) (hrange : InYears m.wall) :
    align "UTC" unit frequency maxMinutes m =
      .ok ⟨boundary unit frequency maxMinutes m.wall, m.fold && unit != .days,
        .zone Zone.utc⟩ := by
  refine align_of_shown unit hsize maxMinutes (if_pos ?_) hm hrange
  rw [hm]
  rfl

/-- In UTC every moment that can be told there is aligned to the greatest boundary that is not after
it. What has been aligned stays as it is, and a later moment is aligned to no earlier boundary. -/
theorem align_isGreatest [ZoneDatabase] {m m' : Moment} (hm : HasUtc m) (hm' : HasUtc m')
    (unit : TimeUnit)
    {frequency : Granularity} (hsize : 1 ≤ frequency.size) (maxMinutes : Int) :
    ∃ r r', align "UTC" unit frequency maxMinutes m = .ok r ∧
      align "UTC" unit frequency maxMinutes m' = .ok r' ∧
      OnZone Zone.utc r ∧
      IsGreatest {t | IsBoundary unit frequency maxMinutes t ∧ t ≤ m.instant} r.instant ∧
      align "UTC" unit frequency maxMinutes r = .ok r ∧
      (m.instant ≤ m'.instant → r.instant ≤ r'.instant) := by
  obtain ⟨fold, halign⟩ := align_of_hasUtc unit hsize maxMinutes hm
  obtain ⟨fold', halign'⟩ := align_of_hasUtc unit hsize maxMinutes hm'
  have hgreatest := boundary_isGreatest unit hsize maxMinutes m.instant
  have hgreatest' := boundary_isGreatest unit hsize maxMinutes m'.instant
  refine ⟨_, _, halign, halign', rfl, ?_, ?_, ?_⟩
  · rw [instant_onUtc]
    exact hgreatest
  · have hstays := (boundary_eq_self_iff unit hsize maxMinutes _).mpr hgreatest.1.1
    have hrange := inYears_boundary unit hsize maxMinutes hm.instant
    have honUtc : OnZone Zone.utc
        ⟨boundary unit frequency maxMinutes m.instant, fold && unit != .days, _⟩ := rfl
    rw [align_of_onUtc unit hsize maxMinutes honUtc hrange, hstays]
    simp only [Bool.and_assoc, Bool.and_self]
  · intro hle
    rw [instant_onUtc, instant_onUtc]
    exact hgreatest'.2 ⟨hgreatest.1.1, Int.le_trans hgreatest.1.2 hle⟩

/-- Seven minutes to two for the second time, on the clock of New York. -/
def repeatedMinutes : Moment :=
  ⟨(1730592000 + 6780) * second, true, .zone ZoneTable.newYork⟩

/-- Ten minutes later, told without a clock. -/
def minutesBehind : Moment :=
  ⟨(1730592000 + 25380) * second, false, .naive⟩

open scoped ZoneTable

/-- By buckets of 25 minutes the one is aligned to ten to seven, in the last short bucket of its
hour, the other to seven. -/
theorem repeatedMinutes_aligned :
    let frequency : Granularity := ⟨25, .minutes⟩
    HasUtc repeatedMinutes ∧ HasUtc minutesBehind ∧ 1 ≤ frequency.size ∧
    ∃ r r', align "UTC" .minutes frequency 30 repeatedMinutes = .ok r ∧
      align "UTC" .minutes frequency 30 minutesBehind = .ok r' ∧
      OnZone Zone.utc r ∧
      IsGreatest {t | IsBoundary .minutes frequency 30 t ∧ t ≤ repeatedMinutes.instant} r.instant ∧
      align "UTC" .minutes frequency 30 r = .ok r ∧
      (repeatedMinutes.instant ≤ minutesBehind.instant → r.instant ≤ r'.instant) := by
  intro frequency
  have hshown : HasUtc repeatedMinutes := by
    refine ⟨?_, by decide +kernel, ?_, ?_⟩
    · rintro z ⟨⟩
      rfl
    · rintro ⟨⟩
    · rintro ⟨⟩
  have hbehind : HasUtc minutesBehind := by
    refine ⟨?_, by decide +kernel, fun _ _ => by decide, fun _ hfold => by cases hfold⟩
    rintro z ⟨⟩
  exact ⟨hshown, hbehind, by decide, align_isGreatest hshown hbehind .minutes (by decide) 30⟩

/-- The last hours of year 9999 on a clock behind UTC belong to no year there, and are not
aligned. -/
theorem lastHours_not_aligned :
    let m : Moment := ⟨lastWall - 4 * hour, false, .fixed (-5 * hour)⟩
    Known m.clock ∧ InYears m.wall ∧ 1 ≤ Granularity.hourly.size ∧
    align "UTC" .hours .hourly defaultMaxMinutes m = .error .outOfRange ∧
    ¬ ∃ r, align "UTC" .hours .hourly defaultMaxMinutes m = .ok r ∧
      IsGreatest {t | IsBoundary .hours .hourly defaultMaxMinutes t ∧ t ≤ m.instant} r.instant := by
  intro m
  have hknown : Known m.clock := by
    rintro z ⟨⟩
  have herror : align "UTC" .hours .hourly defaultMaxMinutes m = .error .outOfRange := rfl
  refine ⟨hknown, by decide, by decide, herror, ?_⟩
  rintro ⟨r, hr, -⟩
  rw [herror] at hr
  cases hr

end AnomalyWindows.Proofs.AlignedTimes
