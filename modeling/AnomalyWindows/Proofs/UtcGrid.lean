import AnomalyWindows.Proofs.WalkEnds

namespace AnomalyWindows.Proofs.UtcGrid

open Calendar
open AnomalyWindows.Alignment
open AnomalyWindows.Proofs.CalendarMoves AnomalyWindows.Proofs.WalkEnds

def atUtc (wall : Int) : Moment :=
  ⟨wall, false, .zone Zone.utc⟩

theorem onZone_atUtc (wall : Int) : OnZone Zone.utc (atUtc wall) := rfl

theorem onClock_atUtc (instant : Int) :
    Moment.onClock (.zone Zone.utc) instant = atUtc instant := by
  simp [Moment.onClock, atUtc, Clock.offsetAt, Clock.foldAt, Zone.offsetAt, Zone.foldAt,
    Zone.offsetBy, Zone.changesAround, Zone.lastChange, Zone.utc]

theorem instant_onUtc (wall : Int) (fold : Bool) :
    Moment.instant ⟨wall, fold, .zone Zone.utc⟩ = wall := by
  simp [Moment.instant, Moment.offset, Clock.offsetOfWall, Zone.offsetOfWall, Zone.offsetBy,
    Zone.changesAround, Zone.lastChange, Zone.utc]

theorem instant_of_onUtc {m : Moment} (hm : OnZone Zone.utc m) : m.instant = m.wall := by
  have hread := instant_onUtc m.wall m.fold
  rwa [← hm] at hread

theorem isBefore?_atUtc (a b : Int) : (atUtc a).isBefore? (atUtc b) = some (decide (a < b)) :=
  isBefore?_of_onZone (onZone_atUtc a) (onZone_atUtc b)

theorem landing_atUtc (p : Period) (sign wall : Int) :
    landing p sign (atUtc wall) = atUtc (wall + sign * p.total) := by
  have hdays (days : Int) : daysAway days (atUtc wall) = atUtc (wall + days * day) := by
    simp only [daysAway, atUtc, instant_onUtc, onClock_atUtc]
  have htime (step wall : Int) : timeAway step (atUtc wall) = atUtc (wall + step) := by
    simp only [timeAway, atUtc, instant_onUtc, onClock_atUtc]
  have htotal : sign * p.total = sign * p.calendarDays * day + sign * p.exact := by
    rw [Period.total, Int.mul_add, Int.mul_assoc]
  rw [landing, htotal]
  by_cases hnone : p.calendarDays = 0
  · rw [if_pos hnone, hnone]
    by_cases hexact : p.exact = 0
    · simp [hexact]
    · simp [hexact, htime]
  · rw [if_neg hnone, hdays]
    by_cases hexact : p.exact = 0
    · simp [hexact]
    · rw [if_neg hexact, htime, Int.add_assoc]

theorem shift_atUtc {p : Period} {sign wall : Int} {n : Moment}
    (h : p.shift sign (atUtc wall) = .ok n) : n = atUtc (wall + sign * p.total) := by
  rw [(shift_of_onZone (onZone_atUtc wall) h).1, landing_atUtc]

theorem advances_utc {p : Period} (htotal : 0 < p.total) : Advances Zone.utc p := by
  refine ⟨htotal, fun instant => ?_⟩
  rw [onClock_atUtc, landing_atUtc, atUtc, instant_onUtc]
  omega

theorem sub_emod_le {step : Int} (hstep : 0 < step) {wall wall' : Int} (hle : wall ≤ wall') :
    wall - wall % step ≤ wall' - wall' % step := by
  have hquotients := Int.mul_le_mul_of_nonneg_left
    (Int.ediv_le_ediv hstep hle) (Int.le_of_lt hstep)
  have hfloor := Int.emod_add_mul_ediv wall step
  have hfloor' := Int.emod_add_mul_ediv wall' step
  omega

theorem dvd_sub_emod (step wall : Int) : step ∣ wall - wall % step :=
  Int.dvd_self_sub_of_emod_eq rfl

/-- The wall time at which a bucket of UTC begins, the last one that is not after a wall time. -/
def boundary (unit : TimeUnit) (frequency : Granularity) (maxMinutes wall : Int) : Int :=
  if usesMinutes unit frequency maxMinutes then
    wall - wall % hour + wall / minute % 60 / frequency.size * frequency.size * minute
  else wall - wall % (bucket unit frequency maxMinutes).total

theorem floorMinutes_eq {size : Int} (hsize : 1 ≤ size) (m : Moment) :
    floorMinutes size m = .ok { m with
      wall := m.wall - m.wall % hour + m.wall / minute % 60 / size * size * minute } := by
  cases h : floorMinutes size m with
  | error fault => exact absurd h (floorMinutes_ne_error hsize m fault)
  | ok n =>
      rw [floorMinutes, if_neg (by omega), Int.fdiv_eq_ediv_of_nonneg _ (by omega)] at h
      dsimp only at h
      split at h
      · exact congrArg Except.ok (Except.ok.inj h).symm
      · cases h

theorem floorTo_days_onUtc {m : Moment} (hm : OnZone Zone.utc m) (hrange : InYears m.wall) :
    floorTo .days m = .ok (atUtc (m.wall - m.wall % day)) := by
  have hfloor : InYears (m.wall - m.wall % day) := by
    obtain ⟨hfirst, hlast⟩ := hrange
    have hpos := Int.emod_nonneg m.wall (show day ≠ 0 by decide)
    refine ⟨?_, by omega⟩
    simp only [firstWall, day, hour, minute, second] at *
    omega
  have hfloored : OnZone Zone.utc (floorWall day m) := hm
  rw [floorTo, isNaive_of_onZone hm]
  refine (settled_eq_ok_iff hfloored).mpr ?_
  rw [instant_of_onUtc hfloored, onClock_atUtc]
  exact ⟨hfloor, hfloor, rfl⟩

/-- What the clock of UTC shows is aligned to the boundary before it. The start of a day is always
read on its first pass. -/
theorem align_of_shown [ZoneDatabase] (unit : TimeUnit) {frequency : Granularity}
    (hsize : 1 ≤ frequency.size)
    (maxMinutes : Int) {m shown : Moment} (hconvert : m.convert (.zone Zone.utc) = .ok shown)
    (hshown : OnZone Zone.utc shown) (hrange : InYears shown.wall) :
    align "UTC" unit frequency maxMinutes m =
      .ok ⟨boundary unit frequency maxMinutes shown.wall, shown.fold && unit != .days,
        .zone Zone.utc⟩ := by
  rw [Alignment.align, zoneNamed_utc]
  refine bind_eq_ok_iff.mpr ⟨_, rfl, bind_eq_ok_iff.mpr ⟨_, hconvert, ?_⟩⟩
  have hkept (h : unit ≠ .days) : (shown.fold && unit != .days) = shown.fold := by
    rw [bne_iff_ne.mpr h, Bool.and_true]
  unfold boundary
  split
  · next hminutes =>
      have hfine : unit ≠ .days := by
        rintro rfl
        cases hminutes
      rw [floorMinutes_eq hsize, hkept hfine, ← hshown]
  · next hminutes =>
      rw [bucket, if_neg hminutes]
      cases unit with
      | days =>
          rw [show (shown.fold && TimeUnit.days != .days) = false from Bool.and_false _]
          exact floorTo_days_onUtc hshown hrange
      | hours | minutes | seconds | milliseconds =>
          rw [hkept (by decide), ← hshown]
          rfl

theorem align_atUtc [ZoneDatabase] {p : WindowPolicy} {m : Moment} (hzone : p.timezone = "UTC")
    (hm : m.clock = .utc) (hrange : InYears m.wall) (hsize : 1 ≤ p.frequency.size) :
    p.align m =
      .ok (atUtc (boundary p.datasetUnit p.frequency p.maxMinuteFrequency m.wall)) := by
  have hconvert : m.convert (.zone Zone.utc) = .ok (atUtc m.wall) := by
    rw [convert_zone_eq_ok_iff hm, onClock_atUtc, instant_of_utc hm]
    exact ⟨hrange, hrange, rfl⟩
  rw [WindowPolicy.align, hzone,
    align_of_shown p.datasetUnit hsize p.maxMinuteFrequency hconvert (onZone_atUtc _) hrange]
  rfl

theorem emod_minutes (wall size : Int) :
    wall % (size * minute) = wall / minute % size * minute + wall % minute := by
  have hquotient : wall / (minute * size) = wall / minute / size :=
    (Int.ediv_ediv_of_nonneg (by decide)).symm
  rw [Int.mul_comm size, Int.emod_def, hquotient, Int.emod_def (wall / minute),
    Int.emod_def wall minute]
  ring

theorem total_bucket_of_minutes {unit : TimeUnit} {frequency : Granularity} {maxMinutes : Int}
    (h : usesMinutes unit frequency maxMinutes = true) :
    (bucket unit frequency maxMinutes).total = frequency.size * minute := by
  rw [bucket, if_pos h]
  simp [Period.total, Period.calendarDays, Period.exact, Period.zero]

theorem boundary_eq_of_dvd {unit : TimeUnit} {frequency : Granularity} {maxMinutes : Int}
    (hdvd : usesMinutes unit frequency maxMinutes = true → frequency.size ∣ 60) (wall : Int) :
    boundary unit frequency maxMinutes wall =
      wall - wall % (bucket unit frequency maxMinutes).total := by
  unfold boundary
  split
  · next hused =>
      have hgrid := Int.emod_emod_of_dvd (wall / minute) (hdvd hused)
      have hfloor := Int.emod_add_mul_ediv (wall / minute % 60) frequency.size
      rw [Int.mul_comm frequency.size, hgrid] at hfloor
      have hminutes : wall / minute % 60 * minute =
          wall / minute % frequency.size * minute +
            wall / minute % 60 / frequency.size * frequency.size * minute := by
        rw [← Int.add_mul, hfloor]
      rw [total_bucket_of_minutes hused, emod_minutes, show hour = 60 * minute from rfl,
        emod_minutes]
      omega
  · rfl

end AnomalyWindows.Proofs.UtcGrid
