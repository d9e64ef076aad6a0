import AnomalyWindows.Proofs.AnchorWalk
import AnomalyWindows.Proofs.ClockSteps

namespace AnomalyWindows.Proofs.WalkEnds

open Calendar
open AnomalyWindows.Proofs.CalendarMoves AnomalyWindows.Proofs.AnchorWalk
open AnomalyWindows.Proofs.ZoneReading AnomalyWindows.Proofs.ClockSteps

theorem floorTo_eq_error {z : Zone} {unit : TimeUnit} {m : Moment} {fault : Fault}
    (hm : OnZone z m) (h : Alignment.floorTo unit m = .error fault) : fault = .outOfRange := by
  cases unit with
  | days =>
      have hfloored : OnZone z (Alignment.floorWall day m) := hm
      rw [Alignment.floorTo, isNaive_of_onZone hm] at h
      exact settled_eq_error hfloored h
  | hours | minutes | seconds | milliseconds => cases h

theorem floorMinutes_ne_error {size : Int} (hsize : 1 ≤ size) (m : Moment) (fault : Fault) :
    Alignment.floorMinutes size m ≠ .error fault := by
  have hpos := Int.emod_nonneg (m.wall / minute) (by decide : (60 : Int) ≠ 0)
  have hlt := Int.emod_lt_of_pos (m.wall / minute) (by decide : (0 : Int) < 60)
  have hdiv := Int.ediv_nonneg hpos (show 0 ≤ size by omega)
  have hmul := Int.ediv_mul_le (m.wall / minute % 60) (show size ≠ 0 by omega)
  have hstart := Int.mul_nonneg hdiv (show 0 ≤ size by omega)
  rw [Alignment.floorMinutes, if_neg (by omega), Int.fdiv_eq_ediv_of_nonneg _ (by omega)]
  dsimp only
  rw [if_pos ⟨hstart, by omega⟩]
  rintro ⟨⟩

theorem aligned_eq_error [ZoneDatabase] {name : String} {unit : TimeUnit} {frequency : Granularity}
    {maxMinutes : Int} {z : Zone} {m : Moment} {fault : Fault}
    (hzone : zoneNamed name = .ok z) (hsize : 1 ≤ frequency.size) (hm : m.clock = .utc)
    (h : Alignment.align name unit frequency maxMinutes m = .error fault) :
    fault = .outOfRange := by
  rw [Alignment.align, hzone] at h
  rcases bind_eq_error_iff.mp h with h | ⟨zone, hfound, h⟩
  · cases h
  obtain rfl := Except.ok.inj hfound
  rcases bind_eq_error_iff.mp h with h | ⟨onZone, hconvert, h⟩
  · exact convert_eq_error (isNaive_of_utc hm) h
  · obtain rfl := convert_of_utc hm hconvert
    have hz := onZone_onClock z m.instant
    split at h
    · exact absurd h (floorMinutes_ne_error hsize _ _)
    · split at h
      · exact floorTo_eq_error hz h
      · exact floorTo_eq_error hz h

theorem align_eq_error [ZoneDatabase] {p : WindowPolicy} {z : Zone} {m : Moment} {fault : Fault}
    (hzone : zoneNamed p.timezone = .ok z) (hsize : 1 ≤ p.frequency.size) (hm : m.clock = .utc)
    (h : p.align m = .error fault) : fault = .outOfRange :=
  aligned_eq_error hzone hsize hm h

theorem parts_of_total_ne_zero {p : Period} (htotal : p.total ≠ 0) :
    p.calendarDays ≠ 0 ∨ p.exact ≠ 0 := by
  by_contra hnone
  obtain ⟨hdays, hexact⟩ := not_or.mp hnone
  rw [Period.total, not_not.mp hdays, not_not.mp hexact] at htotal
  exact htotal rfl

/-- A period that has some duration and leads forward in real time from whatever a clock shows. -/
structure Advances (z : Zone) (p : Period) : Prop where
  total : 0 < p.total
  forward : ∀ instant, instant < (landing p 1 (.onClock (.zone z) instant)).instant

theorem advances_of_forward {z : Zone} (hz : Regular z) {p : Period} (hp : Forward p) :
    Advances z p :=
  ⟨hp.total, instant_lt_landing hz hp⟩

theorem Advances.parts {z : Zone} {p : Period} (hp : Advances z p) :
    p.calendarDays ≠ 0 ∨ p.exact ≠ 0 :=
  parts_of_total_ne_zero (Int.ne_of_gt hp.total)

section Walk

variable {z : Zone} {bucket : Period} {finish : Moment}

theorem walk_succ_eq_error (hbucket : Advances z bucket) (hfinish : OnZone z finish)
    {place : Moment} (hplace : OnZone z place) {fuel : Nat} {reached : List Moment}
    {fault : Fault}
    (h : WindowPolicy.walk bucket finish (fuel + 1) place reached = .error fault) :
    fault = .outOfRange ∨
      ∃ instant, InYears instant ∧ landing bucket 1 place = .onClock (.zone z) instant ∧
        ∃ reached', WindowPolicy.walk bucket finish fuel (.onClock (.zone z) instant) reached' =
          .error fault := by
  rw [WindowPolicy.walk, isBefore?_of_onZone hplace hfinish] at h
  split at h
  · split at h
    · next next hstep =>
        obtain ⟨hlanding, hshown⟩ := shift_of_onZone hplace hstep
        obtain ⟨instant, hrange, rfl⟩ := hshown hbucket.parts
        exact .inr ⟨instant, hrange, hlanding.symm, _, h⟩
    · next fault' hstep =>
        obtain rfl := Except.error.inj h
        exact .inl (shift_eq_error hplace hstep)
  · cases h
  · next hnone => cases hnone

theorem walk_eq_error_of_shown (hz : Regular z) (hbucket : Advances z bucket)
    (hfinish : OnZone z finish) {fuel : Nat} {instant : Int} (hfuel : lastWall - instant < fuel)
    (hlast : instant ≤ lastWall) {reached : List Moment} {fault : Fault}
    (h : WindowPolicy.walk bucket finish fuel (.onClock (.zone z) instant) reached =
      .error fault) : fault = .outOfRange := by
  induction fuel generalizing instant reached with
  | zero => omega
  | succ fuel ih =>
      rcases walk_succ_eq_error hbucket hfinish (onZone_onClock z instant) h with
        hfault | ⟨instant', hrange, hlanding, reached', h⟩
      · exact hfault
      · -- the fuel left is compared with the microseconds left, and both fall
        have hforward := hbucket.forward instant
        rw [hlanding, instant_onClock hz] at hforward
        exact ih (by omega) hrange.2 h

theorem walk_eq_error (hz : Regular z) (hbucket : Advances z bucket) (hfinish : OnZone z finish)
    {place : Moment} (hplace : OnZone z place) {reached : List Moment} {fault : Fault}
    (h : WindowPolicy.walk bucket finish (WindowPolicy.walkLimit + 1) place reached =
      .error fault) : fault = .outOfRange := by
  -- an aligned start need not be shown by the clock, but what a step reaches is
  rcases walk_succ_eq_error hbucket hfinish hplace h with
    hfault | ⟨instant, hrange, -, reached', h⟩
  · exact hfault
  · have hlimit : lastWall - instant < WindowPolicy.walkLimit := by
      have hfirst := hrange.1
      simp only [WindowPolicy.walkLimit]
      omega
    exact walk_eq_error_of_shown hz hbucket hfinish hlimit hrange.2 h

end Walk

/-- Anchors are missing because a date leaves the bounds of the calendar, the bucket does not
advance, or a bound of the interval cannot be aligned. -/
theorem anchors_eq_error_cases [ZoneDatabase] {a b : Moment} {interval : Interval}
    (hinterval : Interval.ofMoments a b = .ok interval) {p : WindowPolicy}
    (hregular : NamesRegular p.timezone) (hbucket : 0 < p.bucketPeriod.total →
      ∀ z, zoneNamed p.timezone = .ok z → Advances z p.bucketPeriod)
    {fault : Fault} (h : p.anchors interval = .error fault) :
    fault = .outOfRange ∨
      (p.bucketPeriod.total ≤ 0 ∧ fault = .bucketDoesNotAdvance p.bucketPeriod) ∨
      p.align interval.finish = .error fault ∨ p.align interval.start = .error fault := by
  obtain ⟨hstartUtc, hfinishUtc⟩ := clock_bounds hinterval
  rw [WindowPolicy.anchors] at h
  rcases bind_eq_error_iff.mp h with h | ⟨bucket, hduration, h⟩
  · exact .inl (checkedDuration_eq_error h)
  obtain rfl := eq_of_checkedDuration_eq_ok hduration
  split at h
  · next hstays => exact .inr (.inl ⟨hstays, (Except.error.inj h).symm⟩)
  next hpos =>
  rcases bind_eq_error_iff.mp h with h | ⟨finish, hfinish, h⟩
  · exact .inr (.inr (.inl h))
  rcases bind_eq_error_iff.mp h with h | ⟨start, hstart, h⟩
  · exact .inr (.inr (.inr h))
  rcases bind_eq_error_iff.mp h with h | ⟨reached, -, h⟩
  · obtain ⟨z, hzone⟩ := exists_zone_of_align hstart
    exact .inl (walk_eq_error (hregular z hzone) (hbucket (Int.not_le.mp hpos) z hzone)
      (onZone_align hzone hfinishUtc hfinish) (onZone_align hzone hstartUtc hstart) h)
  · cases h

theorem anchors_eq_error_of_advances [ZoneDatabase] {a b : Moment} {interval : Interval}
    (hinterval : Interval.ofMoments a b = .ok interval) {p : WindowPolicy} {z : Zone}
    (hzone : zoneNamed p.timezone = .ok z) (hz : Regular z) (hsize : 1 ≤ p.frequency.size)
    (hbucket : Advances z p.bucketPeriod) {fault : Fault}
    (h : p.anchors interval = .error fault) : fault = .outOfRange := by
  obtain ⟨hstartUtc, hfinishUtc⟩ := clock_bounds hinterval
  have hadvances : ∀ z', zoneNamed p.timezone = .ok z' → Advances z' p.bucketPeriod := by
    intro z' hzone'
    cases hzone.symm.trans hzone'
    exact hbucket
  rcases anchors_eq_error_cases hinterval (namesRegular hzone hz) (fun _ => hadvances) h with
    hfault | ⟨hstays, -⟩ | halign | halign
  · exact hfault
  · exact absurd hbucket.total (Int.not_lt.mpr hstays)
  · exact align_eq_error hzone hsize hfinishUtc halign
  · exact align_eq_error hzone hsize hstartUtc halign

theorem anchors_eq_error [ZoneDatabase] {a b : Moment} {interval : Interval}
    (hinterval : Interval.ofMoments a b = .ok interval) {p : WindowPolicy} {z : Zone}
    (hzone : zoneNamed p.timezone = .ok z) (hz : Regular z) (hsize : 1 ≤ p.frequency.size)
    (hbucket : Forward p.bucketPeriod) {fault : Fault}
    (h : p.anchors interval = .error fault) : fault = .outOfRange :=
  anchors_eq_error_of_advances hinterval hzone hz hsize (advances_of_forward hz hbucket) h

end AnomalyWindows.Proofs.WalkEnds
