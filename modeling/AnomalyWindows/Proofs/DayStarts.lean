import AnomalyWindows.Calendar.ZoneTable
import AnomalyWindows.Proofs.LocalDays
import AnomalyWindows.Proofs.SkippedTimes

namespace AnomalyWindows.Proofs.DayStarts

open Calendar
open AnomalyWindows.Alignment
open AnomalyWindows.Proofs.CalendarMoves AnomalyWindows.Proofs.AnchorWalk
open AnomalyWindows.Proofs.ZoneReading AnomalyWindows.Proofs.ClockSteps
open AnomalyWindows.Proofs.FirstPass AnomalyWindows.Proofs.SkippedTimes
open AnomalyWindows.Proofs.LocalDays

section Midnight

variable {z : Zone} (hz : Regular z)
include hz

theorem exists_shown_of_fold {instant wall : Int}
    (hfold : (Moment.onClock (.zone z) instant).fold = true)
    (hle : wall ≤ (Moment.onClock (.zone z) instant).wall)
    (hday : (Moment.onClock (.zone z) instant).wall ≤ wall + day) :
    ∃ shown, (Moment.onClock (.zone z) shown).wall = wall := by
  have hseconds : (Moment.onClock (.zone z) instant).wall / second =
      instant / second + z.offsetAt (instant / second) := ediv_add_seconds instant _
  have hle' : wall / second ≤ instant / second + z.offsetAt (instant / second) :=
    hseconds ▸ Int.ediv_le_ediv (by decide) hle
  have hday' : instant / second + z.offsetAt (instant / second) ≤ wall / second + 86400 := by
    rw [← hseconds]
    simp only [second, day, hour, minute] at *
    omega
  obtain ⟨seconds, -, hshown⟩ := exists_earlier_of_foldAt hz hfold hle' hday'
  have hsecond : (wall % second + seconds * second) / second = seconds := by
    rw [ediv_add_seconds, Int.ediv_eq_zero_of_lt (Int.emod_nonneg _ (by decide))
      (Int.emod_lt_of_pos _ (by decide)), Int.zero_add]
  refine ⟨wall % second + seconds * second, ?_⟩
  simp only [Moment.onClock, Clock.offsetAt, hsecond]
  rw [Int.add_assoc, ← Int.add_mul, hshown, Int.mul_comm]
  exact Int.emod_add_mul_ediv wall second

theorem wall_midnight_of_pass (instant : Int) :
    (Moment.onClock (.zone z) (readAt z (localDay z instant * day)
      (Moment.onClock (.zone z) instant).fold)).wall =
      (Moment.onClock (.zone z) (midnight z (localDay z instant)).instant).wall := by
  cases hfold : (Moment.onClock (.zone z) instant).fold with
  | false => rfl
  -- the clock has been set back less than a day ago, so it has shown that midnight
  | true =>
      have hfloor := Int.ediv_mul_le (Moment.onClock (.zone z) instant).wall
        (show day ≠ 0 by decide)
      have hnext := Int.lt_ediv_add_one_mul_self (Moment.onClock (.zone z) instant).wall
        (show 0 < day by decide)
      rw [Int.add_mul, Int.one_mul] at hnext
      obtain ⟨shown, hshown⟩ := exists_shown_of_fold hz hfold hfloor (Int.le_of_lt hnext)
      exact (onClock_readAt_of_shown hz true hshown).trans
        (onClock_readAt_of_shown hz false hshown).symm

end Midnight

/-- What the clock of a zone shows when it first gets to the midnight of a day, or past it. -/
def dayStart (z : Zone) (d : Int) : Moment :=
  .onClock (.zone z) (midnight z d).instant

/-- A day starts at midnight: at its own one or, if the clock leaves out all of it, at the next. -/
def Opens (z : Zone) (d : Int) : Prop :=
  day ∣ (dayStart z d).wall

section Days

variable {z : Zone} (hz : Regular z)
include hz

theorem dayStart_bounds (d : Int) :
    d * day ≤ (dayStart z d).wall ∧ (dayStart z d).wall ≤ (d + 1) * day := by
  rw [Int.add_mul, Int.one_mul]
  exact ⟨wall_le_firstPass hz (d * day), wall_firstPass_le hz (d * day)⟩

theorem opens_iff (d : Int) :
    Opens z d ↔ (dayStart z d).wall = d * day ∨ (dayStart z d).wall = (d + 1) * day := by
  have hbounds := dayStart_bounds hz d
  constructor
  · rintro ⟨e, he⟩
    rw [Int.mul_comm] at he
    rw [he, Int.mul_le_mul_right (by decide), Int.mul_le_mul_right (by decide)] at hbounds
    rw [he]
    obtain rfl | rfl : e = d ∨ e = d + 1 := by omega
    · exact .inl rfl
    · exact .inr rfl
  · unfold Opens
    rintro (hown | hnext)
    · exact hown ▸ Int.dvd_mul_left ..
    · exact hnext ▸ Int.dvd_mul_left ..

theorem dayStart_wall_mono {d e : Int} (hle : d ≤ e) :
    (dayStart z d).wall ≤ (dayStart z e).wall := by
  rcases Int.le_iff_eq_or_lt.mp hle with rfl | hlt
  · exact Int.le_refl _
  · calc (dayStart z d).wall ≤ (d + 1) * day := (dayStart_bounds hz d).2
      _ ≤ e * day := day_mul_le hlt
      _ ≤ (dayStart z e).wall := (dayStart_bounds hz e).1

/-- Behind a day that does not start at midnight the next midnight is shown, and so is the wall time
to which a day leads from that start. -/
theorem wall_behind_start {d : Int} (hclosed : ¬ Opens z d) :
    (dayStart z (d + 1)).wall = (d + 1) * day ∧
      (Moment.onClock (.zone z) (readAt z ((dayStart z d).wall + day) false)).wall =
        (dayStart z d).wall + day := by
  rw [opens_iff hz, not_or] at hclosed
  obtain ⟨hfrom, hto⟩ := dayStart_bounds hz d
  have hskipped : d * day < (dayStart z d).wall := lt_of_le_of_ne hfrom (Ne.symm hclosed.1)
  obtain ⟨-, hbehind⟩ := wall_behind_gap hz hskipped
  refine ⟨hbehind ((d + 1) * day) ?_ ?_, hbehind _ ?_ (Int.le_refl _)⟩
  · rw [Int.add_mul, Int.one_mul]
  · rw [Int.add_mul, Int.one_mul]
    exact Int.add_le_add_right hfrom day
  · exact Int.add_le_add_right hfrom day

theorem dayStart_wall_of_shown {d instant : Int}
    (hshown : (Moment.onClock (.zone z) instant).wall = d * day) :
    (dayStart z d).wall = d * day :=
  onClock_readAt_of_shown hz false hshown

theorem exists_midnight_of_opens {d : Int} (h : Opens z d) :
    ∃ e, d ≤ e ∧ (dayStart z d).wall = e * day ∧ ∀ k, d ≤ k → k ≤ e → Opens z k := by
  rcases (opens_iff hz d).mp h with hown | hnext
  · refine ⟨d, Int.le_refl d, hown, fun k hfrom hto => ?_⟩
    rwa [Int.le_antisymm hto hfrom]
  · refine ⟨d + 1, by omega, hnext, fun k hfrom hto => ?_⟩
    obtain rfl | rfl : k = d ∨ k = d + 1 := by omega
    · exact h
    · exact (opens_iff hz _).mpr (.inl (dayStart_wall_of_shown hz hnext))

theorem localDay_midnight (d : Int) :
    (dayStart z (localDay z (midnight z d).instant)).wall = (dayStart z d).wall := by
  obtain ⟨hfrom, hto⟩ := dayStart_bounds hz d
  change (dayStart z ((dayStart z d).wall / day)).wall = _
  rcases Int.le_iff_eq_or_lt.mp hto with hnext | hwithin
  · rw [hnext, Int.mul_ediv_cancel _ (by decide)]
    exact dayStart_wall_of_shown hz hnext
  · rw [Int.add_mul, Int.one_mul] at hwithin
    rw [(Int.ediv_eq_iff_of_pos (by decide)).mpr ⟨hfrom, hwithin⟩]

end Days

/-- Alignment leaves a moment where it is. -/
def IsDayStart [ZoneDatabase] (p : WindowPolicy) (m : Moment) : Prop :=
  ∃ r, p.align m = .ok r ∧ r.instant = m.instant

theorem oneDay_step [ZoneDatabase] {z : Zone} {place next : Moment} (hplace : OnZone z place)
    (hstep : (Period.of 1 .days).addTo place = .ok next) :
    InYears (readAt z (place.wall + day) false) ∧
      InYears (Moment.onClock (.zone z) (readAt z (place.wall + day) false)).wall ∧
      next = .onClock (.zone z) (readAt z (place.wall + day) false) := by
  rw [Period.addTo, shift_oneDay, moveDays_eq_ok_iff hplace, daysAway, hplace] at hstep
  obtain ⟨-, -, -, hinstant, hwall, hnext⟩ := hstep
  exact ⟨hinstant, hwall, hnext⟩

section Daily

variable [ZoneDatabase] {p : WindowPolicy} {z : Zone} (hzone : zoneNamed p.timezone = .ok z)
  (hz : Regular z) (hunit : p.datasetUnit = .days)

include hzone hunit

theorem align_onClock (instant : Int) :
    p.align (.onClock (.zone z) instant) = floorTo .days (.onClock (.zone z) instant) := by
  have hsame : (Clock.zone z).same (.zone z) = true := by
    simp [Clock.same]
  rw [align_days_eq hzone hunit, Moment.convert, Moment.onClock, if_pos hsame]
  rfl

include hz

theorem wall_of_align {m n : Moment} (hm : m.clock = .utc) (h : p.align m = .ok n) :
    n.wall = (dayStart z (localDay z m.instant)).wall := by
  rw [align_days_eq hzone hunit] at h
  obtain ⟨onZone, hconvert, h⟩ := bind_eq_ok_iff.mp h
  obtain rfl := convert_of_utc hm hconvert
  obtain ⟨-, -, rfl⟩ := (floorTo_days_onClock_eq_ok_iff z m.instant).mp h
  exact wall_midnight_of_pass hz m.instant

theorem isDayStart_iff {wall : Int} (hinstant : InYears (readAt z wall false))
    (hwall : InYears (Moment.onClock (.zone z) (readAt z wall false)).wall) :
    IsDayStart p (.onClock (.zone z) (readAt z wall false)) ↔
      (Moment.onClock (.zone z) (readAt z wall false)).wall =
        (dayStart z (localDay z (readAt z wall false))).wall := by
  have hsame : readAt z wall false = readAt z (localDay z (readAt z wall false) * day) false ↔ _ :=
    firstPass_eq_iff hz ..
  refine Iff.trans ?_ hsame
  simp only [IsDayStart, align_onClock hzone hunit, floorTo_days_onClock_eq_ok_iff,
    fold_onClock_firstPass hz, instant_onClock hz]
  constructor
  · rintro ⟨r, ⟨-, -, rfl⟩, hr⟩
    rw [instant_onClock hz] at hr
    exact hr.symm
  · intro h
    rw [← h]
    exact ⟨_, ⟨hinstant, hwall, rfl⟩, instant_onClock hz _⟩

theorem isDayStart_step_iff {place next : Moment} {d : Int} (hplace : OnZone z place)
    (hstart : place.wall = (dayStart z d).wall)
    (hstep : (Period.of 1 .days).addTo place = .ok next) : IsDayStart p next ↔ Opens z d := by
  obtain ⟨hinstant, hwall, rfl⟩ := oneDay_step hplace hstep
  rw [isDayStart_iff hzone hz hunit hinstant hwall]
  constructor
  · intro hnext
    by_contra hclosed
    obtain ⟨hmidnight, hshown⟩ := wall_behind_start hz hclosed
    have hbounds := dayStart_bounds hz d
    rw [opens_iff hz, not_or] at hclosed
    have hday : localDay z (readAt z ((dayStart z d).wall + day) false) = d + 1 := by
      rw [localDay, hshown, Int.ediv_eq_iff_of_pos (by decide)]
      rw [Int.add_mul, Int.one_mul] at hclosed hbounds ⊢
      omega
    -- were the step to reach the start of the next day, its own would be the midnight before
    rw [hstart, hshown, hday, hmidnight, Int.add_mul, Int.one_mul] at hnext
    exact hclosed.1 (by omega)
  · rintro ⟨e, he⟩
    have hmidnight : place.wall + day = (e + 1) * day := by
      rw [hstart, he, Int.add_mul, Int.one_mul, Int.mul_comm]
    rw [hmidnight]
    exact (localDay_midnight hz (e + 1)).symm

theorem isDayStart_of_walked {finish place : Moment} {steps : List Moment}
    (h : Walked (.of 1 .days) finish place steps) (hfinish : OnZone z finish)
    (hplace : OnZone z place) {d last : Int} (hstart : place.wall = (dayStart z d).wall)
    (hend : finish.wall = (dayStart z last).wall) :
    (∀ anchor ∈ steps, IsDayStart p anchor) ↔ ∀ e, d ≤ e → e < last → Opens z e := by
  induction h generalizing d with
  | arrived place harrived =>
      rw [isBefore?_of_onZone hplace hfinish] at harrived
      have hpast : finish.wall ≤ place.wall := by simpa using harrived
      refine iff_of_true (by simp) fun e hfrom hto => ?_
      have hnext : (e + 1) * day ≤ (dayStart z e).wall :=
        calc (e + 1) * day ≤ last * day := day_mul_le hto
          _ ≤ finish.wall := hend ▸ (dayStart_bounds hz last).1
          _ ≤ (dayStart z d).wall := hstart ▸ hpast
          _ ≤ (dayStart z e).wall := dayStart_wall_mono hz hfrom
      exact (opens_iff hz e).mpr (.inr (le_antisymm (dayStart_bounds hz e).2 hnext))
  | step place next rest hbefore hstep hrest ih =>
      rw [isBefore?_of_onZone hplace hfinish] at hbefore
      have hlt : place.wall < finish.wall := by simpa using hbefore
      have hdays : d < last := by
        by_contra hle
        have hmono := dayStart_wall_mono hz (Int.not_lt.mp hle)
        omega
      have hshown := onZone_shift hplace hstep
      rw [List.forall_mem_cons, isDayStart_step_iff hzone hz hunit hplace hstart hstep]
      by_cases hopens : Opens z d
      · obtain ⟨e, hle, hmidnight, hbetween⟩ := exists_midnight_of_opens hz hopens
        obtain ⟨-, -, rfl⟩ := oneDay_step hplace hstep
        have hday : place.wall + day = (e + 1) * day := by
          rw [hstart, hmidnight, Int.add_mul, Int.one_mul]
        have hnext : (Moment.onClock (.zone z) (readAt z (place.wall + day) false)).wall =
            (dayStart z (e + 1)).wall := by
          rw [hday]
          rfl
        refine (and_congr_right fun _ => ih hshown hnext).trans ?_
        constructor
        · rintro ⟨-, hlater⟩ k hfrom hto
          rcases Int.lt_or_le e k with hbehind | hnear
          · exact hlater k hbehind hto
          · exact hbetween k hfrom hnear
        · exact fun hall => ⟨hopens, fun k hfrom => hall k (by omega)⟩
      · exact iff_of_false (fun hall => hopens hall.1)
          fun hall => hopens (hall d (Int.le_refl d) hdays)

end Daily

/-- The anchors of daily windows are all starts of local days exactly if every day from the one on
which the interval starts up to the one on which it ends starts at midnight. -/
theorem anchors_dayStarts_iff [ZoneDatabase] {a b : Moment} {interval : Interval}
    (hinterval : Interval.ofMoments a b = .ok interval) {p : WindowPolicy} {z : Zone}
    (hzone : zoneNamed p.timezone = .ok z) (hz : Regular z) (hunit : p.datasetUnit = .days)
    (hderived : p.bucketPeriod = bucket p.datasetUnit p.frequency p.maxMinuteFrequency)
    {anchors : List Moment} (hanchors : p.anchors interval = .ok anchors) :
    (∀ anchor ∈ anchors, IsDayStart p anchor) ↔
      ∀ d, localDay z interval.start.instant ≤ d → d < localDay z interval.finish.instant →
        Opens z d := by
  obtain ⟨hstartUtc, hfinishUtc⟩ := clock_bounds hinterval
  obtain ⟨start, finish, hstart, hfinish, hwalked⟩ := walked_of_anchors hanchors
  have hbucket : p.bucketPeriod = .of 1 .days := by
    rw [hderived, hunit]
    rfl
  rw [hbucket] at hwalked
  exact isDayStart_of_walked hzone hz hunit hwalked (onZone_align hzone hfinishUtc hfinish)
    (onZone_align hzone hstartUtc hstart) (wall_of_align hzone hz hunit hstartUtc hstart)
    (wall_of_align hzone hz hunit hfinishUtc hfinish)

def apiaDaily : WindowPolicy where
  timezone := "Pacific/Apia"
  datasetUnit := .days
  frequency := .daily
  bucketPeriod := .of 1 .days

/-- From the 29th of December 2011 to the second of January 2012 by the clocks of Apia. -/
def aroundLeftOutDay : Interval :=
  ⟨.ofInstant (1325188800 * second), .ofInstant (1325419200 * second)⟩

open scoped ZoneTable

set_option maxRecDepth 10000 in
/-- The 30th was left out in Apia, as a whole, so the anchors around it start days. -/
theorem apia_dayStarts :
    let z := ZoneTable.apia
    let anchors := [midnight z 15339, midnight z 15340, midnight z 15341]
    Interval.ofMoments aroundLeftOutDay.start aroundLeftOutDay.finish = .ok aroundLeftOutDay ∧
    zoneNamed apiaDaily.timezone = .ok z ∧ Regular z ∧ apiaDaily.datasetUnit = .days ∧
    apiaDaily.bucketPeriod =
      bucket apiaDaily.datasetUnit apiaDaily.frequency apiaDaily.maxMinuteFrequency ∧
    apiaDaily.anchors aroundLeftOutDay = .ok anchors ∧
    ∀ anchor ∈ anchors, IsDayStart apiaDaily anchor := by
  intro z anchors
  have hinterval : Interval.ofMoments aroundLeftOutDay.start aroundLeftOutDay.finish =
      .ok aroundLeftOutDay := rfl
  have hzone : zoneNamed apiaDaily.timezone = .ok z := rfl
  have hanchors : apiaDaily.anchors aroundLeftOutDay = .ok anchors := rfl
  have hfirst : localDay z aroundLeftOutDay.start.instant = 15337 := by decide +kernel
  have hlast : localDay z aroundLeftOutDay.finish.instant = 15341 := by decide +kernel
  have hz : Regular z := regular_of_mem (by simp [z, ZoneTable.zones])
  refine ⟨hinterval, hzone, hz, rfl, rfl, hanchors, ?_⟩
  rw [anchors_dayStarts_iff hinterval hzone hz rfl rfl hanchors, hfirst, hlast]
  intro d hfrom hto
  unfold Opens
  obtain rfl | rfl | rfl | rfl : d = 15337 ∨ d = 15338 ∨ d = 15339 ∨ d = 15340 := by omega
  all_goals decide +kernel

/-- Daily windows in Beirut, where clocks are set forward at midnight. -/
def beirutDaily : WindowPolicy where
  timezone := "Asia/Beirut"
  datasetUnit := .days
  frequency := .daily
  bucketPeriod := .of 1 .days

def aroundSkippedMidnight : Interval :=
  ⟨.ofInstant (1711800000 * second), .ofInstant (1712059200 * second)⟩

def oneInBeirut (d : Int) : Moment :=
  ⟨d * day + hour, false, .zone ZoneTable.beirut⟩

set_option maxRecDepth 10000 in
/-- The 31st of March starts at one in Beirut, where it skips midnight, and the anchors stay at one
on the days behind it, which start at midnight. -/
theorem beirut_anchors_drift :
    Interval.ofMoments aroundSkippedMidnight.start aroundSkippedMidnight.finish =
      .ok aroundSkippedMidnight ∧
    beirutDaily.datasetUnit = .days ∧
    beirutDaily.bucketPeriod =
      bucket beirutDaily.datasetUnit beirutDaily.frequency beirutDaily.maxMinuteFrequency ∧
    beirutDaily.anchors aroundSkippedMidnight =
      .ok [oneInBeirut 19813, oneInBeirut 19814, oneInBeirut 19815] ∧
    beirutDaily.align (oneInBeirut 19814) = .ok (midnight ZoneTable.beirut 19814) ∧
    (oneInBeirut 19814).instant - (midnight ZoneTable.beirut 19814).instant = hour ∧
    ¬ ∀ anchor ∈ [oneInBeirut 19813, oneInBeirut 19814, oneInBeirut 19815],
      IsDayStart beirutDaily anchor := by
  have halign : beirutDaily.align (oneInBeirut 19814) = .ok (midnight ZoneTable.beirut 19814) := rfl
  have hlate : (oneInBeirut 19814).instant - (midnight ZoneTable.beirut 19814).instant = hour := by
    decide +kernel
  refine ⟨rfl, rfl, rfl, rfl, halign, hlate, fun hall => ?_⟩
  obtain ⟨r, hr, hsame⟩ := hall (oneInBeirut 19814) (by simp)
  rw [halign] at hr
  obtain rfl := Except.ok.inj hr
  rw [hsame, Int.sub_self] at hlate
  cases hlate

end AnomalyWindows.Proofs.DayStarts
