import AnomalyWindows.Calendar.ZoneTable
import AnomalyWindows.Proofs.FirstPass
import AnomalyWindows.Proofs.WindowPerAnchor
import Mathlib.Data.Int.Range
import Mathlib.Order.Interval.Set.UnorderedInterval

namespace AnomalyWindows.Proofs.LocalDays

open Calendar
open AnomalyWindows.Alignment
open AnomalyWindows.Proofs.CalendarMoves AnomalyWindows.Proofs.AnchorWalk
open AnomalyWindows.Proofs.ZoneReading AnomalyWindows.Proofs.ClockSteps
open AnomalyWindows.Proofs.WindowPerAnchor AnomalyWindows.Proofs.FirstPass

/-- The clock of a zone shows a wall time, and not a second time. -/
def ShownOnce (z : Zone) (wall : Int) : Prop :=
  ∃! instant, (Moment.onClock (.zone z) instant).wall = wall

theorem shownOnce_iff {z : Zone} (hz : Regular z) (wall : Int) :
    ShownOnce z wall ↔
      (Moment.onClock (.zone z) (readAt z wall false)).wall = wall ∧
        readAt z wall true = readAt z wall false := by
  constructor
  · rintro ⟨instant, hshown, hunique⟩
    have hread (fold : Bool) := hunique _ (onClock_readAt_of_shown hz fold hshown)
    exact ⟨onClock_readAt_of_shown hz false hshown, (hread true).trans (hread false).symm⟩
  · rintro ⟨hshown, hsame⟩
    refine ⟨_, hshown, fun instant hinstant => ?_⟩
    have hread : readAt z wall (Moment.onClock (.zone z) instant).fold = instant := by
      rw [← hinstant]
      exact instant_onClock hz instant
    rw [← hread]
    cases (Moment.onClock (.zone z) instant).fold with
    | false => rfl
    | true => exact hsame

theorem readAt_of_shownOnce {z : Zone} (hz : Regular z) {wall : Int} (hshown : ShownOnce z wall)
    (fold : Bool) : readAt z wall fold = readAt z wall false := by
  cases fold with
  | false => rfl
  | true => exact ((shownOnce_iff hz wall).mp hshown).2

theorem onClock_readAt_of_shownOnce {z : Zone} (hz : Regular z) {wall : Int}
    (hshown : ShownOnce z wall) :
    Moment.onClock (.zone z) (readAt z wall false) = ⟨wall, false, .zone z⟩ := by
  have hwall := ((shownOnce_iff hz wall).mp hshown).1
  have hfold := fold_onClock_firstPass hz wall
  calc Moment.onClock (.zone z) (readAt z wall false)
      = ⟨(Moment.onClock (.zone z) (readAt z wall false)).wall,
          (Moment.onClock (.zone z) (readAt z wall false)).fold, .zone z⟩ := rfl
    _ = ⟨wall, false, .zone z⟩ := by rw [hwall, hfold]

/-- The day that the clock of a zone shows at an instant, counted from the start of 1970. -/
def localDay (z : Zone) (instant : Int) : Int :=
  (Moment.onClock (.zone z) instant).wall / day

def midnight (z : Zone) (d : Int) : Moment :=
  ⟨d * day, false, .zone z⟩

def dayWindow (z : Zone) (d : Int) : Window :=
  ⟨midnight z d, midnight z (d + 1)⟩

/-- A midnight that is shown once and lies within the bounds of the calendar. -/
structure Usable (z : Zone) (d : Int) : Prop where
  shown : ShownOnce z (d * day)
  wall : InYears (d * day)
  instant : InYears (midnight z d).instant

theorem onZone_midnight (z : Zone) (d : Int) : OnZone z (midnight z d) := rfl

theorem day_mul_le {d e : Int} (hle : d ≤ e) : d * day ≤ e * day :=
  Int.mul_le_mul_of_nonneg_right hle (by decide)

section Midnight

variable {z : Zone} (hz : Regular z)
include hz

theorem onClock_midnight {d : Int} (hshown : ShownOnce z (d * day)) :
    Moment.onClock (.zone z) (midnight z d).instant = midnight z d :=
  onClock_readAt_of_shownOnce hz hshown

theorem instant_midnight_le {d e : Int} (hd : ShownOnce z (d * day)) (he : ShownOnce z (e * day))
    (hle : d ≤ e) : (midnight z d).instant ≤ (midnight z e).instant := by
  refine (firstPass_le_iff hz (d * day) (e * day)).mpr ?_
  rw [onClock_readAt_of_shownOnce hz hd, onClock_readAt_of_shownOnce hz he]
  exact day_mul_le hle

theorem usable_between {first last : Int}
    (hshown : ∀ d ∈ Set.uIcc first last, ShownOnce z (d * day)) (hfirst : Usable z first)
    (hlast : Usable z last) {d : Int} (hfrom : first ≤ d) (hto : d ≤ last) : Usable z d := by
  have hd := hshown d (Set.mem_uIcc_of_le hfrom hto)
  refine ⟨hd, ⟨?_, ?_⟩, ⟨?_, ?_⟩⟩
  · exact Int.le_trans hfirst.wall.1 (day_mul_le hfrom)
  · exact Int.le_trans (day_mul_le hto) hlast.wall.2
  · exact Int.le_trans hfirst.instant.1 (instant_midnight_le hz hfirst.shown hd hfrom)
  · exact Int.le_trans (instant_midnight_le hz hd hlast.shown hto) hlast.instant.2

theorem moveDays_midnight {d sign : Int} (hsign : Spans (sign * day))
    (htarget : Usable z (d + sign)) :
    Period.moveDays 1 sign (midnight z d) = .ok (midnight z (d + sign)) := by
  have hwall : (midnight z d).wall + sign * (1 * day) = (d + sign) * day := by
    rw [Int.one_mul, Int.add_mul]
    rfl
  have haway : daysAway (sign * 1) (midnight z d) = midnight z (d + sign) := by
    rw [daysAway, Int.mul_assoc, hwall]
    exact onClock_midnight hz htarget.shown
  rw [moveDays_eq_ok_iff (onZone_midnight z d), hwall, haway]
  exact ⟨by decide, Int.one_mul day ▸ hsign, htarget.wall, htarget.instant, htarget.wall, rfl⟩

end Midnight

theorem align_days_eq [ZoneDatabase] {p : WindowPolicy} {z : Zone}
    (hzone : zoneNamed p.timezone = .ok z)
    (hunit : p.datasetUnit = .days) (m : Moment) :
    p.align m = m.convert (.zone z) >>= floorTo .days := by
  rw [WindowPolicy.align, Alignment.align, hzone, hunit]
  rfl

theorem floorWall_onClock (z : Zone) (instant : Int) :
    floorWall day (Moment.onClock (.zone z) instant) =
      ⟨localDay z instant * day, (Moment.onClock (.zone z) instant).fold, .zone z⟩ := by
  have hemod := Int.emod_add_mul_ediv (Moment.onClock (.zone z) instant).wall day
  rw [floorWall, localDay, Int.mul_comm]
  congr 1
  omega

theorem floorTo_days_onClock_eq_ok_iff (z : Zone) (instant : Int) {n : Moment} :
    floorTo .days (Moment.onClock (.zone z) instant) = .ok n ↔
      let start := readAt z (localDay z instant * day) (Moment.onClock (.zone z) instant).fold
      InYears start ∧ InYears (Moment.onClock (.zone z) start).wall ∧
        n = .onClock (.zone z) start := by
  have honZone : OnZone z (floorWall day (Moment.onClock (.zone z) instant)) := rfl
  rw [floorTo, isNaive_of_onZone (onZone_onClock z instant)]
  refine (settled_eq_ok_iff honZone).trans ?_
  rw [floorWall_onClock]
  rfl

theorem align_days_eq_error [ZoneDatabase] {p : WindowPolicy} {z : Zone}
    (hzone : zoneNamed p.timezone = .ok z)
    (hunit : p.datasetUnit = .days) {m : Moment} (hm : m.clock = .utc) {fault : Fault}
    (h : p.align m = .error fault) : fault = .outOfRange := by
  rw [align_days_eq hzone hunit] at h
  rcases bind_eq_error_iff.mp h with h | ⟨onZone, hconvert, h⟩
  · exact convert_eq_error (isNaive_of_utc hm) h
  · obtain rfl := convert_of_utc hm hconvert
    exact WalkEnds.floorTo_eq_error (onZone_onClock z m.instant) h

theorem eq_midnight_of_align [ZoneDatabase] {p : WindowPolicy} {z : Zone}
    (hzone : zoneNamed p.timezone = .ok z)
    (hz : Regular z) (hunit : p.datasetUnit = .days) {m n : Moment} (hm : m.clock = .utc)
    (hshown : ShownOnce z (localDay z m.instant * day)) (h : p.align m = .ok n) :
    n = midnight z (localDay z m.instant) ∧ Usable z (localDay z m.instant) := by
  rw [align_days_eq hzone hunit] at h
  obtain ⟨onZone, hconvert, h⟩ := bind_eq_ok_iff.mp h
  obtain rfl := convert_of_utc hm hconvert
  obtain ⟨hinstant, hwall, hn⟩ := (floorTo_days_onClock_eq_ok_iff z m.instant).mp h
  -- the floored moment keeps the pass of the bound, which makes no difference at such a midnight
  have hread : readAt z (localDay z m.instant * day) (Moment.onClock (.zone z) m.instant).fold =
      (midnight z (localDay z m.instant)).instant :=
    readAt_of_shownOnce hz hshown _
  rw [hread, onClock_midnight hz hshown] at hwall hn
  exact ⟨hn, hshown, hwall, hread ▸ hinstant⟩

theorem align_eq_midnight [ZoneDatabase] {p : WindowPolicy} {z : Zone}
    (hzone : zoneNamed p.timezone = .ok z) (hz : Regular z)
    (hunit : p.datasetUnit = .days) {m : Moment} (hm : m.clock = .utc)
    (hshown : ShownOnce z (localDay z m.instant * day))
    (hrange : p.align m ≠ .error .outOfRange) :
    p.align m = .ok (midnight z (localDay z m.instant)) ∧ Usable z (localDay z m.instant) := by
  obtain ⟨n, haligned⟩ :=
    exists_of_in_range (fun _ => align_days_eq_error hzone hunit hm) hrange
  obtain ⟨rfl, husable⟩ := eq_midnight_of_align hzone hz hunit hm hshown haligned
  exact ⟨haligned, husable⟩

theorem range_of_le {first last : Int} (hle : last ≤ first) : Int.range first last = [] := by
  rw [Int.range, Int.toNat_of_nonpos (by omega)]
  rfl

theorem range_of_lt {first last : Int} (hlt : first < last) :
    Int.range first last = first :: Int.range (first + 1) last := by
  obtain ⟨n, hn⟩ : ∃ n : Nat, last - first = n + 1 := ⟨(last - first - 1).toNat, by omega⟩
  have hrest : last - (first + 1) = n := by omega
  have hsucc : (last - first).toNat = n + 1 := by omega
  rw [Int.range, Int.range, hsucc, hrest, Int.toNat_natCast, List.range_succ_eq_map]
  simp [Function.comp_def, Int.add_assoc, Int.add_comm 1]

theorem isChain_range (first last : Int) :
    (Int.range first last).IsChain fun d e => e = d + 1 := by
  rw [List.isChain_iff_getElem]
  intro n hn
  simp [Int.range, Int.add_assoc]

theorem shift_none (unit : TimeUnit) (sign : Int) (m : Moment) :
    (Period.of 0 unit).shift sign m = .ok m := by
  cases unit <;> rfl

theorem shift_oneDay (sign : Int) (m : Moment) :
    (Period.of 1 .days).shift sign m = Period.moveDays 1 sign m := by
  rw [shift_eq]
  cases h : Period.moveDays 1 sign m with
  | ok n => exact congrArg (· >>= fun onDay => Except.ok onDay) h
  | error fault => exact congrArg (· >>= fun onDay => Except.ok onDay) h

theorem walked_midnights {z : Zone} (hz : Regular z) {first last : Int}
    (husable : ∀ d, first ≤ d → d ≤ last → Usable z d) :
    Walked (.of 1 .days) (midnight z last) (midnight z first)
      ((Int.range first last).map fun d => midnight z (d + 1)) := by
  induction hn : (last - first).toNat generalizing first with
  | zero =>
      have hle : last ≤ first := by omega
      rw [range_of_le hle]
      refine .arrived _ ?_
      rw [isBefore?_of_onZone (onZone_midnight z first) (onZone_midnight z last)]
      exact congrArg some (decide_eq_false (Int.not_lt.mpr (day_mul_le hle)))
  | succ n ih =>
      have hlt : first < last := by omega
      have hwall : first * day < last * day := Int.mul_lt_mul_of_pos_right hlt (by decide)
      rw [range_of_lt hlt]
      refine .step _ _ _ ?_ ?_ (ih (fun d hfrom hto => husable d (by omega) hto) (by omega))
      · rw [isBefore?_of_onZone (onZone_midnight z first) (onZone_midnight z last)]
        exact congrArg some (decide_eq_true hwall)
      · rw [Period.addTo, shift_oneDay]
        exact moveDays_midnight hz (by decide) (husable (first + 1) (by omega) (by omega))

/-- A policy for a daily dataset with its own bucket, whose windows are a day long and not late. -/
structure Daily (p : WindowPolicy) : Prop where
  unit : p.datasetUnit = .days
  derived : p.bucketPeriod = bucket p.datasetUnit p.frequency p.maxMinuteFrequency
  size : p.windowSize = 1
  sizeUnit : p.windowUnit = .days
  delay : p.windowDelay = 0

theorem Daily.bucketPeriod_eq {p : WindowPolicy} (hp : Daily p) : p.bucketPeriod = .of 1 .days := by
  rw [hp.derived, hp.unit]
  rfl

theorem Daily.windowAt_midnight {p : WindowPolicy} (hp : Daily p) {z : Zone} (hz : Regular z)
    {d : Int} (hd : Usable z d) : p.windowAt (midnight z (d + 1)) = .ok (dayWindow z d) := by
  have hback : Period.moveDays 1 (-1) (midnight z (d + 1)) = .ok (midnight z (d + 1 + -1)) :=
    moveDays_midnight hz (by decide) ((Int.add_neg_cancel_right d 1).symm ▸ hd)
  rw [Int.add_neg_cancel_right] at hback
  have hlt : d * day < (d + 1) * day := by
    rw [Int.add_mul, Int.one_mul]
    exact Int.lt_add_of_pos_right _ (by decide)
  rw [WindowPolicy.windowAt, WindowPolicy.windowDelayPeriod, WindowPolicy.windowSizePeriod, hp.size,
    hp.sizeUnit, hp.delay, Period.subtractFrom, shift_none]
  refine bind_eq_ok_iff.mpr ⟨_, rfl, bind_eq_ok_iff.mpr ⟨midnight z d, ?_, ?_⟩⟩
  · rw [Period.subtractFrom, shift_oneDay]
    exact hback
  · exact (ofMoments_eq_ok_iff (onZone_midnight z d) (onZone_midnight z (d + 1)) _).mpr ⟨hlt, rfl⟩

theorem length_range_le {first last : Int} (hfirst : InYears (first * day))
    (hlast : InYears (last * day)) :
    (Int.range first last).length ≤ WindowPolicy.walkLimit := by
  obtain ⟨hfirst, -⟩ := hfirst
  obtain ⟨-, hlast⟩ := hlast
  rw [Int.range, List.length_map, List.length_range]
  simp only [WindowPolicy.walkLimit, firstWall, lastWall, day, hour, minute, second] at *
  omega

/-- The moving windows of an interval are its local days: from the day on which it starts up to the
day on which it ends, which is not among them. -/
theorem windows_eq_localDays [ZoneDatabase] {a b : Moment} {interval : Interval}
    (hinterval : Interval.ofMoments a b = .ok interval) {p : WindowPolicy} {z : Zone}
    (hzone : zoneNamed p.timezone = .ok z) (hz : Regular z) (hp : Daily p)
    (hshown : ∀ d ∈ Set.uIcc (localDay z interval.start.instant)
      (localDay z interval.finish.instant), ShownOnce z (d * day))
    (hstart : p.align interval.start ≠ .error .outOfRange)
    (hfinish : p.align interval.finish ≠ .error .outOfRange) :
    let first := localDay z interval.start.instant
    let last := localDay z interval.finish.instant
    let windows := (Int.range first last).map (dayWindow z)
    WindowPlan.of p interval true = .moving windows ∧
      monitoringWindows p interval true = windows ∧
      p.align interval.start = .ok (midnight z first) ∧
      p.align interval.finish = .ok (midnight z last) ∧
      (∀ d ∈ Set.uIcc first last,
        Moment.onClock (.zone z) (midnight z d).instant = midnight z d) ∧
      windows.IsChain fun w next => w.finish.instant = next.start.instant := by
  intro first last windows
  obtain ⟨hstartUtc, hfinishUtc⟩ := clock_bounds hinterval
  obtain ⟨hfirst, hfirstUsable⟩ :=
    align_eq_midnight hzone hz hp.unit hstartUtc (hshown first Set.left_mem_uIcc) hstart
  obtain ⟨hlast, hlastUsable⟩ :=
    align_eq_midnight hzone hz hp.unit hfinishUtc (hshown last Set.right_mem_uIcc) hfinish
  have husable (d : Int) (hfrom : first ≤ d) (hto : d ≤ last) : Usable z d :=
    usable_between hz hshown hfirstUsable hlastUsable hfrom hto
  have hanchors : p.anchors interval =
      .ok ((Int.range first last).map fun d => midnight z (d + 1)) := by
    rw [anchors_eq_ok_iff, List.length_map, hp.bucketPeriod_eq]
    exact ⟨by decide, _, _, hfirst, hlast,
      length_range_le hfirstUsable.wall hlastUsable.wall, walked_midnights hz husable⟩
  have hwindows : List.Forall₂ (fun anchor w => p.windowAt anchor = .ok w)
      ((Int.range first last).map fun d => midnight z (d + 1)) windows := by
    rw [List.forall₂_map_left_iff, List.forall₂_map_right_iff, List.forall₂_same]
    intro d hd
    obtain ⟨hfrom, hto⟩ := Int.mem_range_iff.mp hd
    exact hp.windowAt_midnight hz (husable d hfrom (Int.le_of_lt hto))
  have hplan := plan_eq_moving_of_anchors hanchors hwindows
  refine ⟨hplan, ?_, hfirst, hlast, fun d hd => onClock_midnight hz (hshown d hd), ?_⟩
  · rw [monitoringWindows, hplan]
    rfl
  · rw [List.isChain_map]
    refine (isChain_range first last).imp fun d e he => ?_
    rw [he]
    rfl

def newYorkDaily : WindowPolicy where
  timezone := "America/New_York"
  datasetUnit := .days
  frequency := .daily
  bucketPeriod := .of 1 .days

/-- From the second to the fifth of November 2024, noon by UTC. -/
def aroundSetBack : Interval :=
  ⟨hourOfSetBack (-12), hourOfSetBack 60⟩

open scoped ZoneTable

set_option maxRecDepth 10000 in
theorem newYork_days_around_setBack :
    let z := ZoneTable.newYork
    let first := localDay z aroundSetBack.start.instant
    let last := localDay z aroundSetBack.finish.instant
    let windows := [dayWindow z 20029, dayWindow z 20030, dayWindow z 20031]
    Interval.ofMoments (hourOfSetBack (-12)) (hourOfSetBack 60) = .ok aroundSetBack ∧
    zoneNamed newYorkDaily.timezone = .ok z ∧ Regular z ∧ Daily newYorkDaily ∧
    (∀ d ∈ Set.uIcc first last, ShownOnce z (d * day)) ∧
    newYorkDaily.align aroundSetBack.start ≠ .error .outOfRange ∧
    newYorkDaily.align aroundSetBack.finish ≠ .error .outOfRange ∧
    (midnight z 20031).instant - (midnight z 20030).instant = 25 * hour ∧
    WindowPlan.of newYorkDaily aroundSetBack true = .moving windows ∧
      monitoringWindows newYorkDaily aroundSetBack true = windows ∧
      newYorkDaily.align aroundSetBack.start = .ok (midnight z first) ∧
      newYorkDaily.align aroundSetBack.finish = .ok (midnight z last) ∧
      (∀ d ∈ Set.uIcc first last,
        Moment.onClock (.zone z) (midnight z d).instant = midnight z d) ∧
      windows.IsChain fun w next => w.finish.instant = next.start.instant := by
  intro z first last windows
  have hinterval : Interval.ofMoments (hourOfSetBack (-12)) (hourOfSetBack 60) =
      .ok aroundSetBack := rfl
  have hzone : zoneNamed newYorkDaily.timezone = .ok z := rfl
  have hdaily : Daily newYorkDaily := ⟨rfl, rfl, rfl, rfl, rfl⟩
  have hfirst : first = 20029 := by decide +kernel
  have hlast : last = 20032 := by decide +kernel
  have hshown : ∀ d ∈ Set.uIcc first last, ShownOnce z (d * day) := by
    intro d hd
    rw [hfirst, hlast, Set.mem_uIcc] at hd
    rw [shownOnce_iff regular_newYork]
    obtain rfl | rfl | rfl | rfl : d = 20029 ∨ d = 20030 ∨ d = 20031 ∨ d = 20032 := by omega
    all_goals decide +kernel
  have hstart : newYorkDaily.align aroundSetBack.start ≠ .error .outOfRange := by
    rw [show newYorkDaily.align aroundSetBack.start = .ok (midnight z 20029) from rfl]
    rintro ⟨⟩
  have hfinish : newYorkDaily.align aroundSetBack.finish ≠ .error .outOfRange := by
    rw [show newYorkDaily.align aroundSetBack.finish = .ok (midnight z 20032) from rfl]
    rintro ⟨⟩
  have hwindows : windows = (Int.range first last).map (dayWindow z) := by
    rw [hfirst, hlast]
    rfl
  refine ⟨hinterval, hzone, regular_newYork, hdaily, hshown, hstart, hfinish, by decide +kernel, ?_⟩
  rw [hwindows]
  exact windows_eq_localDays hinterval hzone regular_newYork hdaily hshown hstart hfinish

end AnomalyWindows.Proofs.LocalDays
