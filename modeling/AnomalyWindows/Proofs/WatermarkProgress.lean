import AnomalyWindows.Calendar.ZoneTable
import AnomalyWindows.Proofs.SkippedTimes
import AnomalyWindows.Proofs.WatermarkOrder

namespace AnomalyWindows.Proofs.WatermarkProgress

open Calendar
open AnomalyWindows.Watermark
open AnomalyWindows.Proofs.CalendarMoves AnomalyWindows.Proofs.AnchorWalk
open AnomalyWindows.Proofs.ZoneReading AnomalyWindows.Proofs.ClockSteps
open AnomalyWindows.Proofs.SkippedTimes AnomalyWindows.Proofs.WindowAnswers
open AnomalyWindows.Proofs.WatermarkOrder

theorem instant_lt_landing_granularity {z : Zone} (hz : Regular z) (hgentle : Gentle z)
    {g : Granularity} (hsize : 1 ≤ g.size) {m : Moment} (hm : OnZone z m) :
    m.instant < (landing g.toPeriod 1 m).instant := by
  obtain ⟨size, unit⟩ := g
  rw [Granularity.toPeriod]
  by_cases hunit : unit = .days
  · rw [hunit, landing_days hsize]
    exact instant_lt_daysAway_of_gentle hz hgentle hm hsize
  · have hdays := calendarDays_of_ne_days hunit size
    have htotal := total_of_pos hsize unit
    rw [Period.total, hdays, Int.zero_mul, Int.zero_add] at htotal
    rw [instant_landing_of_exact hz hdays hm, Int.one_mul]
    exact Int.lt_add_of_pos_right _ htotal

theorem instant_clamp (interval : Interval) (e : Moment) :
    (clamp interval e).instant = min e.instant interval.finish.instant := by
  rw [clamp]
  split <;> omega

theorem resolve_of_no_point [ZoneDatabase] {σ : Type} {around : Surroundings σ}
    {interval : Interval}
    {metric : Int} {filters : Filters} {s s' : σ}
    (hread : (around.series ⟨metric, interval.start, interval.finish, filters⟩).apply s =
      (.ok [], s')) (dataset : Dataset) :
    ((resolve around interval metric filters (some dataset)).apply s).1 =
      .ok (none, [.noData metric interval]) := by
  simp only [resolve, Act.apply_bind, hread]
  rfl

theorem instant_lt_of_ofMoments {a b : Moment} {interval : Interval}
    (h : Interval.ofMoments a b = .ok interval) :
    interval.start.instant < interval.finish.instant := by
  obtain ⟨hstart, hfinish⟩ := clock_bounds h
  rw [instant_of_utc hstart, instant_of_utc hfinish]
  exact (interval_eq_ok_iff.mp h).2.2

/-- In every gentle zone one granularity from a moment that is not before the start of an interval
leads, within the interval, behind its start. -/
theorem clamp_progress {z : Zone} (hz : Regular z) (hgentle : Gentle z) {a b : Moment}
    {interval : Interval} (hinterval : Interval.ofMoments a b = .ok interval) {g : Granularity}
    (hsize : 1 ≤ g.size) {m : Moment} (hm : OnZone z m)
    (hstart : interval.start.instant ≤ m.instant) :
    let e := landing g.toPeriod 1 m
    let w := clamp interval e
    interval.start.instant < w.instant ∧ w.instant ≤ interval.finish.instant ∧
      (w.instant = interval.finish.instant ↔ interval.finish.instant ≤ e.instant) := by
  intro e w
  have hforward : m.instant < e.instant := instant_lt_landing_granularity hz hgentle hsize hm
  have hbounds := instant_lt_of_ofMoments hinterval
  have hclamp : w.instant = min e.instant interval.finish.instant := instant_clamp interval e
  rw [hclamp]
  exact ⟨by omega, by omega, by omega⟩

/-- Without points nothing is known. With a last point that is not before the start of the interval
the watermark is behind the start, not behind the end, and as late as the end exactly if one
granularity from the last point, on the clock of the dataset, leads there or farther. -/
theorem watermark_progress [ZoneDatabase] {σ : Type} {around : Surroundings σ} {a b : Moment}
    {interval : Interval} (hinterval : Interval.ofMoments a b = .ok interval) {metric : Int}
    {filters : Filters} {points : List Point} {s s' : σ}
    (hread : (around.series ⟨metric, interval.start, interval.finish, filters⟩).apply s =
      (.ok points, s'))
    {dataset : Dataset} {z : Zone} (hzone : zoneNamed dataset.timezone = .ok z)
    (hz : Regular z) (hgentle : Gentle z) (hsize : 1 ≤ dataset.granularity.size) :
    (points = [] →
      ((resolve around interval metric filters (some dataset)).apply s).1 =
        .ok (none, [.noData metric interval])) ∧
    ∀ last, points.getLast? = some last → Known last.time.clock →
      interval.start.instant ≤ last.time.instant →
      estimate dataset last.time ≠ .error .outOfRange →
      ∃ e w, estimate dataset last.time = .ok e ∧
        ((resolve around interval metric filters (some dataset)).apply s).1 = .ok (some w, []) ∧
        interval.start.instant < w.instant ∧ w.instant ≤ interval.finish.instant ∧
        (w.instant = interval.finish.instant ↔ interval.finish.instant ≤ e.instant) := by
  refine ⟨?_, fun last hlast hknown hstart hrange => ?_⟩
  · rintro rfl
    exact resolve_of_no_point hread dataset
  · have hestimate := estimate_in_range hzone hknown hrange
    refine ⟨_, _, hestimate, resolve_of_estimate hread hlast hestimate, ?_⟩
    exact clamp_progress hz hgentle hinterval hsize (onZone_shownOn hzone hknown)
      ((instant_shownOn hz last.time).symm ▸ hstart)

open scoped ZoneTable

set_option maxRecDepth 10000 in
/-- From half past one on the day on which clocks go back, a day is 25 hours. -/
theorem progress_across_setBack :
    let points : List Point := [⟨minuteOfSetBack 330, 1⟩]
    let slice : Slice := ⟨1, firstDays.start, firstDays.finish, []⟩
    Interval.ofMoments firstDays.start firstDays.finish = .ok firstDays ∧
    (((scripted points).series slice).apply [] = (.ok points, [])) ∧
    zoneNamed newYorkDays.timezone = .ok ZoneTable.newYork ∧ Regular ZoneTable.newYork ∧
    Gentle ZoneTable.newYork ∧ 1 ≤ newYorkDays.granularity.size ∧
    points.getLast? = some ⟨minuteOfSetBack 330, 1⟩ ∧ Known (minuteOfSetBack 330).clock ∧
    firstDays.start.instant ≤ (minuteOfSetBack 330).instant ∧
    estimate newYorkDays (minuteOfSetBack 330) ≠ .error .outOfRange ∧
    ∃ e w, estimate newYorkDays (minuteOfSetBack 330) = .ok e ∧
      ((resolve (scripted points) firstDays 1 [] (some newYorkDays)).apply []).1 =
        .ok (some w, []) ∧
      firstDays.start.instant < w.instant ∧ w.instant ≤ firstDays.finish.instant ∧
      (w.instant = firstDays.finish.instant ↔ firstDays.finish.instant ≤ e.instant) := by
  intro points slice
  have hinterval : Interval.ofMoments firstDays.start firstDays.finish = .ok firstDays := rfl
  have hread : ((scripted points).series slice).apply [] = (.ok points, []) := rfl
  have hzone : zoneNamed newYorkDays.timezone = .ok ZoneTable.newYork := rfl
  have hstart : firstDays.start.instant ≤ (minuteOfSetBack 330).instant := by decide +kernel
  have hestimate : estimate newYorkDays (minuteOfSetBack 330) ≠ .error .outOfRange := by
    rw [show estimate newYorkDays (minuteOfSetBack 330) =
      .ok ⟨(1730592000 + 1530 * 60) * second, false, .zone ZoneTable.newYork⟩ from rfl]
    rintro ⟨⟩
  exact ⟨hinterval, hread, hzone, regular_newYork, gentle_newYork, by decide, rfl, known_of_utc rfl,
    hstart, hestimate, (watermark_progress hinterval hread hzone regular_newYork gentle_newYork
      (by decide)).2 _ rfl (known_of_utc rfl) hstart hestimate⟩

end AnomalyWindows.Proofs.WatermarkProgress
