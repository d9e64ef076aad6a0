import AnomalyWindows.Calendar.ZoneTable
import AnomalyWindows.Proofs.AnchorWalk
import AnomalyWindows.Proofs.FirstPass
import AnomalyWindows.Proofs.WindowAnswers
import AnomalyWindows.Watermark

namespace AnomalyWindows.Proofs.WatermarkOrder

open Calendar
open AnomalyWindows.Watermark
open AnomalyWindows.Proofs.CalendarMoves AnomalyWindows.Proofs.AnchorWalk
open AnomalyWindows.Proofs.ZoneReading AnomalyWindows.Proofs.ClockSteps
open AnomalyWindows.Proofs.FirstPass AnomalyWindows.Proofs.WindowAnswers

/-- A clock without a zone, or of the zone that has its name. -/
def Known [ZoneDatabase] (clock : Clock) : Prop :=
  ∀ z, clock = .zone z → zoneNamed z.name = .ok z

/-- What the clock of a zone shows of a moment that a series tells. A moment that is told on that
clock stays as it is. -/
def shownOn (z : Zone) (m : Moment) : Moment :=
  if (observed m).clock.same (.zone z) then observed m
  else .onClock (.zone z) (observed m).instant

theorem isNaive_observed (m : Moment) : (observed m).isNaive = false := by
  rw [observed]
  split
  · rfl
  · next hnaive => simpa using hnaive

theorem instant_observed (m : Moment) : (observed m).instant = m.instant := by
  rw [observed]
  split
  · next hnaive =>
      cases hclock : m.clock with
      | naive => simp [Moment.instant, Moment.offset, hclock, Clock.offsetOfWall, Clock.utc]
      | fixed offset => simp [Moment.isNaive, hclock] at hnaive
      | zone z => simp [Moment.isNaive, hclock] at hnaive
  · rfl

theorem convert_observed {z : Zone} {m n : Moment}
    (h : (observed m).convert (.zone z) = .ok n) : n = shownOn z m := by
  rw [shownOn]
  split
  · next hsame =>
      rw [Moment.convert, if_pos hsame] at h
      exact (Except.ok.inj h).symm
  · next hother =>
      exact ((convert_eq_ok_iff (isNaive_observed m) (by simpa using hother)).mp h).2.2

theorem instant_shownOn {z : Zone} (hz : Regular z) (m : Moment) :
    (shownOn z m).instant = m.instant := by
  rw [shownOn]
  split
  · exact instant_observed m
  · rw [instant_onClock hz, instant_observed]

theorem zone_of_same {z : Zone} {m : Moment} (h : (observed m).clock.same (.zone z) = true) :
    observed m = m ∧ ∃ z', m.clock = .zone z' ∧ z'.name = z.name := by
  rw [observed] at h ⊢
  cases hclock : m.clock with
  | naive => simp [Moment.isNaive, hclock, Clock.same, Clock.utc] at h
  | fixed offset => simp [Moment.isNaive, hclock, Clock.same] at h
  | zone z' =>
      have hnaive : m.isNaive = false := by rw [Moment.isNaive, hclock]
      rw [hnaive, if_neg Bool.false_ne_true, hclock] at h
      exact ⟨if_neg (by simp [hnaive]), z', rfl, by simpa [Clock.same] using h⟩

theorem onZone_shownOn [ZoneDatabase] {name : String} {z : Zone} (hzone : zoneNamed name = .ok z)
    {m : Moment}
    (hknown : Known m.clock) : OnZone z (shownOn z m) := by
  rw [shownOn]
  split
  · next hsame =>
      obtain ⟨hobserved, z', hclock, hname⟩ := zone_of_same hsame
      have hfound := hknown z' hclock
      rw [hname, name_of_zoneNamed hzone, hzone] at hfound
      obtain rfl := Except.ok.inj hfound
      exact hobserved.symm ▸ hclock
  · exact onZone_onClock z _

theorem estimate_eq_ok [ZoneDatabase] {dataset : Dataset} {z : Zone}
    (hzone : zoneNamed dataset.timezone = .ok z)
    {m e : Moment} (hknown : Known m.clock) (h : estimate dataset m = .ok e) :
    e = landing dataset.granularity.toPeriod 1 (shownOn z m) := by
  rw [estimate, hzone] at h
  obtain ⟨zone, hfound, h⟩ := bind_eq_ok_iff.mp h
  obtain rfl := Except.ok.inj hfound
  obtain ⟨onZone, hconvert, h⟩ := bind_eq_ok_iff.mp h
  obtain rfl := convert_observed hconvert
  exact (shift_of_onZone (onZone_shownOn hzone hknown) h).1

theorem estimate_eq_error [ZoneDatabase] {dataset : Dataset} {z : Zone}
    (hzone : zoneNamed dataset.timezone = .ok z) {m : Moment} {fault : Fault}
    (h : estimate dataset m = .error fault) : fault = .outOfRange := by
  rw [estimate, hzone] at h
  rcases bind_eq_error_iff.mp h with h | ⟨zone, hfound, h⟩
  · cases h
  obtain rfl := Except.ok.inj hfound
  rcases bind_eq_error_iff.mp h with h | ⟨onZone, hconvert, h⟩
  · exact convert_eq_error (isNaive_observed m) h
  obtain rfl := convert_observed hconvert
  rw [shownOn] at h
  split at h
  · next hsame =>
      obtain ⟨hobserved, z', hclock, -⟩ := zone_of_same hsame
      have honZone : OnZone z' (observed m) := hobserved.symm ▸ hclock
      exact shift_eq_error honZone h
  · exact shift_eq_error (onZone_onClock z _) h

/-- How far a moment some days away is moved past a gap of its clock. -/
def skipped (days : Int) (m : Moment) : Int :=
  (daysAway days m).wall - (m.wall + days * day)

section Order

variable {z : Zone} (hz : Regular z)
include hz

/-- Days keep the order of two moments exactly where the clock is not set back between them, and
their ends not moved past a gap, by more than the time between them. -/
theorem daysAway_le_iff {m m' : Moment} (hm : OnZone z m) (hm' : OnZone z m') (days : Int) :
    (daysAway days m).instant ≤ (daysAway days m').instant ↔
      setBack m m' + skipped days m ≤ m'.instant - m.instant + skipped days m' := by
  have haway {m : Moment} (hm : OnZone z m) :
      daysAway days m = .onClock (.zone z) (readAt z (m.wall + days * day) false) := by
    rw [daysAway, hm]
    rfl
  have hwalls : (daysAway days m).instant ≤ (daysAway days m').instant ↔
      (daysAway days m).wall ≤ (daysAway days m').wall := by
    rw [haway hm, haway hm', instant_onClock hz, instant_onClock hz]
    exact firstPass_le_iff hz _ _
  rw [hwalls]
  unfold setBack skipped Moment.instant
  omega

end Order

theorem landing_of_days {size : Int} (hsize : size ≠ 0) (sign : Int) (m : Moment) :
    landing (.of size .days) sign m = daysAway (sign * size) m := by
  have hdays : (Period.of size .days).calendarDays = size := by
    simp [Period.calendarDays, Period.of, Period.zero]
  have hexact : (Period.of size .days).exact = 0 := by
    simp [Period.exact, Period.of, Period.zero]
  rw [landing, hdays, hexact, if_pos rfl, if_neg hsize]

theorem landing_days {size : Int} (hsize : 1 ≤ size) (m : Moment) :
    landing (.of size .days) 1 m = daysAway size m := by
  rw [landing_of_days (by omega), Int.one_mul]

theorem calendarDays_of_ne_days {unit : TimeUnit} (hunit : unit ≠ .days) (size : Int) :
    (Period.of size unit).calendarDays = 0 := by
  cases unit with
  | days => exact absurd rfl hunit
  | hours | minutes | seconds | milliseconds => rfl

theorem clamp_le_iff (interval : Interval) (e e' : Moment) :
    (clamp interval e).instant ≤ (clamp interval e').instant ↔
      (clamp interval e').instant = interval.finish.instant ∨ e.instant ≤ e'.instant := by
  unfold clamp
  split <;> split <;> omega

theorem resolve_of_estimate [ZoneDatabase] {σ : Type} {around : Surroundings σ}
    {interval : Interval}
    {metric : Int} {filters : Filters} {points : List Point} {last : Point} {s s' : σ}
    (hread : (around.series ⟨metric, interval.start, interval.finish, filters⟩).apply s =
      (.ok points, s')) (hlast : points.getLast? = some last) {dataset : Dataset} {e : Moment}
    (hestimate : estimate dataset last.time = .ok e) :
    ((resolve around interval metric filters (some dataset)).apply s).1 =
      .ok (some (clamp interval e), []) := by
  simp only [resolve, Act.apply_bind, hread, hlast, Act.apply_ofResult, ofLast, hestimate]
  rfl

theorem estimate_in_range [ZoneDatabase] {dataset : Dataset} {z : Zone}
    (hzone : zoneNamed dataset.timezone = .ok z) {m : Moment} (hknown : Known m.clock)
    (hrange : estimate dataset m ≠ .error .outOfRange) :
    estimate dataset m = .ok (landing dataset.granularity.toPeriod 1 (shownOn z m)) := by
  obtain ⟨e, hestimate⟩ := exists_of_in_range (fun _ => estimate_eq_error hzone) hrange
  rw [hestimate, estimate_eq_ok hzone hknown hestimate]

theorem last_le_of_ascending {points more : List Point} {last last' : Point}
    (hascending : (points ++ more).Pairwise fun a b => a.time.instant ≤ b.time.instant)
    (hlast : points.getLast? = some last) (hlast' : (points ++ more).getLast? = some last') :
    last.time.instant ≤ last'.time.instant := by
  cases more using List.reverseRecOn with
  | nil =>
      rw [List.append_nil, hlast] at hlast'
      obtain rfl := Option.some.inj hlast'
      exact Int.le_refl _
  | append_singleton more point _ =>
      rw [← List.append_assoc, List.getLast?_concat] at hlast'
      obtain rfl := Option.some.inj hlast'
      rw [List.pairwise_append] at hascending
      exact hascending.2.2 _ (List.mem_of_getLast? hlast) _ (by simp)

/-- When a series goes on, its watermark does not fall behind if the granularity is exact. If it
counts days, the watermark does not fall behind exactly where it has come to the end of the interval
or the days keep the order of the last points: where the clock of the dataset is not set back
between these, nor the days moved past a gap, by more than the time between them. -/
theorem watermark_le_iff [ZoneDatabase] {σ τ : Type} {around : Surroundings σ}
    {around' : Surroundings τ}
    {interval : Interval} {metric : Int} {filters : Filters} {points more : List Point}
    {last last' : Point} {s s₁ : σ} {t t₁ : τ}
    (hread : (around.series ⟨metric, interval.start, interval.finish, filters⟩).apply s =
      (.ok points, s₁))
    (hread' : (around'.series ⟨metric, interval.start, interval.finish, filters⟩).apply t =
      (.ok (points ++ more), t₁))
    (hlast : points.getLast? = some last) (hlast' : (points ++ more).getLast? = some last')
    (hascending : (points ++ more).Pairwise fun a b => a.time.instant ≤ b.time.instant)
    (hknown : ∀ point ∈ points ++ more, Known point.time.clock)
    {dataset : Dataset} {z : Zone} (hzone : zoneNamed dataset.timezone = .ok z) (hz : Regular z)
    (hsize : 1 ≤ dataset.granularity.size)
    (hrange : estimate dataset last.time ≠ .error .outOfRange)
    (hrange' : estimate dataset last'.time ≠ .error .outOfRange) :
    ∃ w w',
      ((resolve around interval metric filters (some dataset)).apply s).1 = .ok (some w, []) ∧
      ((resolve around' interval metric filters (some dataset)).apply t).1 = .ok (some w', []) ∧
      (dataset.granularity.unit ≠ .days → w.instant ≤ w'.instant) ∧
      (dataset.granularity.unit = .days →
        let days := dataset.granularity.size
        let m := shownOn z last.time
        let m' := shownOn z last'.time
        w.instant ≤ w'.instant ↔
          w'.instant = interval.finish.instant ∨
            setBack m m' + skipped days m ≤ m'.instant - m.instant + skipped days m') := by
  have hknown' := hknown last' (List.mem_of_getLast? hlast')
  have hknown := hknown last (List.mem_append_left more (List.mem_of_getLast? hlast))
  have honZone := onZone_shownOn hzone hknown
  have honZone' := onZone_shownOn hzone hknown'
  refine ⟨_, _, resolve_of_estimate hread hlast (estimate_in_range hzone hknown hrange),
    resolve_of_estimate hread' hlast' (estimate_in_range hzone hknown' hrange'), ?_, ?_⟩
  · intro hexact
    have hdays : dataset.granularity.toPeriod.calendarDays = 0 := calendarDays_of_ne_days hexact _
    rw [clamp_le_iff, instant_landing_of_exact hz hdays honZone,
      instant_landing_of_exact hz hdays honZone', instant_shownOn hz, instant_shownOn hz]
    exact .inr (Int.add_le_add_right (last_le_of_ascending hascending hlast hlast') _)
  · intro hdays
    have hperiod : dataset.granularity.toPeriod = .of dataset.granularity.size .days := by
      rw [Granularity.toPeriod, hdays]
    rw [hperiod, landing_days hsize, landing_days hsize, clamp_le_iff,
      daysAway_le_iff hz honZone honZone']

/-- Minutes of UTC behind midnight of the day on which the clocks of New York go back. -/
def minuteOfSetBack (minutes : Int) : Moment :=
  .ofInstant ((1730592000 + minutes * 60) * second)

def newYorkDays : Dataset where
  name := "visits"
  timezone := "America/New_York"

def firstDays : Interval :=
  ⟨hourOfSetBack (-48), hourOfSetBack 120⟩

theorem known_of_utc [ZoneDatabase] {m : Moment} (hm : m.clock = .utc) : Known m.clock := by
  rw [hm]
  rintro z ⟨⟩

open scoped ZoneTable

set_option maxRecDepth 10000 in
/-- Over seventy minutes across the change the watermark goes on, by ten minutes only. -/
theorem watermark_across_setBack :
    let points : List Point := [⟨minuteOfSetBack 330, 1⟩]
    let more : List Point := [⟨minuteOfSetBack 400, 1⟩]
    let slice : Slice := ⟨1, firstDays.start, firstDays.finish, []⟩
    let m := shownOn ZoneTable.newYork (minuteOfSetBack 330)
    let m' := shownOn ZoneTable.newYork (minuteOfSetBack 400)
    (((scripted points).series slice).apply [] = (.ok points, [])) ∧
    (((scripted (points ++ more)).series slice).apply [] = (.ok (points ++ more), [])) ∧
    ((points ++ more).Pairwise fun a b => a.time.instant ≤ b.time.instant) ∧
    (∀ point ∈ points ++ more, Known point.time.clock) ∧
    zoneNamed newYorkDays.timezone = .ok ZoneTable.newYork ∧ Regular ZoneTable.newYork ∧
    1 ≤ newYorkDays.granularity.size ∧
    estimate newYorkDays (minuteOfSetBack 330) ≠ .error .outOfRange ∧
    estimate newYorkDays (minuteOfSetBack 400) ≠ .error .outOfRange ∧
    setBack m m' + skipped 1 m ≤ m'.instant - m.instant + skipped 1 m' ∧
    ∃ w w',
      ((resolve (scripted points) firstDays 1 [] (some newYorkDays)).apply []).1 =
        .ok (some w, []) ∧
      ((resolve (scripted (points ++ more)) firstDays 1 [] (some newYorkDays)).apply []).1 =
        .ok (some w', []) ∧
      (newYorkDays.granularity.unit ≠ .days → w.instant ≤ w'.instant) ∧
      (newYorkDays.granularity.unit = .days →
        (w.instant ≤ w'.instant ↔
          w'.instant = firstDays.finish.instant ∨
            setBack m m' + skipped 1 m ≤ m'.instant - m.instant + skipped 1 m')) := by
  intro points more slice m m'
  have hread : ((scripted points).series slice).apply [] = (.ok points, []) := rfl
  have hread' : ((scripted (points ++ more)).series slice).apply [] =
      (.ok (points ++ more), []) := rfl
  have hascending : (points ++ more).Pairwise fun a b => a.time.instant ≤ b.time.instant := by
    refine List.pairwise_pair.mpr ?_
    decide +kernel
  have hknown : ∀ point ∈ points ++ more, Known point.time.clock := by
    intro point hpoint
    rcases List.mem_pair.mp hpoint with rfl | rfl <;> exact known_of_utc rfl
  have hestimate : estimate newYorkDays (minuteOfSetBack 330) ≠ .error .outOfRange := by
    rw [show estimate newYorkDays (minuteOfSetBack 330) =
      .ok ⟨(1730592000 + 1530 * 60) * second, false, .zone ZoneTable.newYork⟩ from rfl]
    rintro ⟨⟩
  have hestimate' : estimate newYorkDays (minuteOfSetBack 400) ≠ .error .outOfRange := by
    rw [show estimate newYorkDays (minuteOfSetBack 400) =
      .ok ⟨(1730592000 + 1540 * 60) * second, false, .zone ZoneTable.newYork⟩ from rfl]
    rintro ⟨⟩
  exact ⟨hread, hread', hascending, hknown, rfl, regular_newYork, by decide, hestimate, hestimate',
    by decide +kernel, watermark_le_iff hread hread' rfl rfl hascending hknown rfl regular_newYork
      (by decide) hestimate hestimate'⟩

set_option maxRecDepth 10000 in
/-- Over forty minutes across the change the watermark falls behind by twenty: the last point moves
on from half past one to ten past one of the repeated hour, and a day is added to what the clock
reads. -/
theorem watermark_falls_behind :
    let points : List Point := [⟨minuteOfSetBack 330, 1⟩]
    let more : List Point := [⟨minuteOfSetBack 370, 1⟩]
    let w : Moment := ⟨(1730592000 + 1530 * 60) * second, false, .zone ZoneTable.newYork⟩
    let w' : Moment := ⟨(1730592000 + 1510 * 60) * second, false, .zone ZoneTable.newYork⟩
    Interval.ofMoments firstDays.start firstDays.finish = .ok firstDays ∧
    points ≠ [] ∧
    ((points ++ more).Pairwise fun a b => a.time.instant ≤ b.time.instant) ∧
    (∀ point ∈ points ++ more, Known point.time.clock) ∧
    zoneNamed newYorkDays.timezone = .ok ZoneTable.newYork ∧ Regular ZoneTable.newYork ∧
    1 ≤ newYorkDays.granularity.size ∧
    ((resolve (scripted points) firstDays 1 [] (some newYorkDays)).apply []).1 =
      .ok (some w, []) ∧
    ((resolve (scripted (points ++ more)) firstDays 1 [] (some newYorkDays)).apply []).1 =
      .ok (some w', []) ∧
    w'.instant < w.instant := by
  intro points more w w'
  have hestimate : estimate newYorkDays (minuteOfSetBack 330) = .ok w := rfl
  have hestimate' : estimate newYorkDays (minuteOfSetBack 370) = .ok w' := rfl
  have hclamp : clamp firstDays w = w := if_neg (by decide +kernel)
  have hclamp' : clamp firstDays w' = w' := if_neg (by decide +kernel)
  have hread (points : List Point) : ((scripted points).series
    ⟨1, firstDays.start, firstDays.finish, []⟩).apply [] = (.ok points, []) := rfl
  have hresolved := resolve_of_estimate (hread points) rfl hestimate
  have hresolved' := resolve_of_estimate (hread (points ++ more)) rfl hestimate'
  rw [hclamp] at hresolved
  rw [hclamp'] at hresolved'
  refine ⟨rfl, List.cons_ne_nil _ _, ?_, ?_, rfl, regular_newYork, by decide, hresolved,
    hresolved', by decide +kernel⟩
  · refine List.pairwise_pair.mpr ?_
    decide +kernel
  · intro point hpoint
    rcases List.mem_pair.mp hpoint with rfl | rfl <;> exact known_of_utc rfl

end AnomalyWindows.Proofs.WatermarkOrder
