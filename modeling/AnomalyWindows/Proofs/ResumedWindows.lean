import AnomalyWindows.Calendar.ZoneTable
import AnomalyWindows.Proofs.DerivedPolicies
import AnomalyWindows.Proofs.UtcGrid

namespace AnomalyWindows.Proofs.ResumedWindows

open Calendar
open AnomalyWindows.Alignment
open AnomalyWindows.Proofs.CalendarMoves AnomalyWindows.Proofs.AnchorWalk
open AnomalyWindows.Proofs.ZoneReading
open AnomalyWindows.Proofs.WalkEnds AnomalyWindows.Proofs.WindowPerAnchor
open AnomalyWindows.Proofs.UtcGrid AnomalyWindows.Proofs.DerivedPolicies

theorem forward_bucket (unit : TimeUnit) {frequency : Granularity} (hsize : 1 ≤ frequency.size)
    (maxMinutes : Int) : Forward (bucket unit frequency maxMinutes) := by
  refine forward_bucket_of_pos ?_
  unfold bucket
  split
  · exact total_of_pos hsize .minutes
  · split
    · decide
    · exact total_of_pos (Int.le_refl 1) unit

theorem inYears_of_align [ZoneDatabase] {p : WindowPolicy} {m n : Moment} (hm : m.clock = .utc)
    (h : p.align m = .ok n) : InYears m.wall := by
  obtain ⟨z, -, h⟩ := bind_eq_ok_iff.mp h
  obtain ⟨onZone, hconvert, -⟩ := bind_eq_ok_iff.mp h
  exact instant_of_utc hm ▸ ((convert_zone_eq_ok_iff hm).mp hconvert).1

section Walk

variable {bucket : Period}

theorem eq_atUtc_of_walked {finish place : Moment} {steps : List Moment}
    (h : Walked bucket finish place steps) {wall : Int} (hplace : place = atUtc wall) :
    ∀ a ∈ steps, ∃ wall, a = atUtc wall := by
  refine forall_of_walked ?_ ⟨wall, hplace⟩ h
  rintro m n ⟨wall, rfl⟩ hstep
  exact ⟨_, shift_atUtc hstep⟩

theorem walked_split {finish place : Moment} {steps : List Moment}
    (h : Walked bucket finish place steps) {wall middle last : Int} (hplace : place = atUtc wall)
    (hfinish : finish = atUtc last) (hreached : wall ≤ middle) (hmiddle : middle ≤ last)
    (hgrid : bucket.total ∣ middle - wall) :
    ∃ earlier later, steps = earlier ++ later ∧
      Walked bucket (atUtc middle) (atUtc wall) earlier ∧
      Walked bucket (atUtc last) (atUtc middle) later := by
  have harrive : Walked bucket (atUtc middle) (atUtc middle) [] :=
    .arrived _ (by rw [isBefore?_atUtc, decide_eq_false (Int.lt_irrefl middle)])
  induction h generalizing wall with
  | arrived place harrived =>
      rw [hplace, hfinish, isBefore?_atUtc] at harrived
      have hlast : last ≤ wall := by simpa using harrived
      obtain rfl : wall = middle := by omega
      obtain rfl : wall = last := by omega
      exact ⟨[], [], rfl, harrive, harrive⟩
  | step place next rest hbefore hstep hrest ih =>
      subst hplace hfinish
      rcases Int.le_iff_eq_or_lt.mp hreached with rfl | hahead
      · exact ⟨[], next :: rest, rfl, harrive, .step _ next rest hbefore hstep hrest⟩
      · have hnext := shift_atUtc hstep
        rw [Int.one_mul] at hnext
        -- the middle lies on the grid, so a step from before it does not lead past it
        have hle := Int.le_of_dvd (by omega) hgrid
        have hgrid' : bucket.total ∣ middle - (wall + bucket.total) := by
          rw [← Int.sub_sub]
          exact Int.dvd_sub hgrid (Int.dvd_refl _)
        obtain ⟨earlier, later, rfl, hearlier, hlater⟩ := ih hnext (by omega) hgrid'
        refine ⟨next :: earlier, later, rfl, ?_, hlater⟩
        refine .step _ next earlier ?_ hstep (hnext ▸ hearlier)
        rw [isBefore?_atUtc, decide_eq_true hahead]

end Walk

theorem exists_windowAt_utc {p : WindowPolicy} (hsize : 1 ≤ p.windowSize) {wall : Int}
    (hrange : boundsAt p (atUtc wall) ≠ .error .outOfRange) :
    ∃ w, p.windowAt (atUtc wall) = .ok w := by
  obtain ⟨⟨start, finish⟩, hbounds⟩ :=
    exists_of_in_range (fun _ => boundsAt_eq_error (onZone_atUtc wall)) hrange
  rw [exists_windowAt_iff (onZone_atUtc wall)]
  refine ⟨start, finish, hbounds, (wall_lt_iff start finish).mp ?_⟩
  obtain ⟨finish', hfinish, h⟩ := bind_eq_ok_iff.mp hbounds
  obtain ⟨start', hstart, h⟩ := bind_eq_ok_iff.mp h
  cases h
  obtain rfl := shift_atUtc hfinish
  obtain rfl := shift_atUtc hstart
  have hpos := total_of_pos hsize p.windowUnit
  simp only [atUtc, WindowPolicy.windowSizePeriod]
  omega

/-- A policy in UTC with the bucket of its dataset, where minutes that are used divide the hour. -/
structure OnGrid (p : WindowPolicy) : Prop where
  utc : p.timezone = "UTC"
  frequency_pos : 1 ≤ p.frequency.size
  divides : usesMinutes p.datasetUnit p.frequency p.maxMinuteFrequency = true →
    p.frequency.size ∣ 60
  derived : p.bucketPeriod = bucket p.datasetUnit p.frequency p.maxMinuteFrequency

theorem OnGrid.forward {p : WindowPolicy} (hp : OnGrid p) : Forward p.bucketPeriod :=
  hp.derived ▸ forward_bucket _ hp.frequency_pos _

theorem OnGrid.align [ZoneDatabase] {p : WindowPolicy} (hp : OnGrid p) {m : Moment}
    (hm : m.clock = .utc)
    (hyears : InYears m.wall) :
    p.align m = .ok (atUtc (m.wall - m.wall % p.bucketPeriod.total)) := by
  rw [align_atUtc hp.utc hm hyears hp.frequency_pos, boundary_eq_of_dvd hp.divides, hp.derived]

theorem anchors_append_of_onGrid [ZoneDatabase] {p : WindowPolicy} (hp : OnGrid p)
    {start middle finish : Moment}
    (hstart : start.clock = .utc) (hmiddle : middle.clock = .utc) (hfinish : finish.clock = .utc)
    (hlt : start.wall < middle.wall) (hlt' : middle.wall < finish.wall) {anchors : List Moment}
    (hanchors : p.anchors ⟨start, finish⟩ = .ok anchors) :
    ∃ earlier later, anchors = earlier ++ later ∧ p.anchors ⟨start, middle⟩ = .ok earlier ∧
      p.anchors ⟨middle, finish⟩ = .ok later := by
  obtain ⟨hspans, first, last, hfirst, hlast, hlimit, hwalked⟩ := anchors_eq_ok_iff.mp hanchors
  have hyears := inYears_of_align hstart hfirst
  have hyears' := inYears_of_align hfinish hlast
  have hbetween : InYears middle.wall :=
    ⟨Int.le_trans hyears.1 (Int.le_of_lt hlt), Int.le_trans (Int.le_of_lt hlt') hyears'.2⟩
  have hsplit := hp.align hmiddle hbetween
  cases hfirst.symm.trans (hp.align hstart hyears)
  cases hlast.symm.trans (hp.align hfinish hyears')
  obtain ⟨earlier, later, rfl, hearlier, hlater⟩ :=
    walked_split hwalked rfl rfl
      (sub_emod_le hp.forward.total (Int.le_of_lt hlt))
      (sub_emod_le hp.forward.total (Int.le_of_lt hlt'))
      (Int.dvd_sub (dvd_sub_emod _ _) (dvd_sub_emod _ _))
  rw [List.length_append] at hlimit
  refine ⟨earlier, later, rfl, anchors_eq_ok_iff.mpr ?_, anchors_eq_ok_iff.mpr ?_⟩
  · exact ⟨hspans, _, _, hfirst, hsplit, by omega, hearlier⟩
  · exact ⟨hspans, _, _, hsplit, hlast, by omega, hlater⟩

theorem exists_windows_of_onGrid [ZoneDatabase] {p : WindowPolicy} (hp : OnGrid p)
    (hsize : 1 ≤ p.windowSize)
    {interval : Interval} (hrange : InRange p interval) (hutc : interval.start.clock = .utc)
    {anchors : List Moment} (hanchors : p.anchors interval = .ok anchors) :
    ∀ anchor ∈ anchors, ∃ w, p.windowAt anchor = .ok w := by
  obtain ⟨start, finish, hstart, -, hwalked⟩ := walked_of_anchors hanchors
  have hshown := hp.align hutc (inYears_of_align hutc hstart)
  intro anchor hanchor
  obtain ⟨wall, rfl⟩ := eq_atUtc_of_walked hwalked (Except.ok.inj (hstart.symm.trans hshown))
    anchor hanchor
  exact exists_windowAt_utc hsize (hrange.bounds anchors hanchors _ hanchor)

/-- In UTC the windows of two intervals of which one takes up where the other ends are, one after
the other, those of the whole. -/
theorem windows_append_of_resumed [ZoneDatabase] {a b c : Moment} {before after : Interval}
    (hbefore : Interval.ofMoments a b = .ok before) (hafter : Interval.ofMoments b c = .ok after)
    {p : WindowPolicy} (hp : OnGrid p) (hsize : 1 ≤ p.windowSize)
    (hrange : InRange p ⟨before.start, after.finish⟩) :
    Interval.ofMoments a c = .ok ⟨before.start, after.finish⟩ ∧
      ∃ earlier later, WindowPlan.of p before true = .moving earlier ∧
        WindowPlan.of p after true = .moving later ∧
        WindowPlan.of p ⟨before.start, after.finish⟩ true = .moving (earlier ++ later) ∧
        monitoringWindows p before true ++ monitoringWindows p after true =
          monitoringWindows p ⟨before.start, after.finish⟩ true := by
  obtain ⟨hstartUtc, hmiddleUtc⟩ := clock_bounds hbefore
  obtain ⟨-, hfinishUtc⟩ := clock_bounds hafter
  obtain ⟨start, middle⟩ := before
  obtain ⟨middle', finish⟩ := after
  obtain ⟨hstart, hmiddle, hlt⟩ := interval_eq_ok_iff.mp hbefore
  obtain ⟨hmiddle', hfinish, hlt'⟩ := interval_eq_ok_iff.mp hafter
  obtain rfl : middle = middle' := Except.ok.inj (hmiddle.symm.trans hmiddle')
  have hwhole : Interval.ofMoments a c = .ok ⟨start, finish⟩ :=
    interval_eq_ok_iff.mpr ⟨hstart, hfinish, Int.lt_trans hlt hlt'⟩
  refine ⟨hwhole, ?_⟩
  obtain ⟨anchors, hanchors⟩ := exists_of_in_range (fun _ => anchors_eq_error hwhole
    (hp.utc ▸ zoneNamed_utc) regular_utc hp.frequency_pos hp.forward) hrange.anchors
  have hall := exists_windows_of_onGrid hp hsize hrange hstartUtc hanchors
  obtain ⟨first, second, rfl, hfirst, hsecond⟩ :=
    anchors_append_of_onGrid hp hstartUtc hmiddleUtc hfinishUtc hlt hlt' hanchors
  obtain ⟨earlier, hearlier⟩ := (exists_forall₂_iff _ first).mpr fun anchor hanchor =>
    hall anchor (List.mem_append_left second hanchor)
  obtain ⟨later, hlater⟩ := (exists_forall₂_iff _ second).mpr fun anchor hanchor =>
    hall anchor (List.mem_append_right first hanchor)
  have hplan := plan_eq_moving_of_anchors hfirst hearlier
  have hplan' := plan_eq_moving_of_anchors hsecond hlater
  have hplan'' := plan_eq_moving_of_anchors hanchors (List.rel_append hearlier hlater)
  refine ⟨earlier, later, hplan, hplan', hplan'', ?_⟩
  rw [monitoringWindows, monitoringWindows, monitoringWindows, hplan, hplan', hplan'']
  rfl

/-- Windows of an hour on a dataset in minutes, a quarter of an hour apart and a minute late. -/
def quarterHours : WindowPolicy where
  timezone := "UTC"
  datasetUnit := .minutes
  frequency := ⟨15, .minutes⟩
  bucketPeriod := .of 15 .minutes
  windowUnit := .hours
  windowDelay := 1
  windowDelayUnit := .minutes

def atMinute (minutes : Int) : Moment :=
  .ofInstant (minutes * minute)

open scoped ZoneTable

set_option maxRecDepth 10000 in
/-- A run from seven past midnight may be left between two boundaries and resumed. -/
theorem quarterHours_append :
    let before : Interval := ⟨atMinute 7, atMinute 40⟩
    let after : Interval := ⟨atMinute 40, atMinute 70⟩
    Interval.ofMoments (atMinute 7) (atMinute 40) = .ok before ∧
    Interval.ofMoments (atMinute 40) (atMinute 70) = .ok after ∧
    OnGrid quarterHours ∧ 1 ≤ quarterHours.windowSize ∧
    InRange quarterHours ⟨before.start, after.finish⟩ ∧
    Interval.ofMoments (atMinute 7) (atMinute 70) = .ok ⟨before.start, after.finish⟩ ∧
      ∃ earlier later, WindowPlan.of quarterHours before true = .moving earlier ∧
        WindowPlan.of quarterHours after true = .moving later ∧
        WindowPlan.of quarterHours ⟨before.start, after.finish⟩ true =
          .moving (earlier ++ later) ∧
        monitoringWindows quarterHours before true ++ monitoringWindows quarterHours after true =
          monitoringWindows quarterHours ⟨before.start, after.finish⟩ true := by
  intro before after
  have hbefore : Interval.ofMoments (atMinute 7) (atMinute 40) = .ok before := rfl
  have hafter : Interval.ofMoments (atMinute 40) (atMinute 70) = .ok after := rfl
  have hgrid : OnGrid quarterHours := ⟨rfl, by decide, fun _ => by decide, rfl⟩
  have hanchors : quarterHours.anchors ⟨atMinute 7, atMinute 70⟩ =
      .ok [atUtc (15 * minute), atUtc (30 * minute), atUtc (45 * minute), atUtc (60 * minute)] :=
    rfl
  have hrange : InRange quarterHours ⟨before.start, after.finish⟩ := by
    refine inRange_of_anchors hanchors fun anchor hanchor => ?_
    simp only [List.mem_cons, List.not_mem_nil, or_false] at hanchor
    rcases hanchor with rfl | rfl | rfl | rfl <;> exact ⟨_, rfl⟩
  exact ⟨hbefore, hafter, hgrid, by decide, hrange,
    windows_append_of_resumed hbefore hafter hgrid (by decide) hrange⟩

end AnomalyWindows.Proofs.ResumedWindows
