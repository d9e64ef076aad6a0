import AnomalyWindows.Calendar.ZoneTable
import AnomalyWindows.Proofs.ResumedWindows
import Mathlib.Algebra.Order.Floor.Ring
import Mathlib.Data.Rat.Floor

namespace AnomalyWindows.Proofs.WindowFormula

open Calendar
open AnomalyWindows.Proofs.CalendarMoves AnomalyWindows.Proofs.AnchorWalk
open AnomalyWindows.Proofs.ZoneReading AnomalyWindows.Proofs.WalkEnds
open AnomalyWindows.Proofs.WindowPerAnchor
open AnomalyWindows.Proofs.UtcGrid AnomalyWindows.Proofs.ResumedWindows

/-- How many steps it takes to cover a span, none if there is nothing to cover. -/
def stepsOver (step span : Int) : Int :=
  max 0 ⌈(span : ℚ) / step⌉

theorem stepsOver_of_nonpos {step span : Int} (hstep : 0 < step) (hspan : span ≤ 0) :
    stepsOver step span = 0 := by
  have hquotient : (span : ℚ) / step ≤ 0 :=
    div_nonpos_of_nonpos_of_nonneg (by exact_mod_cast hspan) (by exact_mod_cast hstep.le)
  exact max_eq_left (by simpa using Int.ceil_le.mpr (by simpa using hquotient))

theorem stepsOver_of_pos {step span : Int} (hstep : 0 < step) (hspan : 0 < span) :
    stepsOver step span = stepsOver step (span - step) + 1 := by
  have hstep' : (0 : ℚ) < step := by exact_mod_cast hstep
  have hquotient : ((span - step : Int) : ℚ) / step = span / step - 1 := by
    rw [Int.cast_sub, sub_div, div_self hstep'.ne']
  have hpos : 0 < ⌈(span : ℚ) / step⌉ :=
    Int.ceil_pos.mpr (div_pos (by exact_mod_cast hspan) hstep')
  rw [stepsOver, stepsOver, hquotient, Int.ceil_sub_one]
  omega

/-- From a place on the clock of UTC a walk goes bucket by bucket, as often as it takes. -/
theorem steps_of_walked {bucket : Period} (hbucket : 0 < bucket.total) {finish place : Moment}
    {steps : List Moment} (h : Walked bucket finish place steps) {lo hi : Int}
    (hplace : place = atUtc lo) (hfinish : finish = atUtc hi) :
    (steps.length : Int) = stepsOver bucket.total (hi - lo) ∧
      steps = (List.range steps.length).map fun i : Nat => atUtc (lo + (i + 1) * bucket.total) := by
  induction h generalizing lo with
  | arrived place harrived =>
      rw [hplace, hfinish, isBefore?_atUtc] at harrived
      have hreached : hi ≤ lo := by simpa using harrived
      refine ⟨(stepsOver_of_nonpos hbucket (by omega)).symm, rfl⟩
  | step place next rest hbefore hstep hrest ih =>
      subst hplace hfinish
      rw [isBefore?_atUtc] at hbefore
      have hahead : lo < hi := by simpa using hbefore
      have hnext := shift_atUtc hstep
      rw [Int.one_mul] at hnext
      obtain ⟨hlength, hsteps⟩ := ih hnext
      constructor
      · rw [stepsOver_of_pos hbucket (by omega), List.length_cons, Int.sub_sub, ← hlength]
        rfl
      · rw [List.length_cons, List.range_succ_eq_map, List.map_cons, List.map_map, hnext]
        refine congrArg₂ _ ?_ (hsteps.trans ?_)
        · simp
        · refine List.map_congr_left fun i _ => ?_
          simp only [Function.comp_apply, Nat.cast_succ]
          ring_nf

/-- The window of an anchor on the clock of UTC: it ends the delay before the anchor. -/
def windowBehind (p : WindowPolicy) (anchor : Int) : Window :=
  let finish := anchor - p.windowDelayPeriod.total
  ⟨atUtc (finish - p.windowSizePeriod.total), atUtc finish⟩

theorem windowAt_atUtc {p : WindowPolicy} (hsize : 1 ≤ p.windowSize) {anchor : Int}
    (hrange : boundsAt p (atUtc anchor) ≠ .error .outOfRange) :
    p.windowAt (atUtc anchor) = .ok (windowBehind p anchor) := by
  obtain ⟨w, hw⟩ := exists_windowAt_utc hsize hrange
  rw [hw]
  rw [windowAt_eq] at hw
  obtain ⟨⟨start, finish⟩, hbounds, hw⟩ := bind_eq_ok_iff.mp hw
  obtain ⟨hstart, hfinish⟩ := onZone_boundsAt (onZone_atUtc anchor) hbounds
  obtain ⟨-, rfl⟩ := (ofMoments_eq_ok_iff hstart hfinish w).mp hw
  obtain ⟨finish', hdelayed, hbounds⟩ := bind_eq_ok_iff.mp hbounds
  obtain ⟨start', hsized, hbounds⟩ := bind_eq_ok_iff.mp hbounds
  cases hbounds
  obtain rfl := shift_atUtc hdelayed
  obtain rfl := shift_atUtc hsized
  rw [windowBehind, Int.neg_one_mul, Int.neg_one_mul]
  rfl

/-- In UTC, in range, the moving windows are those of as many anchors as it takes buckets to cover
the span between the aligned bounds, the first anchor being one bucket behind the aligned start. -/
theorem windows_eq_formula [ZoneDatabase] {a b : Moment} {interval : Interval}
    (hinterval : Interval.ofMoments a b = .ok interval) {p : WindowPolicy}
    (hutc : p.timezone = "UTC") (hfrequency : 1 ≤ p.frequency.size)
    (hbucket : 0 < p.bucketPeriod.total) (hsize : 1 ≤ p.windowSize) (hrange : InRange p interval) :
    ∃ (lo hi : Int) (n : Nat), p.align interval.start = .ok (atUtc lo) ∧
      p.align interval.finish = .ok (atUtc hi) ∧
      (n : Int) = max 0 ⌈((hi - lo : Int) : ℚ) / p.bucketPeriod.total⌉ ∧
      let windows := (List.range n).map fun i : Nat =>
        windowBehind p (lo + (i + 1) * p.bucketPeriod.total)
      WindowPlan.of p interval true = .moving windows ∧
        monitoringWindows p interval true = windows := by
  obtain ⟨hstartUtc, hfinishUtc⟩ := clock_bounds hinterval
  obtain ⟨anchors, hanchors⟩ := exists_of_in_range (fun _ => anchors_eq_error_of_advances hinterval
    (hutc ▸ zoneNamed_utc) regular_utc hfrequency (advances_utc hbucket)) hrange.anchors
  obtain ⟨start, finish, hstart, hfinish, hwalked⟩ := walked_of_anchors hanchors
  have hlo := align_atUtc hutc hstartUtc (inYears_of_align hstartUtc hstart) hfrequency
  have hhi := align_atUtc hutc hfinishUtc (inYears_of_align hfinishUtc hfinish) hfrequency
  obtain ⟨hlength, hsteps⟩ := steps_of_walked hbucket hwalked
    (Except.ok.inj (hstart.symm.trans hlo)) (Except.ok.inj (hfinish.symm.trans hhi))
  generalize anchors.length = n at hlength hsteps
  refine ⟨_, _, n, hlo, hhi, hlength, ?_⟩
  intro windows
  have hwindows : List.Forall₂ (fun anchor w => p.windowAt anchor = .ok w) anchors windows := by
    rw [hsteps, List.forall₂_map_left_iff, List.forall₂_map_right_iff, List.forall₂_same]
    intro i hi
    refine windowAt_atUtc hsize (hrange.bounds anchors hanchors _ ?_)
    rw [hsteps]
    exact List.mem_map_of_mem hi
  have hplan := plan_eq_moving_of_anchors hanchors hwindows
  refine ⟨hplan, ?_⟩
  rw [monitoringWindows, hplan]
  rfl

/-- Windows of an hour on an hourly dataset, ten minutes late. From one to the next it is a day less
21 hours and a half. -/
def longBuckets : WindowPolicy where
  timezone := "UTC"
  datasetUnit := .hours
  frequency := ⟨15, .minutes⟩
  bucketPeriod := { Period.zero with days := 1, hours := -21, minutes := -30 }
  windowUnit := .hours
  windowDelay := 10
  windowDelayUnit := .minutes

open scoped ZoneTable

set_option maxRecDepth 10000 in
/-- Buckets of two hours and a half do not divide the six hours between the aligned bounds, so a
third window goes past the end. -/
theorem longBuckets_windows :
    let interval : Interval := ⟨atMinute 100, atMinute 470⟩
    Interval.ofMoments (atMinute 100) (atMinute 470) = .ok interval ∧
    longBuckets.timezone = "UTC" ∧ 1 ≤ longBuckets.frequency.size ∧
    0 < longBuckets.bucketPeriod.total ∧ 1 ≤ longBuckets.windowSize ∧
    InRange longBuckets interval ∧
    ∃ (lo hi : Int) (n : Nat), longBuckets.align (atMinute 100) = .ok (atUtc lo) ∧
      longBuckets.align (atMinute 470) = .ok (atUtc hi) ∧
      (n : Int) = max 0 ⌈((hi - lo : Int) : ℚ) / longBuckets.bucketPeriod.total⌉ ∧
      let windows := (List.range n).map fun i : Nat =>
        windowBehind longBuckets (lo + (i + 1) * longBuckets.bucketPeriod.total)
      WindowPlan.of longBuckets interval true = .moving windows ∧
        monitoringWindows longBuckets interval true = windows := by
  intro interval
  have hinterval : Interval.ofMoments (atMinute 100) (atMinute 470) = .ok interval := rfl
  have hanchors : longBuckets.anchors interval =
      .ok [atUtc (210 * minute), atUtc (360 * minute), atUtc (510 * minute)] := rfl
  have hrange : InRange longBuckets interval := by
    refine inRange_of_anchors hanchors fun anchor hanchor => ?_
    simp only [List.mem_cons, List.not_mem_nil, or_false] at hanchor
    rcases hanchor with rfl | rfl | rfl <;> exact ⟨_, rfl⟩
  exact ⟨hinterval, rfl, by decide, by decide, by decide, hrange,
    windows_eq_formula hinterval rfl (by decide) (by decide) (by decide) hrange⟩

end AnomalyWindows.Proofs.WindowFormula
