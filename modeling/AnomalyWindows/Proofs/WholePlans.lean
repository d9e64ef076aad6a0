import AnomalyWindows.Calendar.ZoneTable
import AnomalyWindows.Proofs.FiniteWalks
import AnomalyWindows.Proofs.WatermarkProgress

namespace AnomalyWindows.Proofs.WholePlans

open Calendar
open AnomalyWindows.Proofs.CalendarMoves AnomalyWindows.Proofs.AnchorWalk
open AnomalyWindows.Proofs.ZoneReading AnomalyWindows.Proofs.ClockSteps
open AnomalyWindows.Proofs.FirstPass AnomalyWindows.Proofs.WalkEnds
open AnomalyWindows.Proofs.WindowPerAnchor AnomalyWindows.Proofs.WindowOrder
open AnomalyWindows.Proofs.WatermarkOrder AnomalyWindows.Proofs.WatermarkProgress
open AnomalyWindows.Proofs.DerivedPolicies AnomalyWindows.Proofs.FiniteWalks

section Zone

variable {z : Zone} (hz : Regular z)

theorem exists_shown_of_shift {p : Period} {sign instant : Int} {n : Moment}
    (h : p.shift sign (.onClock (.zone z) instant) = .ok n) :
    ∃ shown, n = .onClock (.zone z) shown := by
  obtain ⟨hlanding, hshown⟩ := shift_of_onZone (onZone_onClock z instant) h
  by_cases hparts : p.calendarDays ≠ 0 ∨ p.exact ≠ 0
  · obtain ⟨shown, -, rfl⟩ := hshown hparts
    exact ⟨shown, rfl⟩
  · obtain ⟨hdays, hexact⟩ := not_or.mp hparts
    refine ⟨instant, ?_⟩
    rw [hlanding, landing, if_pos (not_not.mp hexact), if_pos (not_not.mp hdays)]

include hz

/-- Days taken off a moment lead back in real time wherever they lead back on the wall clock. -/
theorem instant_daysAway_lt {days instant : Int}
    (hwall : (daysAway days (.onClock (.zone z) instant)).wall <
      (Moment.onClock (.zone z) instant).wall) :
    (daysAway days (.onClock (.zone z) instant)).instant < instant := by
  rw [daysAway, show (Moment.onClock (.zone z) instant).clock = .zone z from rfl] at hwall ⊢
  rw [instant_onClock hz]
  change (Moment.onClock (.zone z) (readAt z _ false)).wall < _ at hwall
  change readAt z _ false < instant
  -- a moment before a first pass shows an earlier wall time than the first pass does
  by_contra hlater
  rcases Int.le_iff_eq_or_lt.mp (Int.not_lt.mp hlater) with hsame | hbefore
  · rw [← hsame] at hwall
    exact Int.lt_irrefl _ hwall
  · exact Int.lt_irrefl _ (Int.lt_trans hwall (onClock_wall_lt_firstPass hz hbefore))

theorem instant_lt_of_windowAt {p : WindowPolicy} (hsize : 1 ≤ p.windowSize) {instant : Int}
    {w : Window} (h : p.windowAt (.onClock (.zone z) instant) = .ok w) :
    w.start.instant < w.finish.instant := by
  rw [windowAt_eq] at h
  obtain ⟨⟨start, finish⟩, hbounds, hw⟩ := bind_eq_ok_iff.mp h
  obtain ⟨hstart, hfinish⟩ := onZone_boundsAt (onZone_onClock z instant) hbounds
  obtain ⟨hwall, rfl⟩ := (ofMoments_eq_ok_iff hstart hfinish w).mp hw
  obtain ⟨finish', hdelayed, hbounds⟩ := bind_eq_ok_iff.mp hbounds
  obtain ⟨start', hsized, hbounds⟩ := bind_eq_ok_iff.mp hbounds
  cases hbounds
  obtain ⟨shown, rfl⟩ := exists_shown_of_shift hdelayed
  have hlanding := (shift_of_onZone hfinish hsized).1
  by_cases hunit : p.windowUnit = .days
  · rw [WindowPolicy.windowSizePeriod, hunit, landing_of_days (by omega)] at hlanding
    rw [hlanding] at hwall ⊢
    rw [instant_onClock hz]
    exact instant_daysAway_lt hz hwall
  · have hdays := calendarDays_of_ne_days hunit p.windowSize
    have htotal := total_of_pos hsize p.windowUnit
    rw [Period.total, hdays, Int.zero_mul, Int.zero_add] at htotal
    rw [hlanding, WindowPolicy.windowSizePeriod, instant_landing_of_exact hz hdays hfinish]
    dsimp only
    omega

end Zone

theorem isBefore_of_windowAt {p : WindowPolicy} {anchor : Moment} {w : Window}
    (h : p.windowAt anchor = .ok w) : w.start.isBefore? w.finish = some true := by
  rw [windowAt_eq] at h
  obtain ⟨bounds, -, hw⟩ := bind_eq_ok_iff.mp h
  rw [Window.ofMoments] at hw
  split at hw
  · next hbefore =>
      obtain rfl := Except.ok.inj hw
      exact hbefore
  · cases hw
  · cases hw

theorem isBefore_covering {a b : Moment} {interval : Interval}
    (h : Interval.ofMoments a b = .ok interval) :
    interval.start.isBefore? interval.finish = some true := by
  obtain ⟨hstart, hfinish⟩ := clock_bounds h
  rw [Moment.isBefore?, isNaive_of_utc hstart, isNaive_of_utc hfinish, hstart, hfinish]
  simpa [Clock.same, Clock.utc] using (interval_eq_ok_iff.mp h).2.2

/-- The walk of the window ends over an interval, if it is begun at all, comes to an end. -/
def WalkComesToEnd [ZoneDatabase] (p : WindowPolicy) (interval : Interval) : Prop :=
  Spans p.bucketPeriod.total → 0 < p.bucketPeriod.total →
    ∀ start finish, p.align interval.start = .ok start → p.align interval.finish = .ok finish →
      ∃ steps outcome, Ends p.bucketPeriod finish start steps outcome

/-- The anchors of an interval cannot be found, or the window of one of them cannot be had. -/
def Unsplit [ZoneDatabase] (p : WindowPolicy) (interval : Interval) : Prop :=
  (∃ fault, p.anchors interval = .error fault) ∨
    ∃ anchors, p.anchors interval = .ok anchors ∧
      ∃ anchor ∈ anchors, ∃ fault, p.windowAt anchor = .error fault

theorem walkComesToEnd_of_derive [ZoneDatabase] {a b : Moment} {interval : Interval}
    (hinterval : Interval.ofMoments a b = .ok interval) {d : Detection} {dataset : Dataset}
    {s : Scheduling} {p : WindowPolicy} {replaced : Option WindowPolicy.SpeedUp}
    (hderive : WindowPolicy.derive d dataset interval s = .ok (p, replaced))
    (hregular : NamesRegular p.timezone) : WalkComesToEnd p interval := by
  intro _ hpos start finish hstart _
  obtain ⟨z, hzone⟩ := exists_zone_of_align hstart
  have hz := hregular z hzone
  exact exists_ends hz (advances_of_forward hz (forward_of_derive hderive hpos)) finish
    (onZone_align hzone (clock_bounds hinterval).1 hstart)

theorem outcome_ne_endless [ZoneDatabase] {z : Zone} {bucket : Period} {finish place : Moment}
    {steps : List Moment} {outcome : Except Fault Unit} (hplace : OnZone z place)
    (h : Ends bucket finish place steps outcome) : outcome ≠ .error .endlessWalk := by
  induction h with
  | arrived | unclear => rintro ⟨⟩
  | stuck place fault hbefore hstep =>
      rintro ⟨⟩
      cases shift_eq_error hplace hstep
  | step place next rest outcome hbefore hstep hrest ih => exact ih (onZone_shift hplace hstep)

section Plan

variable [ZoneDatabase] {a b : Moment} {interval : Interval}
  (hinterval : Interval.ofMoments a b = .ok interval) {p : WindowPolicy}
  (hends : WalkComesToEnd p interval)
include hinterval hends

theorem anchors_ne_endless_of_ends : p.anchors interval ≠ .error .endlessWalk := by
  intro h
  obtain ⟨hstartUtc, hfinishUtc⟩ := clock_bounds hinterval
  rcases anchors_cases p interval with ⟨-, hfails⟩ | ⟨-, hfails⟩ | ⟨fault, halign, hfails⟩ |
    ⟨hspans, hpos, start, finish, hstart, hfinish⟩
  · cases h.symm.trans hfails
  · cases h.symm.trans hfails
  · obtain rfl := Except.error.inj (h.symm.trans hfails)
    rcases halign with halign | halign
    · exact align_ne_endless hfinishUtc halign
    · exact align_ne_endless hstartUtc halign
  · obtain ⟨z, hzone⟩ := exists_zone_of_align hstart
    have honZone := onZone_align hzone hstartUtc hstart
    obtain ⟨steps, outcome, hwalk⟩ := hends hspans hpos start finish hstart hfinish
    rw [anchors_of_ends hspans hpos hstart hfinish honZone hwalk] at h
    cases outcome with
    | ok _ => cases h
    | error fault =>
        exact outcome_ne_endless honZone hwalk (congrArg Except.error (by cases h; rfl))

theorem exists_shown_of_anchors {anchors : List Moment}
    (h : p.anchors interval = .ok anchors) :
    ∃ z, zoneNamed p.timezone = .ok z ∧
      ∀ anchor ∈ anchors, ∃ instant, anchor = .onClock (.zone z) instant := by
  obtain ⟨⟨hspans, hpos⟩, start, finish, hstart, hfinish, -⟩ := anchors_eq_ok_iff.mp h
  obtain ⟨z, hzone⟩ := exists_zone_of_align hstart
  have honZone := onZone_align hzone (clock_bounds hinterval).1 hstart
  obtain ⟨steps, outcome, hwalk⟩ := hends hspans hpos start finish hstart hfinish
  rw [anchors_of_ends hspans hpos hstart hfinish honZone hwalk] at h
  refine ⟨z, hzone, fun anchor hanchor => ?_⟩
  cases outcome with
  | ok _ =>
      obtain rfl := Except.ok.inj h
      obtain ⟨instant, -, hshown⟩ :=
        shown_of_ends (parts_of_total_ne_zero (Int.ne_of_gt hpos)) honZone hwalk anchor hanchor
      exact ⟨instant, hshown⟩
  | error fault => cases h

end Plan

theorem monitoringWindows_of_error [ZoneDatabase] {p : WindowPolicy} {interval : Interval}
    {fault : Fault}
    (h : p.movingWindows interval = .error fault) :
    monitoringWindows p interval true = [Window.covering interval] := by
  rw [monitoringWindows, WindowPlan.of, if_pos rfl, h]
  rfl

theorem monitoringWindows_of_ok [ZoneDatabase] {p : WindowPolicy} {interval : Interval}
    {windows : List Window}
    (h : p.movingWindows interval = .ok windows) :
    monitoringWindows p interval true = windows := by
  rw [monitoringWindows, WindowPlan.of, if_pos rfl, h]
  rfl

theorem movingWindows_eq_ok_iff [ZoneDatabase] {p : WindowPolicy} {interval : Interval}
    {windows : List Window} :
    p.movingWindows interval = .ok windows ↔ ∃ anchors, p.anchors interval = .ok anchors ∧
      List.Forall₂ (fun anchor w => p.windowAt anchor = .ok w) anchors windows := by
  rw [WindowPolicy.movingWindows, bind_eq_ok_iff]
  exact exists_congr fun anchors => and_congr_right fun _ => mapM_eq_ok_iff _ _ _

theorem unsplit_iff [ZoneDatabase] (p : WindowPolicy) (interval : Interval) :
    Unsplit p interval ↔ ∃ fault, p.movingWindows interval = .error fault := by
  constructor
  · intro h
    cases hmoving : p.movingWindows interval with
    | error fault => exact ⟨fault, rfl⟩
    | ok windows =>
        -- then there is a window for every anchor, and nothing has failed
        obtain ⟨anchors, hanchors, hwindows⟩ := movingWindows_eq_ok_iff.mp hmoving
        rcases h with ⟨fault, hfails⟩ | ⟨found, hfound, anchor, hanchor, fault, hfails⟩
        · cases hanchors.symm.trans hfails
        · obtain rfl := Except.ok.inj (hanchors.symm.trans hfound)
          obtain ⟨w, hw⟩ := (exists_forall₂_iff _ anchors).mp ⟨windows, hwindows⟩ anchor hanchor
          cases hw.symm.trans hfails
  · rintro ⟨fault, h⟩
    rcases bind_eq_error_iff.mp h with h | ⟨anchors, hanchors, h⟩
    · exact .inl ⟨fault, h⟩
    · obtain ⟨anchor, hanchor, hfails⟩ := exists_of_mapM_eq_error h
      exact .inr ⟨anchors, hanchors, anchor, hanchor, fault, hfails⟩

theorem monitoringWindows_cases [ZoneDatabase] (p : WindowPolicy) (interval : Interval)
    (moving : Bool) :
    (moving = true ∧ p.movingWindows interval = .ok (monitoringWindows p interval moving)) ∨
      monitoringWindows p interval moving = [Window.covering interval] := by
  cases moving with
  | false => exact .inr rfl
  | true =>
      cases h : p.movingWindows interval with
      | ok windows => exact .inl ⟨rfl, by rw [monitoringWindows_of_ok h]⟩
      | error fault => exact .inr (monitoringWindows_of_error h)

/-- A plan whose walk comes to its end is whole: it has one window for each anchor, in their order,
or else the interval as its only window, and that whenever moving windows are off or any part of the
search for them fails. No window of it is empty on its clock, nor in real time where windows have a
positive size and the zone is regular, and no plan is given up for want of steps. -/
theorem monitoringWindows_whole [ZoneDatabase] {a b : Moment} {interval : Interval}
    (hinterval : Interval.ofMoments a b = .ok interval) (p : WindowPolicy)
    (hends : WalkComesToEnd p interval) (moving : Bool) :
    (∀ w ∈ monitoringWindows p interval moving, w.start.isBefore? w.finish = some true ∧
        (NamesRegular p.timezone → 1 ≤ p.windowSize → w.start.instant < w.finish.instant)) ∧
      (moving = true → ¬ Unsplit p interval → ∃ anchors, p.anchors interval = .ok anchors ∧
        List.Forall₂ (fun anchor w => p.windowAt anchor = .ok w) anchors
          (monitoringWindows p interval moving)) ∧
      (moving = false ∨ Unsplit p interval →
        monitoringWindows p interval moving = [Window.covering interval]) ∧
      WindowPlan.of p interval moving ≠ .fallback .endlessWalk := by
  have hendless := plan_ne_endless_of_anchors hinterval
    (anchors_ne_endless_of_ends hinterval hends) moving
  refine ⟨fun w hw => ?_, ?_, ?_, hendless⟩
  · rcases monitoringWindows_cases p interval moving with ⟨rfl, hmoving⟩ | hcovering
    · obtain ⟨anchors, hanchors, hwindows⟩ := movingWindows_eq_ok_iff.mp hmoving
      obtain ⟨z, hzone, hshown⟩ := exists_shown_of_anchors hinterval hends hanchors
      have hboth := (List.forall₂_and_left _ _).mpr ⟨hshown, hwindows⟩
      obtain ⟨_, ⟨instant, rfl⟩, hwindow⟩ :=
        (exists_forall₂_iff _ _).mp ⟨anchors, hboth.flip⟩ w hw
      exact ⟨isBefore_of_windowAt hwindow, fun hregular hsize =>
        instant_lt_of_windowAt (hregular z hzone) hsize hwindow⟩
    · rw [hcovering, List.mem_singleton] at hw
      subst hw
      exact ⟨isBefore_covering hinterval, fun _ _ => instant_lt_of_ofMoments hinterval⟩
  · rintro rfl hsplit
    cases h : p.movingWindows interval with
    | ok windows =>
        rw [monitoringWindows_of_ok h]
        exact movingWindows_eq_ok_iff.mp h
    | error fault => exact absurd ((unsplit_iff p interval).mpr ⟨fault, h⟩) hsplit
  · rintro (rfl | hunsplit)
    · rfl
    · obtain ⟨fault, h⟩ := (unsplit_iff p interval).mp hunsplit
      cases moving with
      | false => rfl
      | true => exact monitoringWindows_of_error h

/-- Windows of an hour in New York, whose ends go on by a day and back by 23 hours. -/
def backAndForth : WindowPolicy :=
  { newYorkHours with bucketPeriod := ⟨0, 1, -23, 0, 0, 0⟩ }

open scoped ZoneTable

set_option maxRecDepth 10000 in
theorem backAndForth_ends :
    Ends backAndForth.bucketPeriod (onSetBackDay 3 false) (onSetBackDay 0 false)
      [onSetBackDay 1 true, onSetBackDay 2 false, onSetBackDay 3 false] (.ok ()) :=
  .step _ _ _ _ rfl rfl (.step _ _ _ _ rfl rfl (.step _ _ _ _ rfl rfl (.arrived _ rfl)))

set_option maxRecDepth 10000 in
/-- The first of three windows cannot be had, for it ends with the repeated hour and the clock reads
the same at both its ends; so there is just the interval. -/
theorem backAndForth_whole :
    let interval : Interval := ⟨hourOfSetBack 4, hourOfSetBack 8⟩
    Interval.ofMoments (hourOfSetBack 4) (hourOfSetBack 8) = .ok interval ∧
    WalkComesToEnd backAndForth interval ∧
    backAndForth.anchors interval =
      .ok [onSetBackDay 1 true, onSetBackDay 2 false, onSetBackDay 3 false] ∧
    Unsplit backAndForth interval ∧
    monitoringWindows backAndForth interval true = [Window.covering interval] ∧
    WindowPlan.of backAndForth interval true ≠ .fallback .endlessWalk := by
  intro interval
  have hinterval : Interval.ofMoments (hourOfSetBack 4) (hourOfSetBack 8) = .ok interval := rfl
  have hstart : backAndForth.align (hourOfSetBack 4) = .ok (onSetBackDay 0 false) := rfl
  have hfinish : backAndForth.align (hourOfSetBack 8) = .ok (onSetBackDay 3 false) := rfl
  have hends : WalkComesToEnd backAndForth interval := by
    intro _ _ start finish hstart' hfinish'
    obtain rfl := Except.ok.inj (hstart.symm.trans hstart')
    obtain rfl := Except.ok.inj (hfinish.symm.trans hfinish')
    exact ⟨_, _, backAndForth_ends⟩
  have hanchors : backAndForth.anchors interval =
      .ok [onSetBackDay 1 true, onSetBackDay 2 false, onSetBackDay 3 false] :=
    anchors_of_ends (by decide) (by decide) hstart hfinish
      (rfl : OnZone ZoneTable.newYork (onSetBackDay 0 false)) backAndForth_ends
  have hunsplit : Unsplit backAndForth interval :=
    .inr ⟨_, hanchors, onSetBackDay 1 true, List.mem_cons_self .., _, rfl⟩
  obtain ⟨-, -, hcovering, hendless⟩ := monitoringWindows_whole hinterval backAndForth hends true
  exact ⟨hinterval, hends, hanchors, hunsplit, hcovering (.inr hunsplit), hendless⟩

end AnomalyWindows.Proofs.WholePlans
