import AnomalyWindows.Calendar.ZoneTable
import AnomalyWindows.Proofs.WalkEnds

/-!
One window for each anchor. Whether an interval is split at all hangs on every single anchor: its
window must not look empty on the clock of the zone.
-/

namespace AnomalyWindows.Proofs.WindowPerAnchor

open Calendar
open AnomalyWindows.Proofs.CalendarMoves AnomalyWindows.Proofs.AnchorWalk
open AnomalyWindows.Proofs.ZoneReading AnomalyWindows.Proofs.ClockSteps
open AnomalyWindows.Proofs.WalkEnds

def boundsAt (p : WindowPolicy) (anchor : Moment) : Except Fault (Moment × Moment) := do
  let finish ← p.windowDelayPeriod.subtractFrom anchor
  let start ← p.windowSizePeriod.subtractFrom finish
  return (start, finish)

theorem windowAt_eq (p : WindowPolicy) (anchor : Moment) :
    p.windowAt anchor = boundsAt p anchor >>= fun bounds =>
      Window.ofMoments bounds.1 bounds.2 := by
  rw [WindowPolicy.windowAt, boundsAt]
  simp only [bind_assoc, pure_bind]

theorem onZone_boundsAt {z : Zone} {p : WindowPolicy} {anchor start finish : Moment}
    (hanchor : OnZone z anchor) (h : boundsAt p anchor = .ok (start, finish)) :
    OnZone z start ∧ OnZone z finish := by
  obtain ⟨finish', hfinish, h⟩ := bind_eq_ok_iff.mp h
  obtain ⟨start', hstart, h⟩ := bind_eq_ok_iff.mp h
  cases h
  have hfinish := onZone_shift hanchor hfinish
  exact ⟨onZone_shift hfinish hstart, hfinish⟩

theorem boundsAt_eq_error {z : Zone} {p : WindowPolicy} {anchor : Moment} {fault : Fault}
    (hanchor : OnZone z anchor) (h : boundsAt p anchor = .error fault) : fault = .outOfRange := by
  rcases bind_eq_error_iff.mp h with h | ⟨finish, hfinish, h⟩
  · exact shift_eq_error hanchor h
  rcases bind_eq_error_iff.mp h with h | ⟨start, -, h⟩
  · exact shift_eq_error (onZone_shift hanchor hfinish) h
  · cases h

theorem ofMoments_eq_ok_iff {z : Zone} {start finish : Moment} (hstart : OnZone z start)
    (hfinish : OnZone z finish) (w : Window) :
    Window.ofMoments start finish = .ok w ↔ start.wall < finish.wall ∧ ⟨start, finish⟩ = w := by
  rw [Window.ofMoments, isBefore?_of_onZone hstart hfinish]
  by_cases hlt : start.wall < finish.wall
  · rw [decide_eq_true hlt]
    simp [hlt]
  · rw [decide_eq_false hlt]
    simp [hlt]

theorem exists_windowAt_iff {z : Zone} {p : WindowPolicy} {anchor : Moment}
    (hanchor : OnZone z anchor) :
    (∃ w, p.windowAt anchor = .ok w) ↔
      ∃ start finish, boundsAt p anchor = .ok (start, finish) ∧
        setBack start finish < finish.instant - start.instant := by
  constructor
  · rintro ⟨w, hw⟩
    rw [windowAt_eq] at hw
    obtain ⟨⟨start, finish⟩, hbounds, hw⟩ := bind_eq_ok_iff.mp hw
    obtain ⟨hstart, hfinish⟩ := onZone_boundsAt hanchor hbounds
    exact ⟨start, finish, hbounds,
      (wall_lt_iff start finish).mp ((ofMoments_eq_ok_iff hstart hfinish w).mp hw).1⟩
  · rintro ⟨start, finish, hbounds, htime⟩
    obtain ⟨hstart, hfinish⟩ := onZone_boundsAt hanchor hbounds
    refine ⟨⟨start, finish⟩, ?_⟩
    rw [windowAt_eq, hbounds]
    exact (ofMoments_eq_ok_iff hstart hfinish _).mpr ⟨(wall_lt_iff start finish).mpr htime, rfl⟩

theorem realTime_of_exact_size {z : Zone} (hz : Regular z) {p : WindowPolicy}
    {anchor start finish : Moment} (hanchor : OnZone z anchor)
    (hexact : p.windowSizePeriod.calendarDays = 0)
    (h : boundsAt p anchor = .ok (start, finish)) :
    finish.instant - start.instant = p.windowSizePeriod.exact := by
  obtain ⟨finish', hfinish, h⟩ := bind_eq_ok_iff.mp h
  obtain ⟨start', hstart, h⟩ := bind_eq_ok_iff.mp h
  cases h
  have honZone := onZone_shift hanchor hfinish
  rw [(shift_of_onZone honZone hstart).1, instant_landing_of_exact hz hexact honZone]
  omega

theorem mapM_eq_ok_iff {α β : Type} (f : α → Except Fault β) (xs : List α) (ys : List β) :
    xs.mapM f = .ok ys ↔ List.Forall₂ (fun x y => f x = .ok y) xs ys := by
  induction xs generalizing ys with
  | nil =>
      rw [List.mapM_nil, List.forall₂_nil_left_iff]
      exact ⟨fun h => (Except.ok.inj h).symm, fun h => h ▸ rfl⟩
  | cons x xs ih =>
      rw [List.mapM_cons, List.forall₂_cons_left_iff, bind_eq_ok_iff]
      constructor
      · rintro ⟨y, hy, h⟩
        obtain ⟨rest, hrest, h⟩ := bind_eq_ok_iff.mp h
        exact ⟨y, rest, hy, (ih rest).mp hrest, (Except.ok.inj h).symm⟩
      · rintro ⟨y, rest, hy, hrest, rfl⟩
        exact ⟨y, hy, bind_eq_ok_iff.mpr ⟨rest, (ih rest).mpr hrest, rfl⟩⟩

theorem exists_forall₂_iff {α β : Type} (R : α → β → Prop) (xs : List α) :
    (∃ ys, List.Forall₂ R xs ys) ↔ ∀ x ∈ xs, ∃ y, R x y := by
  induction xs with
  | nil => simp
  | cons x xs ih =>
      rw [List.forall_mem_cons, ← ih]
      constructor
      · rintro ⟨ys, hys⟩
        obtain ⟨y, rest, hy, hrest, rfl⟩ := List.forall₂_cons_left_iff.mp hys
        exact ⟨⟨y, hy⟩, rest, hrest⟩
      · rintro ⟨⟨y, hy⟩, rest, hrest⟩
        exact ⟨y :: rest, .cons hy hrest⟩

theorem plan_eq_moving_iff [ZoneDatabase] (p : WindowPolicy) (interval : Interval)
    (windows : List Window) :
    WindowPlan.of p interval true = .moving windows ↔ p.movingWindows interval = .ok windows := by
  rw [WindowPlan.of, if_pos rfl]
  cases p.movingWindows interval with
  | ok found => exact ⟨fun h => congrArg Except.ok (WindowPlan.moving.inj h),
      fun h => congrArg WindowPlan.moving (Except.ok.inj h)⟩
  | error fault =>
      constructor <;> rintro ⟨⟩

theorem plan_eq_moving_of_anchors [ZoneDatabase] {p : WindowPolicy} {interval : Interval}
    {anchors : List Moment} {windows : List Window} (hanchors : p.anchors interval = .ok anchors)
    (hwindows : List.Forall₂ (fun anchor w => p.windowAt anchor = .ok w) anchors windows) :
    WindowPlan.of p interval true = .moving windows := by
  rw [plan_eq_moving_iff, WindowPolicy.movingWindows, hanchors]
  exact (mapM_eq_ok_iff _ _ _).mpr hwindows

/-- No date that the windows of an interval are made of leaves the bounds of the calendar. -/
structure InRange [ZoneDatabase] (p : WindowPolicy) (interval : Interval) : Prop where
  anchors : p.anchors interval ≠ .error .outOfRange
  bounds : ∀ anchors, p.anchors interval = .ok anchors →
    ∀ a ∈ anchors, boundsAt p a ≠ .error .outOfRange

/-- In range the anchors of an interval are found, and it is split into one window for each of them
exactly when between the bounds of every window more real time passes than the clock is set back. -/
theorem window_per_anchor_iff [ZoneDatabase] {a b : Moment} {interval : Interval}
    (hinterval : Interval.ofMoments a b = .ok interval) {p : WindowPolicy} {z : Zone}
    (hzone : zoneNamed p.timezone = .ok z) (hz : Regular z) (hsize : 1 ≤ p.frequency.size)
    (hbucket : Forward p.bucketPeriod) (hrange : InRange p interval) :
    ∃ anchors, p.anchors interval = .ok anchors ∧
      ((∃ windows, WindowPlan.of p interval true = .moving windows ∧
          monitoringWindows p interval true = windows ∧
          List.Forall₂ (fun anchor w => p.windowAt anchor = .ok w) anchors windows) ↔
        ∀ anchor ∈ anchors, ∀ start finish, boundsAt p anchor = .ok (start, finish) →
          setBack start finish < finish.instant - start.instant) := by
  cases hanchors : p.anchors interval with
  | error fault =>
      exact absurd (hanchors.trans (congrArg Except.error
        (anchors_eq_error hinterval hzone hz hsize hbucket hanchors))) hrange.anchors
  | ok anchors =>
      refine ⟨anchors, rfl, ?_⟩
      obtain ⟨start, finish, hstart, -, hwalked⟩ := walked_of_anchors hanchors
      have honZone := onZone_of_walked
        (onZone_align hzone (clock_bounds hinterval).1 hstart) hwalked
      have hwindows (windows : List Window) :
          WindowPlan.of p interval true = .moving windows ↔
            List.Forall₂ (fun anchor w => p.windowAt anchor = .ok w) anchors windows := by
        rw [plan_eq_moving_iff, WindowPolicy.movingWindows, hanchors, ← mapM_eq_ok_iff]
        rfl
      constructor
      · rintro ⟨windows, -, -, hforall⟩ anchor hanchor start finish hbounds
        have hwindow := (exists_forall₂_iff _ anchors).mp ⟨windows, hforall⟩ anchor hanchor
        obtain ⟨start', finish', hbounds', htime⟩ :=
          (exists_windowAt_iff (honZone anchor hanchor)).mp hwindow
        cases hbounds.symm.trans hbounds'
        exact htime
      · intro htimes
        have hall : ∀ anchor ∈ anchors, ∃ w, p.windowAt anchor = .ok w := by
          intro anchor hanchor
          rw [exists_windowAt_iff (honZone anchor hanchor)]
          cases hbounds : boundsAt p anchor with
          | error fault =>
              have hfault := boundsAt_eq_error (honZone anchor hanchor) hbounds
              exact absurd (hbounds.trans (congrArg Except.error hfault))
                (hrange.bounds anchors hanchors anchor hanchor)
          | ok bounds =>
              exact ⟨bounds.1, bounds.2, rfl,
                htimes anchor hanchor bounds.1 bounds.2 hbounds⟩
        obtain ⟨windows, hforall⟩ := (exists_forall₂_iff _ anchors).mpr hall
        have hplan := (hwindows windows).mpr hforall
        exact ⟨windows, hplan, by rw [monitoringWindows, hplan]; rfl, hforall⟩

theorem inRange_of_anchors [ZoneDatabase] {p : WindowPolicy} {interval : Interval}
    {anchors : List Moment}
    (hanchors : p.anchors interval = .ok anchors)
    (hbounds : ∀ anchor ∈ anchors, ∃ bounds, boundsAt p anchor = .ok bounds) :
    InRange p interval where
  anchors := by
    rw [hanchors]
    rintro ⟨⟩
  bounds := by
    intro found hfound anchor hanchor
    cases hanchors.symm.trans hfound
    obtain ⟨bounds, hbounds⟩ := hbounds anchor hanchor
    rw [hbounds]
    rintro ⟨⟩

def newYorkHours : WindowPolicy :=
  { newYorkHourly with windowUnit := .hours }

open scoped ZoneTable

set_option maxRecDepth 10000 in
theorem window_per_anchor_behind_setBack :
    Interval.ofMoments (hourOfSetBack 6) (hourOfSetBack 8) =
      .ok ⟨hourOfSetBack 6, hourOfSetBack 8⟩ ∧
    zoneNamed newYorkHours.timezone = .ok ZoneTable.newYork ∧ Regular ZoneTable.newYork ∧
    1 ≤ newYorkHours.frequency.size ∧ Forward newYorkHours.bucketPeriod ∧
    InRange newYorkHours ⟨hourOfSetBack 6, hourOfSetBack 8⟩ ∧
    ∃ anchors, newYorkHours.anchors ⟨hourOfSetBack 6, hourOfSetBack 8⟩ = .ok anchors ∧
      ((∃ windows, WindowPlan.of newYorkHours ⟨hourOfSetBack 6, hourOfSetBack 8⟩ true =
            .moving windows ∧
          monitoringWindows newYorkHours ⟨hourOfSetBack 6, hourOfSetBack 8⟩ true = windows ∧
          List.Forall₂ (fun anchor w => newYorkHours.windowAt anchor = .ok w) anchors windows) ↔
        ∀ anchor ∈ anchors, ∀ start finish,
          boundsAt newYorkHours anchor = .ok (start, finish) →
            setBack start finish < finish.instant - start.instant) := by
  have hinterval : Interval.ofMoments (hourOfSetBack 6) (hourOfSetBack 8) =
      .ok ⟨hourOfSetBack 6, hourOfSetBack 8⟩ := rfl
  have hbucket : Forward newYorkHours.bucketPeriod := by
    constructor <;> decide
  have hanchors : newYorkHours.anchors ⟨hourOfSetBack 6, hourOfSetBack 8⟩ =
      .ok [onSetBackDay 2 false, onSetBackDay 3 false] := rfl
  have hrange : InRange newYorkHours ⟨hourOfSetBack 6, hourOfSetBack 8⟩ := by
    refine inRange_of_anchors hanchors fun anchor hanchor => ?_
    rcases List.mem_pair.mp hanchor with rfl | rfl
    · exact ⟨(onSetBackDay 1 true, onSetBackDay 2 false), rfl⟩
    · exact ⟨(onSetBackDay 2 false, onSetBackDay 3 false), rfl⟩
  exact ⟨hinterval, rfl, regular_newYork, by decide, hbucket, hrange,
    window_per_anchor_iff hinterval rfl regular_newYork (by decide) hbucket hrange⟩

set_option maxRecDepth 10000 in
/-- The hour that ends with the change looks empty, for the clock reads the same at both its ends,
and takes the window of the next hour with it. -/
theorem setBack_falls_back :
    Interval.ofMoments (hourOfSetBack 5) (hourOfSetBack 7) =
      .ok ⟨hourOfSetBack 5, hourOfSetBack 7⟩ ∧
    zoneNamed newYorkHours.timezone = .ok ZoneTable.newYork ∧
    1 ≤ newYorkHours.frequency.size ∧ Forward newYorkHours.bucketPeriod ∧
    1 ≤ newYorkHours.windowSize ∧ 0 ≤ newYorkHours.windowDelay ∧
    InRange newYorkHours ⟨hourOfSetBack 5, hourOfSetBack 7⟩ ∧
    newYorkHours.anchors ⟨hourOfSetBack 5, hourOfSetBack 7⟩ =
      .ok [onSetBackDay 1 true, onSetBackDay 2 false] ∧
    newYorkHours.windowAt (onSetBackDay 2 false) =
      .ok ⟨onSetBackDay 1 true, onSetBackDay 2 false⟩ ∧
    WindowPlan.of newYorkHours ⟨hourOfSetBack 5, hourOfSetBack 7⟩ true =
      .fallback (.emptyWindow (onSetBackDay 1 false) (onSetBackDay 1 true)) ∧
    monitoringWindows newYorkHours ⟨hourOfSetBack 5, hourOfSetBack 7⟩ true =
      [Window.covering ⟨hourOfSetBack 5, hourOfSetBack 7⟩] := by
  have hanchors : newYorkHours.anchors ⟨hourOfSetBack 5, hourOfSetBack 7⟩ =
      .ok [onSetBackDay 1 true, onSetBackDay 2 false] := rfl
  have hrange : InRange newYorkHours ⟨hourOfSetBack 5, hourOfSetBack 7⟩ := by
    refine inRange_of_anchors hanchors fun anchor hanchor => ?_
    rcases List.mem_pair.mp hanchor with rfl | rfl
    · exact ⟨(onSetBackDay 1 false, onSetBackDay 1 true), rfl⟩
    · exact ⟨(onSetBackDay 1 true, onSetBackDay 2 false), rfl⟩
  refine ⟨rfl, rfl, by decide, ?_, by decide, by decide, hrange, hanchors, rfl, rfl, rfl⟩
  constructor <;> decide

end AnomalyWindows.Proofs.WindowPerAnchor
