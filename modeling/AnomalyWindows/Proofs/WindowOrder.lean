import AnomalyWindows.Calendar.ZoneTable
import AnomalyWindows.Proofs.WatermarkOrder
import AnomalyWindows.Proofs.WindowPerAnchor

namespace AnomalyWindows.Proofs.WindowOrder

open Calendar
open AnomalyWindows.Proofs.CalendarMoves AnomalyWindows.Proofs.AnchorWalk
open AnomalyWindows.Proofs.ZoneReading AnomalyWindows.Proofs.ClockSteps
open AnomalyWindows.Proofs.WalkEnds AnomalyWindows.Proofs.WindowPerAnchor
open AnomalyWindows.Proofs.WatermarkOrder

/-- Neither starts nor ends of windows go back in real time. -/
def Chronological (windows : List Window) : Prop :=
  windows.IsChain fun w next =>
    w.start.instant ≤ next.start.instant ∧ w.finish.instant ≤ next.finish.instant

/-- Taking some units off two moments keeps their order: always for exact units and for none at all;
for days if the clock is not set back between the moments, and their ends not moved past a gap, by
more than the time between them. -/
def KeepsOrder (amount : Int) (unit : TimeUnit) (m m' : Moment) : Prop :=
  unit = .days → amount ≠ 0 →
    setBack m m' + skipped (-amount) m ≤ m'.instant - m.instant + skipped (-amount) m'

section Order

variable {z : Zone} (hz : Regular z)
include hz

theorem landing_back_le_iff {m m' : Moment} (hm : OnZone z m) (hm' : OnZone z m')
    (hle : m.instant ≤ m'.instant) (amount : Int) (unit : TimeUnit) :
    (landing (.of amount unit) (-1) m).instant ≤ (landing (.of amount unit) (-1) m').instant ↔
      KeepsOrder amount unit m m' := by
  by_cases hexact : (Period.of amount unit).calendarDays = 0
  · rw [instant_landing_of_exact hz hexact hm, instant_landing_of_exact hz hexact hm']
    refine iff_of_true (Int.add_le_add_right hle _) ?_
    rintro rfl hsome
    exact absurd (by simpa [Period.of, Period.calendarDays, Period.zero] using hexact) hsome
  · obtain rfl : unit = .days := by
      by_contra hunit
      exact hexact (calendarDays_of_ne_days hunit amount)
    have hsome : amount ≠ 0 := by
      rintro rfl
      exact hexact rfl
    rw [landing_of_days hsome, landing_of_days hsome, daysAway_le_iff hz hm hm', Int.neg_one_mul]
    exact ⟨fun h _ _ => h, fun h => h rfl hsome⟩

theorem isChain_of_walked_shown {bucket : Period} (hbucket : Advances z bucket)
    {finish place : Moment} {places : List Moment} (h : Walked bucket finish place places)
    {instant : Int} (hshown : place = .onClock (.zone z) instant) :
    (place :: places).IsChain fun m m' => m.instant < m'.instant := by
  induction h generalizing instant with
  | arrived place harrived => exact List.isChain_singleton _
  | step place next rest hbefore hstep hrest ih =>
      subst hshown
      obtain ⟨hlanding, hsome⟩ := shift_of_onZone (onZone_onClock z instant) hstep
      obtain ⟨instant', -, hnext⟩ := hsome hbucket.parts
      refine List.isChain_cons_cons.mpr ⟨?_, ih hnext⟩
      rw [hlanding, instant_onClock hz]
      exact hbucket.forward instant

theorem isChain_of_walked {bucket : Period} (hbucket : Advances z bucket) {finish place : Moment}
    {places : List Moment} (hplace : OnZone z place) (h : Walked bucket finish place places) :
    places.IsChain fun m m' => m.instant < m'.instant := by
  cases h with
  | arrived => exact List.isChain_nil
  | step _ next rest hbefore hstep hrest =>
      obtain ⟨-, hsome⟩ := shift_of_onZone hplace hstep
      obtain ⟨instant, -, hnext⟩ := hsome hbucket.parts
      exact isChain_of_walked_shown hz hbucket hrest hnext

omit hz in
theorem bounds_of_windowAt {p : WindowPolicy} {anchor : Moment} {w : Window}
    (hanchor : OnZone z anchor) (h : p.windowAt anchor = .ok w) :
    OnZone z w.finish ∧ w.finish = landing p.windowDelayPeriod (-1) anchor ∧
      w.start = landing p.windowSizePeriod (-1) w.finish := by
  rw [windowAt_eq] at h
  obtain ⟨⟨start, finish⟩, hbounds, hw⟩ := bind_eq_ok_iff.mp h
  obtain ⟨hstart, hfinish⟩ := onZone_boundsAt hanchor hbounds
  obtain ⟨-, rfl⟩ := (ofMoments_eq_ok_iff hstart hfinish w).mp hw
  obtain ⟨finish', hdelayed, hbounds⟩ := bind_eq_ok_iff.mp hbounds
  obtain ⟨start', hsized, hbounds⟩ := bind_eq_ok_iff.mp hbounds
  cases hbounds
  exact ⟨hfinish, (shift_of_onZone hanchor hdelayed).1, (shift_of_onZone hfinish hsized).1⟩

theorem window_le_iff {p : WindowPolicy} {anchor anchor' : Moment} {w w' : Window}
    (hanchor : OnZone z anchor) (hanchor' : OnZone z anchor')
    (hlt : anchor.instant < anchor'.instant) (hw : p.windowAt anchor = .ok w)
    (hw' : p.windowAt anchor' = .ok w') :
    w.start.instant ≤ w'.start.instant ∧ w.finish.instant ≤ w'.finish.instant ↔
      KeepsOrder p.windowDelay p.windowDelayUnit anchor anchor' ∧
        KeepsOrder p.windowSize p.windowUnit w.finish w'.finish := by
  obtain ⟨honZone, hfinish, hstart⟩ := bounds_of_windowAt hanchor hw
  obtain ⟨honZone', hfinish', hstart'⟩ := bounds_of_windowAt hanchor' hw'
  have hfinishes : w.finish.instant ≤ w'.finish.instant ↔
      KeepsOrder p.windowDelay p.windowDelayUnit anchor anchor' := by
    rw [hfinish, hfinish']
    exact landing_back_le_iff hz hanchor hanchor' (Int.le_of_lt hlt) _ _
  rw [and_comm, hfinishes]
  refine and_congr_right fun hkeeps => ?_
  rw [hstart, hstart']
  exact landing_back_le_iff hz honZone honZone' (hfinishes.mpr hkeeps) _ _

theorem chronological_windows_iff {p : WindowPolicy} {anchors : List Moment}
    {windows : List Window} (honZone : ∀ anchor ∈ anchors, OnZone z anchor)
    (hascending : anchors.IsChain fun m m' => m.instant < m'.instant)
    (hwindows : List.Forall₂ (fun anchor w => p.windowAt anchor = .ok w) anchors windows) :
    Chronological windows ↔
      anchors.IsChain (KeepsOrder p.windowDelay p.windowDelayUnit) ∧
        (windows.map Window.finish).IsChain (KeepsOrder p.windowSize p.windowUnit) := by
  unfold Chronological
  induction hwindows with
  | nil => simp
  | cons hw hrest ih =>
      cases hrest with
      | nil => simp
      | cons hw' hrest' =>
          obtain ⟨hanchor, hanchors⟩ := List.forall_mem_cons.mp honZone
          obtain ⟨hanchor', -⟩ := List.forall_mem_cons.mp hanchors
          obtain ⟨hlt, hlater⟩ := List.isChain_cons_cons.mp hascending
          rw [List.isChain_cons_cons, window_le_iff hz hanchor hanchor' hlt hw hw',
            ih hanchors hlater, List.isChain_cons_cons]
          simp only [List.map_cons, List.isChain_cons_cons]
          exact and_and_and_comm

end Order

/-- The windows of an interval are in chronological order exactly if they are not split, or wherever
the delay is days it keeps the order of every two anchors in a row and wherever the size is days it
keeps that of the ends of every two windows. -/
theorem monitoringWindows_chronological_iff [ZoneDatabase] {a b : Moment} {interval : Interval}
    (hinterval : Interval.ofMoments a b = .ok interval) {p : WindowPolicy} {z : Zone}
    (hzone : zoneNamed p.timezone = .ok z) (hz : Regular z) (hbucket : Forward p.bucketPeriod)
    (moving : Bool) :
    Chronological (monitoringWindows p interval moving) ↔
      ∀ anchors windows, p.anchors interval = .ok anchors →
        WindowPlan.of p interval moving = .moving windows →
        anchors.IsChain (KeepsOrder p.windowDelay p.windowDelayUnit) ∧
          (windows.map Window.finish).IsChain (KeepsOrder p.windowSize p.windowUnit) := by
  rw [monitoringWindows]
  cases hplan : WindowPlan.of p interval moving with
  | off => exact iff_of_true (List.isChain_singleton _) (by rintro _ _ _ ⟨⟩)
  | fallback reason => exact iff_of_true (List.isChain_singleton _) (by rintro _ _ _ ⟨⟩)
  | moving windows =>
      obtain rfl : moving = true := by
        cases moving with
        | false => cases hplan
        | true => rfl
      rw [plan_eq_moving_iff, WindowPolicy.movingWindows] at hplan
      obtain ⟨anchors, hanchors, hwindows⟩ := bind_eq_ok_iff.mp hplan
      obtain ⟨start, finish, hstart, -, hwalked⟩ := walked_of_anchors hanchors
      have hplace := onZone_align hzone (clock_bounds hinterval).1 hstart
      have hascending := isChain_of_walked hz (advances_of_forward hz hbucket) hplace hwalked
      refine (chronological_windows_iff hz (onZone_of_walked hplace hwalked) hascending
        ((mapM_eq_ok_iff _ _ _).mp hwindows)).trans ?_
      constructor
      · intro hkeeps anchors' windows' hanchors' hwindows'
        cases hanchors.symm.trans hanchors'
        cases hwindows'
        exact hkeeps
      · exact fun hall => hall anchors windows hanchors rfl

open scoped ZoneTable

set_option maxRecDepth 10000 in
/-- Hourly windows of a day in New York are in order also around the change: the hour that is
repeated is as long as the bucket, so the first two begin together. -/
theorem newYorkHourly_chronological :
    let interval : Interval := ⟨hourOfSetBack 4, hourOfSetBack 8⟩
    Interval.ofMoments (hourOfSetBack 4) (hourOfSetBack 8) = .ok interval ∧
    zoneNamed newYorkHourly.timezone = .ok ZoneTable.newYork ∧ Regular ZoneTable.newYork ∧
    Forward newYorkHourly.bucketPeriod ∧
    (monitoringWindows newYorkHourly interval true).length = 4 ∧
    Chronological (monitoringWindows newYorkHourly interval true) := by
  intro interval
  have hinterval : Interval.ofMoments (hourOfSetBack 4) (hourOfSetBack 8) = .ok interval := rfl
  have hzone : zoneNamed newYorkHourly.timezone = .ok ZoneTable.newYork := rfl
  have hbucket : Forward newYorkHourly.bucketPeriod := by
    constructor <;> decide
  have hanchors : newYorkHourly.anchors ⟨hourOfSetBack 4, hourOfSetBack 8⟩ =
      .ok [onSetBackDay 1 false, onSetBackDay 1 true, onSetBackDay 2 false,
        onSetBackDay 3 false] := rfl
  have hplan : WindowPlan.of newYorkHourly interval true =
      .moving [⟨onSetBackDay (-23) false, onSetBackDay 1 false⟩,
        ⟨onSetBackDay (-23) false, onSetBackDay 1 true⟩,
        ⟨onSetBackDay (-22) false, onSetBackDay 2 false⟩,
        ⟨onSetBackDay (-21) false, onSetBackDay 3 false⟩] :=
    plan_eq_moving_of_anchors hanchors
      (.cons rfl (.cons rfl (.cons rfl (.cons rfl .nil))))
  refine ⟨hinterval, hzone, regular_newYork, hbucket, by rw [monitoringWindows, hplan]; rfl, ?_⟩
  rw [monitoringWindows_chronological_iff hinterval hzone regular_newYork hbucket true]
  intro anchors windows hanchors' hplan'
  cases hanchors.symm.trans hanchors'
  cases hplan.symm.trans hplan'
  have hdelay : newYorkHourly.windowDelay = 0 := rfl
  refine ⟨?_, ?_⟩
  · rw [List.isChain_iff_getElem]
    exact fun i hi _ hsome => absurd hdelay hsome
  · simp only [List.map_cons, List.map_nil, List.isChain_cons_cons, List.isChain_singleton,
      and_true]
    refine ⟨fun _ _ => ?_, fun _ _ => ?_, fun _ _ => ?_⟩ <;> decide +kernel

/-- Half-hourly windows of an hour in New York, a day late. -/
def newYorkLate : WindowPolicy where
  timezone := "America/New_York"
  datasetUnit := .minutes
  frequency := ⟨30, .minutes⟩
  bucketPeriod := .of 30 .minutes
  windowUnit := .hours
  windowDelay := 1

def halfHours (halves : Int) (fold : Bool) : Moment :=
  ⟨(1730592000 + halves * 1800) * second, fold, .zone ZoneTable.newYork⟩

set_option maxRecDepth 10000 in
/-- The second window lies half an hour before the first: from half past one to one of the repeated
hour the anchors go on, and a day is taken off what the clock reads. -/
theorem newYorkLate_goes_back :
    let interval : Interval := ⟨hourOfSetBack 5, hourOfSetBack 7⟩
    Interval.ofMoments (hourOfSetBack 5) (hourOfSetBack 7) = .ok interval ∧
    zoneNamed newYorkLate.timezone = .ok ZoneTable.newYork ∧ Forward newYorkLate.bucketPeriod ∧
    1 ≤ newYorkLate.windowSize ∧ 0 ≤ newYorkLate.windowDelay ∧
    newYorkLate.anchors interval =
      .ok [halfHours 3 false, halfHours 2 true, halfHours 3 true, halfHours 4 false] ∧
    monitoringWindows newYorkLate interval true =
      [⟨halfHours (-47) false, halfHours (-45) false⟩,
        ⟨halfHours (-48) false, halfHours (-46) false⟩,
        ⟨halfHours (-47) false, halfHours (-45) false⟩,
        ⟨halfHours (-46) false, halfHours (-44) false⟩] ∧
    ¬ Chronological (monitoringWindows newYorkLate interval true) := by
  intro interval
  have hanchors : newYorkLate.anchors ⟨hourOfSetBack 5, hourOfSetBack 7⟩ =
      .ok [halfHours 3 false, halfHours 2 true, halfHours 3 true, halfHours 4 false] := rfl
  have hwindows : monitoringWindows newYorkLate interval true =
      [⟨halfHours (-47) false, halfHours (-45) false⟩,
        ⟨halfHours (-48) false, halfHours (-46) false⟩,
        ⟨halfHours (-47) false, halfHours (-45) false⟩,
        ⟨halfHours (-46) false, halfHours (-44) false⟩] := by
    rw [monitoringWindows, plan_eq_moving_of_anchors hanchors
      (.cons rfl (.cons rfl (.cons rfl (.cons rfl .nil))))]
    rfl
  refine ⟨rfl, rfl, ?_, by decide, by decide, hanchors, hwindows, ?_⟩
  · constructor <;> decide
  · rw [hwindows]
    intro horder
    obtain ⟨⟨hstarts, -⟩, -⟩ := List.isChain_cons_cons.mp horder
    revert hstarts
    decide +kernel

end AnomalyWindows.Proofs.WindowOrder
