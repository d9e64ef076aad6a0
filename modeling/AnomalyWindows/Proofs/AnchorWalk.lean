import AnomalyWindows.Calendar.ZoneTable
import AnomalyWindows.Proofs.CalendarMoves
import AnomalyWindows.Windows
import Mathlib.Data.List.Induction
import Mathlib.Order.Basic

/-!
The walk of the window ends. It is told by the wall times of one clock when to stop; where that
clock is not set back the walk reaches the aligned end in real time, and what a clock that is set
back does to it is said exactly.
-/

namespace AnomalyWindows.Proofs.AnchorWalk

open Calendar
open AnomalyWindows.Proofs.CalendarMoves

theorem clock_asUtc {m n : Moment} (h : m.asUtc = .ok n) : n.clock = .utc := by
  rw [Moment.asUtc] at h
  split at h
  · rw [← Except.ok.inj h]
  · rw [Moment.convert] at h
    split at h
    · next hsame =>
        obtain rfl := Except.ok.inj h
        cases hclock : m.clock with
        | naive => simp [hclock, Clock.same, Clock.utc] at hsame
        | fixed offset =>
            rw [hclock] at hsame
            simpa [Clock.same, Clock.utc] using hsame
        | zone z => simp [hclock, Clock.same, Clock.utc] at hsame
    · obtain ⟨_, -, h⟩ := bind_eq_ok_iff.mp h
      obtain ⟨_, -, h⟩ := bind_eq_ok_iff.mp h
      rw [← Except.ok.inj h]
      rfl

theorem interval_eq_ok_iff {a b : Moment} {interval : Interval} :
    Interval.ofMoments a b = .ok interval ↔
      a.asUtc = .ok interval.start ∧ b.asUtc = .ok interval.finish ∧
        interval.start.wall < interval.finish.wall := by
  rw [Interval.ofMoments]
  constructor
  · intro h
    obtain ⟨start, hstart, h⟩ := bind_eq_ok_iff.mp h
    obtain ⟨finish, hfinish, h⟩ := bind_eq_ok_iff.mp h
    split at h
    · next hlt =>
        obtain rfl := Except.ok.inj h
        exact ⟨hstart, hfinish, hlt⟩
    · cases h
  · rintro ⟨hstart, hfinish, hlt⟩
    rw [hstart, hfinish]
    exact if_pos hlt

theorem clock_bounds {a b : Moment} {interval : Interval}
    (h : Interval.ofMoments a b = .ok interval) :
    interval.start.clock = .utc ∧ interval.finish.clock = .utc := by
  obtain ⟨hstart, hfinish, -⟩ := interval_eq_ok_iff.mp h
  exact ⟨clock_asUtc hstart, clock_asUtc hfinish⟩

theorem onZone_floorTo {z : Zone} {unit : TimeUnit} {m n : Moment} (hm : OnZone z m)
    (h : Alignment.floorTo unit m = .ok n) : OnZone z n := by
  cases unit with
  | days =>
      have hfloored : OnZone z (Alignment.floorWall day m) := hm
      rw [Alignment.floorTo, isNaive_of_onZone hm] at h
      rw [((settled_eq_ok_iff hfloored).mp h).2.2]
      exact onZone_onClock z _
  | hours | minutes | seconds | milliseconds => exact Except.ok.inj h ▸ hm

theorem onZone_floorMinutes {z : Zone} {size : Int} {m n : Moment} (hm : OnZone z m)
    (h : Alignment.floorMinutes size m = .ok n) : OnZone z n := by
  rw [Alignment.floorMinutes] at h
  split at h
  · cases h
  · dsimp only at h
    split at h
    · exact Except.ok.inj h ▸ hm
    · cases h

theorem exists_zone_of_align [ZoneDatabase] {p : WindowPolicy} {m n : Moment}
    (h : p.align m = .ok n) :
    ∃ z, zoneNamed p.timezone = .ok z := by
  obtain ⟨z, hzone, -⟩ := bind_eq_ok_iff.mp h
  exact ⟨z, hzone⟩

theorem onZone_align [ZoneDatabase] {p : WindowPolicy} {z : Zone} {m n : Moment}
    (hzone : zoneNamed p.timezone = .ok z) (hm : m.clock = .utc) (h : p.align m = .ok n) :
    OnZone z n := by
  rw [WindowPolicy.align, Alignment.align, hzone] at h
  obtain ⟨zone, hfound, h⟩ := bind_eq_ok_iff.mp h
  obtain rfl := Except.ok.inj hfound
  obtain ⟨onZone, hconvert, h⟩ := bind_eq_ok_iff.mp h
  obtain rfl := convert_of_utc hm hconvert
  have hz := onZone_onClock z m.instant
  split at h
  · exact onZone_floorMinutes hz h
  · split at h
    · exact onZone_floorTo hz h
    · exact onZone_floorTo hz h

/-- The places that steps of a bucket reach in turn, until one is not before the end. -/
inductive Walked (bucket : Period) (finish : Moment) : Moment → List Moment → Prop
  | arrived (place : Moment) (harrived : place.isBefore? finish = some false) :
      Walked bucket finish place []
  | step (place next : Moment) (rest : List Moment)
      (hbefore : place.isBefore? finish = some true) (hstep : bucket.addTo place = .ok next)
      (hrest : Walked bucket finish next rest) : Walked bucket finish place (next :: rest)

theorem walk_eq_ok_iff {bucket : Period} {finish place : Moment} {fuel : Nat}
    {reached places : List Moment} :
    WindowPolicy.walk bucket finish fuel place reached = .ok places ↔
      ∃ steps, places = steps.reverse ++ reached ∧ steps.length < fuel ∧
        Walked bucket finish place steps := by
  constructor
  · intro h
    induction fuel generalizing place reached with
    | zero => cases h
    | succ fuel ih =>
        rw [WindowPolicy.walk] at h
        split at h
        · next hbefore =>
            split at h
            · next next hstep =>
                obtain ⟨steps, hplaces, hfuel, hwalked⟩ := ih h
                refine ⟨next :: steps, ?_, Nat.succ_lt_succ hfuel,
                  .step place next steps hbefore hstep hwalked⟩
                simp [hplaces]
            · cases h
        · next harrived =>
            exact ⟨[], (Except.ok.inj h).symm, Nat.succ_pos fuel, .arrived place harrived⟩
        · cases h
  · rintro ⟨steps, rfl, hfuel, hwalked⟩
    induction hwalked generalizing fuel reached with
    | arrived place harrived =>
        obtain ⟨fuel, rfl⟩ := Nat.exists_eq_succ_of_ne_zero (Nat.ne_of_gt hfuel)
        rw [WindowPolicy.walk, harrived]
        rfl
    | step place next rest hbefore hstep hrest ih =>
        obtain ⟨fuel, rfl⟩ := Nat.exists_eq_succ_of_ne_zero (Nat.ne_of_gt (Nat.zero_lt_of_lt hfuel))
        rw [WindowPolicy.walk, hbefore]
        simp only [hstep]
        rw [ih (Nat.lt_of_succ_lt_succ hfuel)]
        simp

theorem anchors_eq_ok_iff [ZoneDatabase] {p : WindowPolicy} {interval : Interval}
    {anchors : List Moment} :
    p.anchors interval = .ok anchors ↔
      (Spans p.bucketPeriod.total ∧ 0 < p.bucketPeriod.total) ∧
        ∃ start finish, p.align interval.start = .ok start ∧
          p.align interval.finish = .ok finish ∧ anchors.length ≤ WindowPolicy.walkLimit ∧
          Walked p.bucketPeriod finish start anchors := by
  rw [WindowPolicy.anchors, Period.duration]
  constructor
  · intro h
    obtain ⟨bucket, hduration, h⟩ := bind_eq_ok_iff.mp h
    obtain ⟨hspans, rfl⟩ := checkedDuration_eq_ok_iff.mp hduration
    split at h
    · cases h
    · next hpos =>
        obtain ⟨finish, hfinish, h⟩ := bind_eq_ok_iff.mp h
        obtain ⟨start, hstart, h⟩ := bind_eq_ok_iff.mp h
        obtain ⟨reached, hreached, h⟩ := bind_eq_ok_iff.mp h
        obtain ⟨steps, rfl, hlimit, hwalked⟩ := walk_eq_ok_iff.mp hreached
        obtain rfl := Except.ok.inj h
        refine ⟨⟨hspans, Int.not_le.mp hpos⟩, start, finish, hstart, hfinish, ?_⟩
        simpa using And.intro (Nat.le_of_lt_succ hlimit) hwalked
  · rintro ⟨⟨hspans, hpos⟩, start, finish, hstart, hfinish, hlimit, hwalked⟩
    refine bind_eq_ok_iff.mpr ⟨_, checkedDuration_eq_ok_iff.mpr ⟨hspans, rfl⟩, ?_⟩
    rw [if_neg (Int.not_le.mpr hpos)]
    refine bind_eq_ok_iff.mpr ⟨finish, hfinish, bind_eq_ok_iff.mpr ⟨start, hstart, ?_⟩⟩
    refine bind_eq_ok_iff.mpr ⟨anchors.reverse, walk_eq_ok_iff.mpr ?_, ?_⟩
    · exact ⟨anchors, (List.append_nil _).symm, Nat.lt_succ_of_le hlimit, hwalked⟩
    · rw [List.reverse_reverse]
      rfl

theorem walked_of_anchors [ZoneDatabase] {p : WindowPolicy} {interval : Interval}
    {anchors : List Moment}
    (h : p.anchors interval = .ok anchors) :
    ∃ start finish, p.align interval.start = .ok start ∧ p.align interval.finish = .ok finish ∧
      Walked p.bucketPeriod finish start anchors := by
  obtain ⟨-, start, finish, hstart, hfinish, -, hwalked⟩ := anchors_eq_ok_iff.mp h
  exact ⟨start, finish, hstart, hfinish, hwalked⟩

theorem forall_of_walked {P : Moment → Prop} {bucket : Period} {finish place : Moment}
    {places : List Moment} (hkeeps : ∀ m n, P m → bucket.addTo m = .ok n → P n) (hplace : P place)
    (h : Walked bucket finish place places) : ∀ a ∈ places, P a := by
  induction h with
  | arrived place harrived => simp
  | step place next rest hbefore hstep hrest ih =>
      have hnext := hkeeps place next hplace hstep
      exact List.forall_mem_cons.mpr ⟨hnext, ih hnext⟩

theorem onZone_of_walked {z : Zone} {bucket : Period} {finish place : Moment}
    {places : List Moment} (hplace : OnZone z place) (h : Walked bucket finish place places) :
    ∀ a ∈ places, OnZone z a :=
  forall_of_walked (fun _ _ hm hstep => onZone_shift hm hstep) hplace h

theorem wall_of_walked {z : Zone} {bucket : Period} {finish place : Moment}
    {places : List Moment} (hfinish : OnZone z finish) (hplace : OnZone z place)
    (h : Walked bucket finish place places) :
    (∀ a ∈ (place :: places).dropLast, a.wall < finish.wall) ∧
      finish.wall ≤ (places.getLastD place).wall := by
  induction h with
  | arrived place harrived =>
      rw [isBefore?_of_onZone hplace hfinish] at harrived
      simpa using harrived
  | step place next rest hbefore hstep hrest ih =>
      have hnext := onZone_shift hplace hstep
      obtain ⟨hearlier, hlast⟩ := ih hnext
      rw [isBefore?_of_onZone hplace hfinish] at hbefore
      rw [List.getLastD_cons]
      refine ⟨fun a ha => ?_, hlast⟩
      rcases List.mem_cons.mp ha with rfl | ha
      · simpa using hbefore
      · exact hearlier a ha

def setBack (a b : Moment) : Int :=
  a.offset - b.offset

theorem wall_lt_iff (a b : Moment) :
    a.wall < b.wall ↔ setBack a b < b.instant - a.instant := by
  unfold setBack Moment.instant
  constructor <;> intro h <;> omega

/-- The clock is set back between two moments so far that it shows them in the wrong order. -/
def Misordered (a b : Moment) : Prop :=
  a.instant < b.instant ∧ b.instant - a.instant ≤ setBack a b ∨
    b.instant ≤ a.instant ∧ a.instant - b.instant < setBack b a

theorem not_misordered_iff (a b : Moment) :
    ¬ Misordered a b ↔ (a.wall < b.wall ↔ a.instant < b.instant) := by
  unfold Misordered setBack Moment.instant
  omega

/-- Places reach an end in real time: all but the last lie before it, and from a start before it
the last one does not. -/
def ReachesEnd (start finish : Moment) (places : List Moment) : Prop :=
  (∀ a ∈ places.dropLast, a.instant < finish.instant) ∧
    (start.instant < finish.instant →
      ∃ last, places.getLast? = some last ∧ finish.instant ≤ last.instant)

/-- Whether the places of a walk reach its end depends on the order in which the clock shows the end
and the places at which the walk goes on or stops. -/
theorem reachesEnd_iff_of_walked [ZoneDatabase] {z : Zone} {bucket : Period} {finish start : Moment}
    {places : List Moment} (hfinish : OnZone z finish) (hstart : OnZone z start)
    (h : Walked bucket finish start places) :
    ReachesEnd start finish places ↔
      (∀ a ∈ places.dropLast, ¬ Misordered a finish) ∧
        (start.instant < finish.instant → ¬ Misordered (places.getLastD start) finish) := by
  obtain ⟨hearlier, hlast⟩ := wall_of_walked hfinish hstart h
  have hbefore : (∀ a ∈ places.dropLast, a.instant < finish.instant) ↔
      ∀ a ∈ places.dropLast, ¬ Misordered a finish := by
    refine forall₂_congr fun a ha => ?_
    have hwall : a.wall < finish.wall := by
      refine hearlier a ?_
      cases places with
      | nil => simp at ha
      | cons b rest => exact List.mem_cons_of_mem _ ha
    rw [not_misordered_iff, iff_true_left hwall]
  refine and_congr hbefore (imp_congr_right fun hahead => ?_)
  rw [not_misordered_iff, iff_false_left (not_lt.mpr hlast), not_lt]
  cases places using List.reverseRecOn with
  | nil => simpa using hahead
  | append_singleton rest last => simp

/-- The anchors of an interval reach its aligned end in real time exactly when the clock shows no
anchor before the last one on the wrong side of the end, nor, from a start before the end, the place
where the walk stops. -/
theorem anchors_reachEnd_iff [ZoneDatabase] {a b : Moment} {interval : Interval}
    (hinterval : Interval.ofMoments a b = .ok interval) (p : WindowPolicy)
    {anchors : List Moment} (hanchors : p.anchors interval = .ok anchors) :
    ∃ start finish, p.align interval.start = .ok start ∧ p.align interval.finish = .ok finish ∧
      (ReachesEnd start finish anchors ↔
        (∀ a ∈ anchors.dropLast, ¬ Misordered a finish) ∧
          (start.instant < finish.instant →
            ¬ Misordered (anchors.getLastD start) finish)) := by
  obtain ⟨start, finish, hstart, hfinish, hwalked⟩ := walked_of_anchors hanchors
  obtain ⟨z, hzone⟩ := exists_zone_of_align hstart
  obtain ⟨hstartUtc, hfinishUtc⟩ := clock_bounds hinterval
  refine ⟨start, finish, hstart, hfinish, ?_⟩
  exact reachesEnd_iff_of_walked (onZone_align hzone hfinishUtc hfinish)
    (onZone_align hzone hstartUtc hstart) hwalked

def newYorkHourly : WindowPolicy where
  timezone := "America/New_York"
  datasetUnit := .hours
  frequency := ⟨15, .minutes⟩
  bucketPeriod := .of 1 .hours

/-- Hours of UTC behind midnight of the third of November 2024, the day on which the clocks of New
York go back at six. -/
def hourOfSetBack (hours : Int) : Moment :=
  .ofInstant ((1730592000 + hours * 3600) * second)

def onSetBackDay (hours : Int) (fold : Bool) : Moment :=
  ⟨(1730592000 + hours * 3600) * second, fold, .zone ZoneTable.newYork⟩

open scoped ZoneTable

set_option maxRecDepth 10000 in
/-- Around the change the walk passes through both passes of the repeated hour. -/
theorem anchors_around_setBack :
    Interval.ofMoments (hourOfSetBack 4) (hourOfSetBack 8) =
      .ok ⟨hourOfSetBack 4, hourOfSetBack 8⟩ ∧
    newYorkHourly.anchors ⟨hourOfSetBack 4, hourOfSetBack 8⟩ =
      .ok [onSetBackDay 1 false, onSetBackDay 1 true, onSetBackDay 2 false,
        onSetBackDay 3 false] ∧
    ∃ start finish, newYorkHourly.align (hourOfSetBack 4) = .ok start ∧
      newYorkHourly.align (hourOfSetBack 8) = .ok finish ∧
      (ReachesEnd start finish [onSetBackDay 1 false, onSetBackDay 1 true,
          onSetBackDay 2 false, onSetBackDay 3 false] ↔
        (∀ a ∈ [onSetBackDay 1 false, onSetBackDay 1 true, onSetBackDay 2 false],
          ¬ Misordered a finish) ∧
        (start.instant < finish.instant → ¬ Misordered (onSetBackDay 3 false) finish)) := by
  have hinterval : Interval.ofMoments (hourOfSetBack 4) (hourOfSetBack 8) =
      .ok ⟨hourOfSetBack 4, hourOfSetBack 8⟩ := rfl
  have hanchors : newYorkHourly.anchors ⟨hourOfSetBack 4, hourOfSetBack 8⟩ =
      .ok [onSetBackDay 1 false, onSetBackDay 1 true, onSetBackDay 2 false,
        onSetBackDay 3 false] := rfl
  exact ⟨hinterval, hanchors, anchors_reachEnd_iff hinterval newYorkHourly hanchors⟩

set_option maxRecDepth 10000 in
/-- Over the hour before the change there is no anchor at all: the end of that hour reads as its
start does. -/
theorem hour_before_setBack_not_reached :
    Interval.ofMoments (hourOfSetBack 5) (hourOfSetBack 6) =
      .ok ⟨hourOfSetBack 5, hourOfSetBack 6⟩ ∧
    Forward newYorkHourly.bucketPeriod ∧
    newYorkHourly.anchors ⟨hourOfSetBack 5, hourOfSetBack 6⟩ = .ok [] ∧
    newYorkHourly.align (hourOfSetBack 5) = .ok (onSetBackDay 1 false) ∧
    newYorkHourly.align (hourOfSetBack 6) = .ok (onSetBackDay 1 true) ∧
    (onSetBackDay 1 false).instant < (onSetBackDay 1 true).instant ∧
    ¬ ReachesEnd (onSetBackDay 1 false) (onSetBackDay 1 true) [] := by
  have hlater : (onSetBackDay 1 false).instant < (onSetBackDay 1 true).instant := by
    decide +kernel
  refine ⟨rfl, ?_, rfl, rfl, rfl, hlater, fun hreached => ?_⟩
  · constructor <;> decide
  · obtain ⟨last, hlast, -⟩ := hreached.2 hlater
    cases hlast

end AnomalyWindows.Proofs.AnchorWalk
