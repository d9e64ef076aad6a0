import AnomalyWindows.Calendar.ZoneTable
import AnomalyWindows.Proofs.DerivedPolicies
import AnomalyWindows.Proofs.SkippedTimes
import AnomalyWindows.Proofs.WindowOrder
import Mathlib.Data.Int.Interval

namespace AnomalyWindows.Proofs.FiniteWalks

open Calendar
open AnomalyWindows.Proofs.CalendarMoves AnomalyWindows.Proofs.AnchorWalk
open AnomalyWindows.Proofs.ZoneReading AnomalyWindows.Proofs.ClockSteps
open AnomalyWindows.Proofs.SkippedTimes AnomalyWindows.Proofs.WalkEnds
open AnomalyWindows.Proofs.DerivedPolicies

/-- The walk from a place makes these steps and then returns, or fails, however many they are. -/
inductive Ends (bucket : Period) (finish : Moment) :
    Moment → List Moment → Except Fault Unit → Prop
  | arrived (place : Moment) (harrived : place.isBefore? finish = some false) :
      Ends bucket finish place [] (.ok ())
  | unclear (place : Moment) (hclocks : place.isBefore? finish = none) :
      Ends bucket finish place [] (.error .clocksDiffer)
  | stuck (place : Moment) (fault : Fault) (hbefore : place.isBefore? finish = some true)
      (hstep : bucket.addTo place = .error fault) : Ends bucket finish place [] (.error fault)
  | step (place next : Moment) (rest : List Moment) (outcome : Except Fault Unit)
      (hbefore : place.isBefore? finish = some true) (hstep : bucket.addTo place = .ok next)
      (hrest : Ends bucket finish next rest outcome) :
      Ends bucket finish place (next :: rest) outcome

section Walk

variable {bucket : Period} {finish place : Moment} {steps : List Moment}
  {outcome : Except Fault Unit}

theorem walk_of_ends (h : Ends bucket finish place steps outcome) {fuel : Nat}
    (hfuel : steps.length < fuel) (reached : List Moment) :
    WindowPolicy.walk bucket finish fuel place reached =
      outcome.map fun _ => steps.reverse ++ reached := by
  induction h generalizing fuel reached with
  | arrived place harrived =>
      obtain ⟨fuel, rfl⟩ := Nat.exists_eq_succ_of_ne_zero (Nat.ne_of_gt hfuel)
      rw [WindowPolicy.walk, harrived]
      rfl
  | unclear place hclocks =>
      obtain ⟨fuel, rfl⟩ := Nat.exists_eq_succ_of_ne_zero (Nat.ne_of_gt hfuel)
      rw [WindowPolicy.walk, hclocks]
      rfl
  | stuck place fault hbefore hstep =>
      obtain ⟨fuel, rfl⟩ := Nat.exists_eq_succ_of_ne_zero (Nat.ne_of_gt hfuel)
      rw [WindowPolicy.walk, hbefore]
      simp only [hstep]
      rfl
  | step place next rest outcome hbefore hstep hrest ih =>
      obtain ⟨fuel, rfl⟩ := Nat.exists_eq_succ_of_ne_zero (Nat.ne_of_gt (Nat.zero_lt_of_lt hfuel))
      rw [WindowPolicy.walk, hbefore]
      simp only [hstep]
      rw [ih (Nat.lt_of_succ_lt_succ hfuel)]
      simp

theorem exists_ends_of_next
    (hnext : ∀ next, bucket.addTo place = .ok next →
      ∃ steps outcome, Ends bucket finish next steps outcome) :
    ∃ steps outcome, Ends bucket finish place steps outcome := by
  cases hbefore : place.isBefore? finish with
  | none => exact ⟨_, _, .unclear place hbefore⟩
  | some before =>
      cases before with
      | false => exact ⟨_, _, .arrived place hbefore⟩
      | true =>
          cases hstep : bucket.addTo place with
          | error fault => exact ⟨_, _, .stuck place fault hbefore hstep⟩
          | ok next =>
              obtain ⟨rest, outcome, hrest⟩ := hnext next hstep
              exact ⟨_, _, .step place next rest outcome hbefore hstep hrest⟩

theorem steps_eq_of_ends (h : Ends bucket finish place steps outcome) {steps' : List Moment}
    {outcome' : Except Fault Unit} (h' : Ends bucket finish place steps' outcome') :
    steps = steps' := by
  induction h generalizing steps' with
  | arrived place harrived =>
      cases h' with
      | arrived | unclear => rfl
      | stuck _ _ hbefore | step _ _ _ _ hbefore => simp [harrived] at hbefore
  | unclear place hclocks =>
      cases h' with
      | arrived | unclear => rfl
      | stuck _ _ hbefore | step _ _ _ _ hbefore => simp [hclocks] at hbefore
  | stuck place fault hbefore hstep =>
      cases h' with
      | arrived | unclear | stuck => rfl
      | step _ next _ _ _ hstep' => simp [hstep] at hstep'
  | step place next rest outcome hbefore hstep hrest ih =>
      cases h' with
      | arrived _ harrived => simp [hbefore] at harrived
      | unclear _ hclocks => simp [hbefore] at hclocks
      | stuck _ _ _ hstep' => simp [hstep] at hstep'
      | step _ next' rest' _ _ hstep' hrest' =>
          obtain rfl := Except.ok.inj (hstep.symm.trans hstep')
          rw [ih hrest']

theorem exists_shorter_of_ends (h : Ends bucket finish place steps outcome) :
    ∀ m ∈ steps, ∃ rest, rest.length < steps.length ∧ Ends bucket finish m rest outcome := by
  induction h with
  | arrived | unclear | stuck => simp
  | step place next rest outcome hbefore hstep hrest ih =>
      intro m hm
      rcases List.mem_cons.mp hm with rfl | hm
      · exact ⟨rest, Nat.lt_succ_self _, hrest⟩
      · obtain ⟨rest', hshorter, hends⟩ := ih m hm
        exact ⟨rest', Nat.lt_succ_of_lt hshorter, hends⟩

/-- From a place that a walk comes to twice it would go on in the same way for ever. -/
theorem nodup_of_ends (h : Ends bucket finish place steps outcome) : (place :: steps).Nodup := by
  have hnew {place : Moment} {steps : List Moment}
      (h : Ends bucket finish place steps outcome) : place ∉ steps := by
    intro hmem
    obtain ⟨rest, hshorter, hends⟩ := exists_shorter_of_ends h place hmem
    rw [steps_eq_of_ends h hends] at hshorter
    exact Nat.lt_irrefl _ hshorter
  induction h with
  | arrived | unclear | stuck => exact List.nodup_singleton _
  | step place next rest outcome hbefore hstep hrest ih =>
      exact List.nodup_cons.mpr ⟨hnew (.step _ _ _ _ hbefore hstep hrest), ih hnew⟩

theorem isChain_of_ends {P : Moment → Prop}
    (hforward : ∀ m n, P m → bucket.addTo m = .ok n → P n ∧ m.instant < n.instant)
    (hplace : P place) (h : Ends bucket finish place steps outcome) :
    (place :: steps).IsChain fun m m' => m.instant < m'.instant := by
  induction h with
  | arrived | unclear | stuck => exact List.isChain_singleton _
  | step place next rest outcome hbefore hstep hrest ih =>
      obtain ⟨hnext, hlater⟩ := hforward place next hplace hstep
      exact List.isChain_cons_cons.mpr ⟨hlater, ih hnext⟩

end Walk

/-- A period without negative fields leads forward in real time from whatever is read on the clock
of a gentle zone, shown or not. -/
theorem instant_lt_landing_of_gentle {z : Zone} (hz : Regular z) (hgentle : Gentle z) {p : Period}
    (hp : Forward p) {m : Moment} (hm : OnZone z m) : m.instant < (landing p 1 m).instant := by
  obtain ⟨hdays, hexact, hsome⟩ := parts_of_forward hp
  by_cases hnone : p.calendarDays = 0
  · rw [instant_landing_of_exact hz hnone hm]
    omega
  · have hmoved := instant_lt_daysAway_of_gentle hz hgentle hm
      (show 0 < p.calendarDays by omega)
    unfold landing
    dsimp only
    rw [Int.one_mul, Int.one_mul, if_neg hnone]
    split
    · exact hmoved
    · rw [instant_timeAway hz (onZone_daysAway hm _)]
      omega

section Clock

variable {z : Zone} {bucket : Period} {finish place : Moment} {steps : List Moment}
  {outcome : Except Fault Unit}

theorem shown_of_ends (hparts : bucket.calendarDays ≠ 0 ∨ bucket.exact ≠ 0)
    (hplace : OnZone z place) (h : Ends bucket finish place steps outcome) :
    ∀ m ∈ steps, ∃ instant, InYears instant ∧ m = .onClock (.zone z) instant := by
  induction h with
  | arrived | unclear | stuck => simp
  | step place next rest outcome hbefore hstep hrest ih =>
      obtain ⟨-, hshown⟩ := shift_of_onZone hplace hstep
      exact List.forall_mem_cons.mpr ⟨hshown hparts, ih (onZone_shift hplace hstep)⟩

theorem length_le_of_ends (hparts : bucket.calendarDays ≠ 0 ∨ bucket.exact ≠ 0)
    (hplace : OnZone z place) (h : Ends bucket finish place steps outcome) :
    steps.length ≤ WindowPolicy.walkLimit := by
  have hshown : steps.toFinset ⊆
      (Finset.Icc firstWall lastWall).image (Moment.onClock (.zone z)) := by
    intro m hm
    obtain ⟨instant, hrange, rfl⟩ := shown_of_ends hparts hplace h m (List.mem_toFinset.mp hm)
    exact Finset.mem_image_of_mem _ (Finset.mem_Icc.mpr hrange)
  calc steps.length
      = steps.toFinset.card := (List.toFinset_card_of_nodup (nodup_of_ends h).of_cons).symm
    _ ≤ ((Finset.Icc firstWall lastWall).image (Moment.onClock (.zone z))).card :=
        Finset.card_le_card hshown
    _ ≤ (Finset.Icc firstWall lastWall).card := Finset.card_image_le
    _ ≤ WindowPolicy.walkLimit := by
        rw [Int.card_Icc, WindowPolicy.walkLimit]
        omega

theorem step_of_shown (hz : Regular z) (hbucket : Advances z bucket) {instant : Int} {n : Moment}
    (hstep : bucket.addTo (.onClock (.zone z) instant) = .ok n) :
    ∃ later, InYears later ∧ instant < later ∧ n = .onClock (.zone z) later := by
  obtain ⟨hlanding, hshown⟩ := shift_of_onZone (onZone_onClock z instant) hstep
  obtain ⟨later, hrange, rfl⟩ := hshown hbucket.parts
  have hforward := hbucket.forward instant
  rw [← hlanding, instant_onClock hz] at hforward
  exact ⟨later, hrange, hforward, rfl⟩

theorem exists_ends_of_shown (hz : Regular z) (hbucket : Advances z bucket) (finish : Moment)
    {count : Nat} {instant : Int} (hcount : lastWall - instant < count)
    (hlast : instant ≤ lastWall) :
    ∃ steps outcome, Ends bucket finish (.onClock (.zone z) instant) steps outcome := by
  induction count generalizing instant with
  | zero => omega
  | succ count ih =>
      refine exists_ends_of_next fun next hstep => ?_
      obtain ⟨later, hrange, hlt, rfl⟩ := step_of_shown hz hbucket hstep
      exact ih (by omega) hrange.2

theorem exists_ends (hz : Regular z) (hbucket : Advances z bucket) (finish : Moment)
    (hplace : OnZone z place) : ∃ steps outcome, Ends bucket finish place steps outcome := by
  refine exists_ends_of_next fun next hstep => ?_
  obtain ⟨-, hshown⟩ := shift_of_onZone hplace hstep
  obtain ⟨instant, hrange, rfl⟩ := hshown hbucket.parts
  exact exists_ends_of_shown hz hbucket finish
    (show lastWall - instant < ((lastWall - instant).toNat + 1 : Nat) by omega) hrange.2

/-- Behind its first step the walk leads forward in real time, for it passes through what the clock
shows. -/
theorem isChain_steps_of_ends (hz : Regular z) (hbucket : Advances z bucket)
    (hplace : OnZone z place) (h : Ends bucket finish place steps outcome) :
    steps.IsChain fun m m' => m.instant < m'.instant := by
  cases h with
  | arrived | unclear | stuck => exact List.isChain_nil
  | step _ next rest _ _ hstep hrest =>
      obtain ⟨-, hshown⟩ := shift_of_onZone hplace hstep
      obtain ⟨instant, -, hnext⟩ := hshown hbucket.parts
      refine isChain_of_ends (P := fun m => ∃ instant, m = .onClock (.zone z) instant) ?_
        ⟨instant, hnext⟩ hrest
      rintro _ n ⟨instant, rfl⟩ hstep
      obtain ⟨later, -, hlt, rfl⟩ := step_of_shown hz hbucket hstep
      rw [instant_onClock hz, instant_onClock hz]
      exact ⟨⟨later, rfl⟩, hlt⟩

/-- In a gentle zone a period without negative fields leads forward in real time from the first step
on. -/
theorem isChain_of_ends_gentle (hz : Regular z) (hgentle : Gentle z) (hbucket : Forward bucket)
    (hplace : OnZone z place) (h : Ends bucket finish place steps outcome) :
    (place :: steps).IsChain fun m m' => m.instant < m'.instant := by
  refine isChain_of_ends (P := OnZone z) (fun m n hm hstep => ?_) hplace h
  refine ⟨onZone_shift hm hstep, ?_⟩
  rw [(shift_of_onZone hm hstep).1]
  exact instant_lt_landing_of_gentle hz hgentle hbucket hm

end Clock

theorem anchors_of_ends [ZoneDatabase] {p : WindowPolicy} {interval : Interval} {z : Zone}
    {start finish : Moment}
    {steps : List Moment} {outcome : Except Fault Unit}
    (hspans : Spans p.bucketPeriod.total) (hpos : 0 < p.bucketPeriod.total)
    (hstart : p.align interval.start = .ok start) (hfinish : p.align interval.finish = .ok finish)
    (honZone : OnZone z start) (h : Ends p.bucketPeriod finish start steps outcome) :
    p.anchors interval = outcome.map fun _ => steps := by
  have hlimit := length_le_of_ends (parts_of_total_ne_zero (Int.ne_of_gt hpos)) honZone h
  have hwalk := walk_of_ends h (Nat.lt_succ_of_le hlimit) []
  rw [WindowPolicy.anchors, Period.duration, checkedDuration_eq_ok_iff.mpr ⟨hspans, rfl⟩]
  change (if p.bucketPeriod.total ≤ 0 then _ else _) = _
  rw [if_neg (Int.not_le.mpr hpos), hfinish, hstart]
  change (WindowPolicy.walk p.bucketPeriod finish (WindowPolicy.walkLimit + 1) start [] >>=
    fun reached => pure reached.reverse) = _
  rw [hwalk]
  cases outcome with
  | ok _ => simp [Except.map, Bind.bind, Except.bind, pure, Except.pure]
  | error fault => rfl

theorem anchors_cases [ZoneDatabase] (p : WindowPolicy) (interval : Interval) :
    (¬ Spans p.bucketPeriod.total ∧ p.anchors interval = .error .outOfRange) ∨
      (p.bucketPeriod.total ≤ 0 ∧
        p.anchors interval = .error (.bucketDoesNotAdvance p.bucketPeriod)) ∨
      (∃ fault, (p.align interval.finish = .error fault ∨ p.align interval.start = .error fault) ∧
        p.anchors interval = .error fault) ∨
      Spans p.bucketPeriod.total ∧ 0 < p.bucketPeriod.total ∧
        ∃ start finish, p.align interval.start = .ok start ∧
          p.align interval.finish = .ok finish := by
  rw [WindowPolicy.anchors, Period.duration]
  by_cases hspans : Spans p.bucketPeriod.total
  · rw [checkedDuration_eq_ok_iff.mpr ⟨hspans, rfl⟩]
    by_cases hstays : p.bucketPeriod.total ≤ 0
    · exact .inr (.inl ⟨hstays, if_pos hstays⟩)
    right
    right
    cases hfinish : p.align interval.finish with
    | error fault => exact .inl ⟨fault, .inl rfl, if_neg hstays⟩
    | ok finish =>
        cases hstart : p.align interval.start with
        | error fault => exact .inl ⟨fault, .inr rfl, if_neg hstays⟩
        | ok start => exact .inr ⟨hspans, Int.not_le.mp hstays, start, finish, rfl, rfl⟩
  · exact .inl ⟨hspans, by rw [checkedDuration_eq_error_iff.mpr ⟨hspans, rfl⟩]; rfl⟩

theorem spans_of_derive {d : Detection} {dataset : Dataset} {interval : Interval} {s : Scheduling}
    {p : WindowPolicy} {replaced : Option WindowPolicy.SpeedUp}
    (h : WindowPolicy.derive d dataset interval s = .ok (p, replaced)) :
    Spans p.bucketPeriod.total := by
  obtain ⟨q, -, h⟩ := bind_eq_ok_iff.mp h
  obtain ⟨applies, happlies, -⟩ := bind_eq_ok_iff.mp h
  obtain ⟨bucket, hduration, -⟩ := bind_eq_ok_iff.mp happlies
  rcases speedUp_eq_ok h with rfl | rfl
  · exact (checkedDuration_eq_ok_iff.mp hduration).1
  · exact (by decide : Spans (Period.of 1 .days).total)

/-- The search for the anchors of a derived policy always comes to an end: it fails at once, for the
bucket or for an aligned bound, or it makes finitely many steps and then returns or fails. Each step
leads forward in real time, the first one too wherever no change of the clock leaves out a day. -/
theorem anchors_end_of_derive [ZoneDatabase] {a b : Moment} {interval : Interval}
    (hinterval : Interval.ofMoments a b = .ok interval) {d : Detection} {dataset : Dataset}
    {s : Scheduling} {p : WindowPolicy} {replaced : Option WindowPolicy.SpeedUp}
    (hderive : WindowPolicy.derive d dataset interval s = .ok (p, replaced))
    (hregular : NamesRegular p.timezone) :
    (p.bucketPeriod.total ≤ 0 ∧
        p.anchors interval = .error (.bucketDoesNotAdvance p.bucketPeriod)) ∨
      (∃ fault, (p.align interval.finish = .error fault ∨ p.align interval.start = .error fault) ∧
        p.anchors interval = .error fault) ∨
      ∃ z start finish steps outcome, zoneNamed p.timezone = .ok z ∧
        p.align interval.start = .ok start ∧ p.align interval.finish = .ok finish ∧
        Ends p.bucketPeriod finish start steps outcome ∧
        p.anchors interval = (outcome.map fun _ => steps) ∧
        steps.IsChain (fun m m' => m.instant < m'.instant) ∧
        (Gentle z → (start :: steps).IsChain fun m m' => m.instant < m'.instant) := by
  rcases anchors_cases p interval with ⟨hfar, -⟩ | hstays | hfails |
    ⟨hspans, hpos, start, finish, hstart, hfinish⟩
  · exact absurd (spans_of_derive hderive) hfar
  · exact .inl hstays
  · exact .inr (.inl hfails)
  obtain ⟨z, hzone⟩ := exists_zone_of_align hstart
  have hz := hregular z hzone
  have honZone := onZone_align hzone (clock_bounds hinterval).1 hstart
  have hforward := forward_of_derive hderive hpos
  have hbucket := advances_of_forward hz hforward
  obtain ⟨steps, outcome, hends⟩ := exists_ends hz hbucket finish honZone
  exact .inr (.inr ⟨z, start, finish, steps, outcome, hzone, hstart, hfinish, hends,
    anchors_of_ends hspans hpos hstart hfinish honZone hends,
    isChain_steps_of_ends hz hbucket honZone hends,
    fun hgentle => isChain_of_ends_gentle hz hgentle hforward honZone hends⟩)

def plainDetection : Detection where
  name := "plain"
  metricUrn := "requests"
  detector := "threshold"

def newYorkDataset : Dataset where
  name := "newyork"
  granularity := .hourly
  timezone := "America/New_York"

def newYorkPlain : WindowPolicy :=
  { newYorkHourly with cachingLookback := 5184000000 }

open scoped ZoneTable

set_option maxRecDepth 10000 in
/-- Around the change to standard time the hours of New York are walked through to their end. -/
theorem newYorkPlain_walk_ends :
    let interval : Interval := ⟨hourOfSetBack 4, hourOfSetBack 8⟩
    Interval.ofMoments (hourOfSetBack 4) (hourOfSetBack 8) = .ok interval ∧
    WindowPolicy.derive plainDetection newYorkDataset interval {} = .ok (newYorkPlain, none) ∧
    NamesRegular newYorkPlain.timezone ∧
    ∃ z start finish steps outcome, zoneNamed newYorkPlain.timezone = .ok z ∧
      newYorkPlain.align interval.start = .ok start ∧
      newYorkPlain.align interval.finish = .ok finish ∧
      Ends newYorkPlain.bucketPeriod finish start steps outcome ∧
      newYorkPlain.anchors interval = (outcome.map fun _ => steps) ∧
      (start :: steps).IsChain fun m m' => m.instant < m'.instant := by
  intro interval
  have hinterval : Interval.ofMoments (hourOfSetBack 4) (hourOfSetBack 8) = .ok interval := rfl
  have hderive : WindowPolicy.derive plainDetection newYorkDataset interval {} =
      .ok (newYorkPlain, none) := rfl
  have hzone : zoneNamed newYorkPlain.timezone = .ok ZoneTable.newYork := rfl
  have hregular : NamesRegular newYorkPlain.timezone := namesRegular hzone regular_newYork
  have hanchors : newYorkPlain.anchors ⟨hourOfSetBack 4, hourOfSetBack 8⟩ =
      .ok [onSetBackDay 1 false, onSetBackDay 1 true, onSetBackDay 2 false,
        onSetBackDay 3 false] := rfl
  refine ⟨hinterval, hderive, hregular, ?_⟩
  rcases anchors_end_of_derive hinterval hderive hregular with
    ⟨hstays, -⟩ | ⟨fault, -, hfails⟩ | ⟨z, start, finish, steps, outcome, hfound, hstart, hfinish,
      hends, hsteps, -, hchain⟩
  · exact absurd hstays (by decide)
  · cases hanchors.symm.trans hfails
  · obtain rfl := Except.ok.inj (hzone.symm.trans hfound)
    exact ⟨_, start, finish, steps, outcome, hzone, hstart, hfinish, hends, hsteps,
      hchain gentle_newYork⟩

end AnomalyWindows.Proofs.FiniteWalks
