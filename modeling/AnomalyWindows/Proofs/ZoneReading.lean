import AnomalyWindows.Calendar.Conversion
import AnomalyWindows.Calendar.ZoneTable
import AnomalyWindows.Proofs.YearlyChanges

namespace AnomalyWindows.Proofs.ZoneReading

open Calendar
open AnomalyWindows.Proofs.CalendarYear AnomalyWindows.Proofs.ZoneTimeline
open AnomalyWindows.Proofs.YearlyChanges

/-- Changes that count less than a day from their instants. -/
def Near (start : Transition → Int) : Prop :=
  ∀ t, Mild t → t.instant - 86400 < start t ∧ start t < t.instant + 86400

theorem near_instant : Near Transition.instant := by
  intro t _
  omega

theorem near_wallStart (fold : Bool) : Near (Transition.wallStart fold) := by
  rintro t ⟨⟨hbefore, hbefore'⟩, ⟨hafter, hafter'⟩, -⟩
  cases fold
  · rw [wallStart_false]
    omega
  · rw [wallStart_true]
    omega

theorem offsetBy_eq (z : Zone) (start : Transition → Int) (time : Int) :
    z.offsetBy start time =
      held start time Transition.after (z.changesAround start time).1
        (z.changesAround start time).2 :=
  held_lastChange ..

theorem foldAt_eq (z : Zone) (instant : Int) :
    z.foldAt instant =
      held Transition.instant instant (repeats instant) false
        (z.changesAround Transition.instant instant).2 :=
  held_lastChange ..

/-- Up to a limit a zone is read on a timeline. -/
structure ReadOn (z : Zone) (limit : Int) (changes : List Transition) : Prop where
  timeline : Timeline z.initial changes
  offsetBy : ∀ time ≤ limit, ∀ start, Near start →
    z.offsetBy start time = held start time Transition.after z.initial changes
  foldAt : ∀ instant ≤ limit,
    z.foldAt instant = held Transition.instant instant (repeats instant) false changes

/-- A zone that is read on timelines. -/
def Regular (z : Zone) : Prop :=
  ∀ limit, ∃ changes, ReadOn z limit changes

/-- A name that leads to a regular zone or to none. -/
def NamesRegular [ZoneDatabase] (name : String) : Prop :=
  ∀ z, zoneNamed name = .ok z → Regular z

theorem namesRegular [ZoneDatabase] {name : String} {z : Zone} (hzone : zoneNamed name = .ok z)
    (hz : Regular z) : NamesRegular name := by
  intro z' hzone'
  cases hzone.symm.trans hzone'
  exact hz

theorem changesAround_of_constant {z : Zone} (hconstant : z.tail = .constant)
    (start : Transition → Int) (time : Int) :
    z.changesAround start time = (z.initial, z.history) := by
  rw [Zone.changesAround, hconstant]

theorem regular_of_constant {z : Zone} (hconstant : z.tail = .constant)
    (htimeline : Timeline z.initial z.history) : Regular z := by
  refine fun limit => ⟨z.history, htimeline, fun time _ start _ => ?_, fun instant _ => ?_⟩
  · rw [offsetBy_eq, changesAround_of_constant hconstant]
  · rw [foldAt_eq, changesAround_of_constant hconstant]

/-- How the yearly rule of a zone goes on from the recorded changes. Of the changes of a year those
before a recent one are past when the last record is made; the recent one is recorded last, or left
as it is by the last record. -/
structure Recurs (z : Zone) (d : Daylight) (year : Int) (last : Transition)
    (past : List Transition) (recent : Transition) (coming : List Transition) : Prop where
  tail : z.tail = .yearly d
  seasonal : Seasonal d
  recorded : z.history.getLast? = some last
  changes : d.changes year = past ++ recent :: coming
  timeline : Timeline z.initial (z.history ++ coming)
  passed : ∀ t ∈ past, t.instant + 172800 ≤ last.instant
  settled : recent = last ∨ recent.after = last.after ∧ recent.instant + 172800 ≤ last.instant ∧
    last.before ≤ last.after
  inYear : newYear year * 86400 + 86400 ≤ last.instant ∧
    last.instant ≤ newYear (year + 1) * 86400

instance (z : Zone) (d : Daylight) (year : Int) (last : Transition) (past : List Transition)
    (recent : Transition) (coming : List Transition) :
    Decidable (Recurs z d year last past recent coming) :=
  decidable_of_iff
    (z.tail = .yearly d ∧ Seasonal d ∧ z.history.getLast? = some last ∧
      d.changes year = past ++ recent :: coming ∧ Timeline z.initial (z.history ++ coming) ∧
      (∀ t ∈ past, t.instant + 172800 ≤ last.instant) ∧
      (recent = last ∨ recent.after = last.after ∧ recent.instant + 172800 ≤ last.instant ∧
        last.before ≤ last.after) ∧
      newYear year * 86400 + 86400 ≤ last.instant ∧ last.instant ≤ newYear (year + 1) * 86400)
    ⟨fun ⟨htail, hseasonal, hrecorded, hchanges, htimeline, hpassed, hsettled, hinYear⟩ =>
        ⟨htail, hseasonal, hrecorded, hchanges, htimeline, hpassed, hsettled, hinYear⟩,
      fun h => ⟨h.tail, h.seasonal, h.recorded, h.changes, h.timeline, h.passed, h.settled,
        h.inYear⟩⟩

theorem newYear_yearOf (time : Int) :
    newYear (Zone.yearOf time) * 86400 ≤ time ∧
      time < newYear (Zone.yearOf time + 1) * 86400 := by
  obtain ⟨hfirst, hlast⟩ := newYear_le_and_lt (time / 86400)
  rw [Zone.yearOf]
  omega

section Recurs

variable {z : Zone} {d : Daylight} {year : Int} {last recent : Transition}
  {past coming : List Transition} {start : Transition → Int} {time : Int}

theorem changesAround_of_recorded (h : Recurs z d year last past recent coming)
    (hrecorded : ∃ t ∈ z.history, time ≤ start t) :
    z.changesAround start time = (z.initial, z.history) := by
  have hnot : z.history.all (fun t => start t < time) = false := by
    simpa [List.all_eq_false] using hrecorded
  simp only [Zone.changesAround, h.tail, hnot, Bool.false_eq_true, if_false]

theorem changesAround_of_passed (h : Recurs z d year last past recent coming)
    (hpassed : ∀ t ∈ z.history, start t < time) :
    z.changesAround start time = (winter d, d.changes (Zone.yearOf time)) := by
  have hall : z.history.all (fun t => start t < time) = true := by
    simpa [List.all_eq_true] using hpassed
  simp only [Zone.changesAround, h.tail, hall, if_true]
  obtain ⟨r, r', summer, -, -, -, -, hchanges⟩ := exists_turns h.seasonal
  rw [hchanges]
  rfl

/-- The timeline of a zone with a yearly rule through some years. -/
def through (z : Zone) (d : Daylight) (year : Int) (coming : List Transition) (count : Nat) :
    List Transition :=
  z.history ++ (coming ++ years d (year + 1) count)

theorem coming_inYear (h : Recurs z d year last past recent coming) :
    ∀ t ∈ coming, newYear year * 86400 + 172800 ≤ t.instant ∧
      t.instant + 172800 ≤ newYear (year + 1) * 86400 := by
  intro t ht
  refine changes_inYear h.seasonal year t ?_
  rw [h.changes]
  exact List.mem_append_right past (List.mem_cons_of_mem recent ht)

theorem left_recorded {α : Type} {value : Transition → α} {opening : α}
    (h : Recurs z d year last past recent coming) : left value opening z.history = value last := by
  rw [left, h.recorded]
  rfl

theorem timeline_through (h : Recurs z d year last past recent coming) (count : Nat) :
    Timeline z.initial (through z d year coming count) := by
  have hwinter : left Transition.after z.initial (z.history ++ coming) = winter d := by
    have hafter : recent.after = last.after := by
      rcases h.settled with rfl | hsettled
      · rfl
      · exact hsettled.1
    have hleft := left_changes h.seasonal year z.initial
    rw [h.changes, left_append, left_cons] at hleft
    rw [left_append, left_recorded h, ← hafter, hleft]
  have hrecords := h.timeline.split.1
  rw [through, ← List.append_assoc]
  refine h.timeline.append ?_ fun t ht u hu => ?_
  · rw [hwinter]
    exact timeline_years h.seasonal (year + 1) count
  · have hlater := (years_within h.seasonal (year + 1) count u hu).1
    have hlast := h.inYear.2
    rcases List.mem_append.mp ht with ht | ht
    · rcases hrecords.le_last h.recorded t ht with rfl | hbefore
      · omega
      · omega
    · have hin := (coming_inYear h t ht).2
      omega

variable {α : Type} {value : Transition → α} {opening : α}

theorem held_through_of_recorded (h : Recurs z d year last past recent coming)
    (hnear : Near start) (hrecorded : ∃ t ∈ z.history, time ≤ start t) (count : Nat) :
    held start time value opening (through z d year coming count) =
      held start time value opening z.history := by
  obtain ⟨t, ht, hahead⟩ := hrecorded
  obtain ⟨hrecords, hbeyond, hapart⟩ := (timeline_through h count).split
  refine held_append_of_not_started _ fun u hu => ?_
  have hu := List.mem_of_mem_head? hu
  have hclose := (hnear t (hrecords.mild t ht)).2
  have hfar := (hnear u (hbeyond.mild u hu)).1
  have htu := hapart t ht u hu
  omega

theorem lt_start_of_later_year (h : Recurs z d year last past recent coming)
    (hnear : Near start) {later : Int} (hlater : Zone.yearOf time < later) (count : Nat) :
    ∀ u ∈ (years d later count).head?, time < start u := by
  intro u hu
  have hu := List.mem_of_mem_head? hu
  have hfar := (hnear u ((timeline_years h.seasonal later count).mild u hu)).1
  have hin := (years_within h.seasonal later count u hu).1
  have hnext := newYear_mono (show Zone.yearOf time + 1 ≤ later by omega)
  have htime := (newYear_yearOf time).2
  omega

theorem held_through_of_same_year (h : Recurs z d year last past recent coming)
    (hnear : Near start) (hpassed : ∀ t ∈ z.history, start t < time)
    (hyear : Zone.yearOf time = year) (hvalue : value recent = value last) (count : Nat)
    (current : α) :
    held start time value opening (through z d year coming count) =
      held start time value current (d.changes year) := by
  have hmild := (timeline_changes h.seasonal year).mild
  have hlast : last ∈ z.history := List.mem_of_getLast? h.recorded
  have hlastNear := (hnear last (h.timeline.split.1.mild last hlast)).1
  have hlastPassed := hpassed last hlast
  rw [h.changes] at hmild ⊢
  -- both sides come down to the changes still to come, behind the recent one
  rw [through, held_append_of_started _ fun t ht => Int.le_of_lt (hpassed t ht), left_recorded h,
    held_append_of_not_started coming (lt_start_of_later_year h hnear (by omega) count),
    held_append_of_started, held_cons_of_le, hvalue]
  · rcases h.settled with rfl | ⟨-, hbefore, -⟩
    · omega
    · have hclose := (hnear recent (hmild recent (by simp))).2
      omega
  · intro t ht
    have hclose := (hnear t (hmild t (by simp [ht]))).2
    have hbefore := h.passed t ht
    omega

theorem through_split (z : Zone) (d : Daylight) {year later : Int} (coming : List Transition)
    {count : Nat} (hlater : year < later) (hcount : later ≤ year + count) :
    ∃ before more, through z d year coming count =
      (z.history ++ (coming ++ years d (year + 1) before)) ++
        (d.changes later ++ years d (later + 1) more) ∧ year + 1 + before = later := by
  obtain ⟨before, hbefore⟩ := Int.le.dest (show year + 1 ≤ later by omega)
  obtain ⟨more, hmore⟩ := Nat.le.dest (show before + 1 ≤ count by omega)
  refine ⟨before, more, ?_, hbefore⟩
  rw [through, ← hmore, Nat.add_assoc, Nat.add_comm 1 more, years_add, hbefore, years]
  simp only [List.append_assoc]

theorem held_through_of_later_year (value : Transition → α) (opening : α)
    (h : Recurs z d year last past recent coming) (hnear : Near start)
    (hpassed : ∀ t ∈ z.history, start t < time)
    (hyear : year < Zone.yearOf time) {count : Nat} (hcount : Zone.yearOf time ≤ year + count) :
    ∃ before after, through z d year coming count =
        before ++ (d.changes (Zone.yearOf time) ++ after) ∧
      held start time value opening (through z d year coming count) =
        held start time value (left value opening before) (d.changes (Zone.yearOf time)) ∧
      ∀ t ∈ before.getLast?, t = last ∨ t.instant + 172800 ≤ time := by
  obtain ⟨before, more, hthrough, hbefore⟩ := through_split z d coming hyear hcount
  have htime := (newYear_yearOf time).1
  have hnext := newYear_mono (show year + 1 ≤ Zone.yearOf time by omega)
  have hmild := (timeline_through h count).mild
  rw [hthrough] at hmild ⊢
  have hbeyond : ∀ t ∈ coming ++ years d (year + 1) before, t.instant + 172800 ≤ time := by
    intro t ht
    rcases List.mem_append.mp ht with ht | ht
    · have hin := (coming_inYear h t ht).2
      omega
    · have hin := (years_within h.seasonal (year + 1) before t ht).2
      rw [hbefore] at hin
      omega
  refine ⟨_, _, rfl, ?_, ?_⟩
  · rw [held_append_of_started, held_append_of_not_started _
      (lt_start_of_later_year h hnear (Int.lt_succ _) more)]
    intro t ht
    rcases List.mem_append.mp ht with hrecord | hlater
    · exact Int.le_of_lt (hpassed t hrecord)
    · have hclose := (hnear t (hmild t (List.mem_append_left _ ht))).2
      have hpast := hbeyond t hlater
      omega
  · intro t ht
    rw [Option.mem_def, List.getLast?_append, h.recorded] at ht
    cases hlater : (coming ++ years d (year + 1) before).getLast? with
    | none =>
        rw [hlater] at ht
        exact .inl (Option.some.inj ht).symm
    | some u =>
        rw [hlater] at ht
        obtain rfl : u = t := Option.some.inj ht
        exact .inr (hbeyond u (List.mem_of_getLast? hlater))

theorem repeats_of_forth {t : Transition} {instant : Int} (hforth : t.before ≤ t.after)
    (hstarted : t.instant ≤ instant) : repeats instant t = false := by
  rw [repeats, decide_eq_false_iff_not]
  omega

theorem repeats_last_of_later_year (h : Recurs z d year last past recent coming)
    (hlast : last.instant ≤ time) (hyear : year < Zone.yearOf time) :
    repeats time last = false := by
  rcases h.settled with rfl | ⟨-, -, hforth⟩
  · have hmem : recent ∈ d.changes year := by
      rw [h.changes]
      simp
    have hin := (changes_inYear h.seasonal year recent hmem).2
    have hnext := newYear_mono (show year + 1 ≤ Zone.yearOf time by omega)
    have htime := (newYear_yearOf time).1
    exact repeats_of_past ((timeline_changes h.seasonal year).mild recent hmem) (by omega)
  · exact repeats_of_forth hforth hlast

theorem year_le_of_passed (h : Recurs z d year last past recent coming) (hnear : Near start)
    (hpassed : ∀ t ∈ z.history, start t < time) : year ≤ Zone.yearOf time := by
  have hlast : last ∈ z.history := List.mem_of_getLast? h.recorded
  have hfar := (hnear last (h.timeline.split.1.mild last hlast)).1
  have hin := h.inYear.1
  have hlastPassed := hpassed last hlast
  have htime := (newYear_yearOf time).2
  by_contra hyear
  have hbefore := newYear_mono (show Zone.yearOf time + 1 ≤ year by omega)
  omega

theorem offsetBy_of_recurs (h : Recurs z d year last past recent coming) (hnear : Near start)
    {count : Nat} (hcount : Zone.yearOf time ≤ year + count) :
    z.offsetBy start time =
      held start time Transition.after z.initial (through z d year coming count) := by
  rw [offsetBy_eq]
  by_cases hrecorded : ∃ t ∈ z.history, time ≤ start t
  · rw [changesAround_of_recorded h hrecorded, held_through_of_recorded h hnear hrecorded]
  · have hpassed : ∀ t ∈ z.history, start t < time := by
      simpa using hrecorded
    rw [changesAround_of_passed h hpassed]
    rcases Int.le_iff_eq_or_lt.mp (year_le_of_passed h hnear hpassed) with hsame | hlater
    · have hafter : recent.after = last.after := by
        rcases h.settled with rfl | hsettled
        · rfl
        · exact hsettled.1
      rw [held_through_of_same_year h hnear hpassed hsame.symm hafter count (winter d), ← hsame]
    · obtain ⟨before, after, hthrough, hheld, -⟩ :=
        held_through_of_later_year Transition.after z.initial h hnear hpassed hlater hcount
      have hopens := (hthrough ▸ timeline_through h count).split.2.1.opens
      obtain ⟨r, r', summer, -, -, -, -, hchanges⟩ := exists_turns h.seasonal
      rw [hheld, ← hopens (turn r (winter d) summer (Zone.yearOf time)) (by rw [hchanges]; rfl)]
      rfl

theorem foldAt_of_recurs (h : Recurs z d year last past recent coming)
    {count : Nat} (hcount : Zone.yearOf time ≤ year + count) :
    z.foldAt time =
      held Transition.instant time (repeats time) false (through z d year coming count) := by
  rw [foldAt_eq]
  by_cases hrecorded : ∃ t ∈ z.history, time ≤ t.instant
  · rw [changesAround_of_recorded h hrecorded,
      held_through_of_recorded h near_instant hrecorded]
  · have hpassed : ∀ t ∈ z.history, t.instant < time := by
      simpa using hrecorded
    have hlast : last.instant ≤ time :=
      Int.le_of_lt (hpassed last (List.mem_of_getLast? h.recorded))
    rw [changesAround_of_passed h hpassed]
    rcases Int.le_iff_eq_or_lt.mp (year_le_of_passed h near_instant hpassed) with hsame | hlater
    -- a change that is long past repeats no wall time, whichever one is looked at
    · have hrepeats : repeats time recent = repeats time last := by
        rcases h.settled with rfl | ⟨-, hbefore, hforth⟩
        · rfl
        · have hrecent : recent ∈ d.changes year := by
            rw [h.changes]
            simp
          rw [repeats_of_forth hforth hlast,
            repeats_of_past ((timeline_changes h.seasonal year).mild recent hrecent) (by omega)]
      rw [held_through_of_same_year h near_instant hpassed hsame.symm hrepeats count false, ← hsame]
    · obtain ⟨before, after, hthrough, hheld, hbefore⟩ :=
        held_through_of_later_year (repeats time) false h near_instant hpassed hlater hcount
      have hmild := (hthrough ▸ timeline_through h count).mild
      rw [hheld, left]
      cases hgetLast : before.getLast? with
      | none => rfl
      | some t =>
          have hrepeats : repeats time t = false := by
            rcases hbefore t hgetLast with rfl | hpast
            · exact repeats_last_of_later_year h hlast hlater
            · exact repeats_of_past
                (hmild t (List.mem_append_left _ (List.mem_of_getLast? hgetLast))) hpast
          rw [Option.map_some, Option.getD_some, hrepeats]

end Recurs

theorem yearOf_mono {time time' : Int} (hle : time ≤ time') :
    Zone.yearOf time ≤ Zone.yearOf time' := by
  by_contra hyear
  have hnext := newYear_mono (show Zone.yearOf time' + 1 ≤ Zone.yearOf time by omega)
  have hfirst := (newYear_yearOf time).1
  have hlast := (newYear_yearOf time').2
  omega

theorem regular_of_recurs {z : Zone} {d : Daylight} {year : Int} {last recent : Transition}
    {past coming : List Transition} (h : Recurs z d year last past recent coming) :
    Regular z := by
  intro limit
  have hcount : ∀ time ≤ limit,
      Zone.yearOf time ≤ year + ((Zone.yearOf limit - year).toNat : Int) := by
    intro time htime
    have hle := yearOf_mono htime
    omega
  refine ⟨through z d year coming (Zone.yearOf limit - year).toNat, timeline_through h _, ?_, ?_⟩
  · intro time htime start hnear
    exact offsetBy_of_recurs h hnear (hcount time htime)
  · intro instant hinstant
    exact foldAt_of_recurs h (hcount instant hinstant)

def recordYear (last : Transition) : Int :=
  Zone.yearOf (last.instant - 86400)

/-- The changes of that year by the yearly rule that are past when the last record is made. -/
def pastBy (d : Daylight) (last : Transition) : List Transition :=
  (d.changes (recordYear last)).takeWhile fun t => t.instant ≤ last.instant

def comingAfter (d : Daylight) (last : Transition) : List Transition :=
  (d.changes (recordYear last)).dropWhile fun t => t.instant ≤ last.instant

/-- A zone whose records form a timeline on which its yearly rule, if it has one, goes on. -/
def Steady (z : Zone) : Prop :=
  match z.tail with
  | .constant => Timeline z.initial z.history
  | .yearly d => ∃ last ∈ z.history.getLast?, ∃ recent ∈ (pastBy d last).getLast?,
    Recurs z d (recordYear last) last (pastBy d last).dropLast recent (comingAfter d last)

instance (z : Zone) : Decidable (Steady z) :=
  match h : z.tail with
  | .constant => decidable_of_iff (Timeline z.initial z.history) (by rw [Steady, h])
  | .yearly d =>
    decidable_of_iff
      (∃ last ∈ z.history.getLast?, ∃ recent ∈ (pastBy d last).getLast?,
        Recurs z d (recordYear last) last (pastBy d last).dropLast recent (comingAfter d last))
      (by rw [Steady, h])

theorem regular_of_steady {z : Zone} (h : Steady z) : Regular z := by
  rw [Steady] at h
  split at h
  · next hconstant => exact regular_of_constant hconstant h
  · obtain ⟨last, -, recent, -, hrecurs⟩ := h
    exact regular_of_recurs hrecurs

set_option maxRecDepth 10000 in
theorem steady_of_known : ∀ z ∈ ZoneTable.zones, Steady z := by
  decide +kernel

theorem regular_of_mem {z : Zone} (h : z ∈ ZoneTable.zones) : Regular z :=
  regular_of_steady (steady_of_known z h)

theorem regular_utc : Regular Zone.utc :=
  regular_of_constant rfl (by decide)

theorem regular_newYork : Regular ZoneTable.newYork :=
  regular_of_mem (by simp [ZoneTable.zones])

end AnomalyWindows.Proofs.ZoneReading
