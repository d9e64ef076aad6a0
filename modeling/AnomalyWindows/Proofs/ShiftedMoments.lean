import AnomalyWindows.Calendar.ZoneTable
import AnomalyWindows.Proofs.ClockChanges
import AnomalyWindows.Proofs.SkippedTimes
import Mathlib.Order.Bounds.Basic

namespace AnomalyWindows.Proofs.ShiftedMoments

open Calendar
open AnomalyWindows.Proofs.CalendarMoves
open AnomalyWindows.Proofs.ZoneTimeline AnomalyWindows.Proofs.ZoneReading
open AnomalyWindows.Proofs.ClockSteps AnomalyWindows.Proofs.FirstPass
open AnomalyWindows.Proofs.SkippedTimes AnomalyWindows.Proofs.ClockChanges

section Gap

variable {z : Zone} (hz : Regular z)
include hz

/-- A wall time in the gap of a change is read with the offset from before the change, as an instant
at which the other offset is in force already. -/
theorem offset_of_gap {jump wall : Int} (hfrom : jump + (changeAt z jump).before ≤ wall)
    (hto : wall < jump + (changeAt z jump).after) :
    z.offsetOfWall wall false = (changeAt z jump).before ∧
      z.offsetAt (wall - (changeAt z jump).before) = (changeAt z jump).after := by
  have hforce := inForce_changeAt hz (show (changeAt z jump).before ≠ (changeAt z jump).after by
    omega)
  have hinstant : (changeAt z jump).instant = jump := rfl
  obtain ⟨-, -, hforth, -⟩ := hforce.mild
  have hrepeats : repeats (wall - (changeAt z jump).before) (changeAt z jump) = false :=
    repeats_of_forth (by omega) (by omega)
  have hread := hforce.offsetOfWall (wall - (changeAt z jump).before) wall (by omega) (by omega)
    (by omega) (by omega)
  rw [hrepeats, wallStart_false, if_neg (by omega)] at hread
  exact ⟨hread, hforce.after _ (by omega) (by omega)⟩

theorem exists_gap {wall : Int}
    (hskipped : z.offsetOfWall wall false < z.offsetAt (wall - z.offsetOfWall wall false)) :
    ∃ jump, jump + (changeAt z jump).before ≤ wall ∧ wall < jump + (changeAt z jump).after := by
  obtain ⟨t, hforce⟩ := exists_inForce hz (wall - z.offsetOfWall wall false)
  have hafter := hforce.after _ hforce.started (Int.le_refl _)
  have hnear := (offset_behind_gap hz hskipped).1
  have hrepeats : repeats (wall - z.offsetOfWall wall false) t = false := by
    rw [← hforce.foldAt _ hforce.started (Int.le_refl _)]
    exact foldAt_firstPass hz wall
  have hread := hforce.offsetOfWall _ wall hforce.started (Int.le_refl _) (by omega) (by omega)
  have hstarted := hforce.started
  refine ⟨t.instant, ?_⟩
  rw [changeAt_of_inForce hforce]
  rw [hrepeats, wallStart_false] at hread
  split at hread <;> omega

end Gap

/-- A clock that tells instants: at a fixed offset, or that of a zone that is read on timelines. -/
inductive Aware : Clock → Prop
  | fixed (offset : Int) : Aware (.fixed offset)
  | zone {z : Zone} (hz : Regular z) : Aware (.zone z)

def shownAt (c : Clock) (wall : Int) : Set Int :=
  {instant | (Moment.onClock c instant).wall = wall}

/-- At some instant a clock is set forward by a length, past a wall time. -/
def Skips (c : Clock) (wall length : Int) : Prop :=
  ∃ jump, 0 < length ∧ c.offsetAt jump = c.offsetAt (jump - 1) + length ∧
    jump + c.offsetAt (jump - 1) ≤ wall ∧ wall < jump + c.offsetAt jump

theorem not_skips_fixed (offset wall length : Int) : ¬ Skips (.fixed offset) wall length := by
  rintro ⟨jump, hpos, hforward, -⟩
  simp only [Clock.offsetAt] at hforward
  omega

theorem skips_zone_iff {z : Zone} {wall length : Int} :
    Skips (.zone z) wall length ↔
      ∃ jump, jump + (changeAt z jump).before ≤ wall / second ∧
        wall / second < jump + (changeAt z jump).after ∧
        length = ((changeAt z jump).after - (changeAt z jump).before) * second := by
  constructor
  · rintro ⟨jump, hpos, hforward, hfrom, hto⟩
    simp only [Clock.offsetAt] at hforward hfrom hto
    have hsecond : (jump - 1) / second = jump / second - 1 ∧ jump % second = 0 := by
      have hother : jump / second ≠ (jump - 1) / second := by
        intro hsame
        rw [hsame] at hforward
        omega
      simp only [second] at *
      omega
    refine ⟨jump / second, ?_⟩
    rw [hsecond.1] at hforward hfrom
    simp only [changeAt, second] at *
    omega
  · rintro ⟨jump, hfrom, hto, rfl⟩
    have hjump : jump * second / second = jump ∧ (jump * second - 1) / second = jump - 1 := by
      simp only [second]
      omega
    refine ⟨jump * second, ?_⟩
    simp only [Clock.offsetAt, hjump]
    simp only [changeAt, second] at *
    omega

section Aware

variable {c : Clock} (hc : Aware c)
include hc

theorem isNaive_of_aware {m : Moment} (hm : m.clock = c) : m.isNaive = false := by
  rw [Moment.isNaive, hm]
  cases hc <;> rfl

theorem instant_onClock_of_aware (instant : Int) :
    (Moment.onClock c instant).instant = instant := by
  cases hc with
  | fixed offset => exact Int.add_sub_cancel instant offset
  | zone hz => exact instant_onClock hz instant

theorem isLeast_firstPass (wall : Int) :
    IsLeast (shownAt c (Moment.onClock c (Moment.instant ⟨wall, false, c⟩)).wall)
      (Moment.instant ⟨wall, false, c⟩) := by
  refine ⟨rfl, fun earlier hearlier => ?_⟩
  by_contra hbefore
  have hlt : earlier < Moment.instant ⟨wall, false, c⟩ := Int.not_le.mp hbefore
  cases hc with
  | fixed offset =>
      change earlier + offset = Moment.instant ⟨wall, false, .fixed offset⟩ + offset at hearlier
      omega
  | zone hz =>
      exact Int.ne_of_lt (onClock_wall_lt_firstPass hz hlt) hearlier

theorem onClock_firstPass_of_shown {wall : Int} (hshown : (shownAt c wall).Nonempty) :
    (Moment.onClock c (Moment.instant ⟨wall, false, c⟩)).wall = wall := by
  obtain ⟨instant, hinstant⟩ := hshown
  cases hc with
  | fixed offset => exact Int.sub_add_cancel wall offset
  | zone hz => exact onClock_readAt_of_shown hz false hinstant

theorem onClock_firstPass_of_skips {wall length : Int} (hskips : Skips c wall length) :
    (Moment.onClock c (Moment.instant ⟨wall, false, c⟩)).wall = wall + length := by
  cases hc with
  | fixed offset => exact absurd hskips (not_skips_fixed offset wall length)
  | zone hz =>
      obtain ⟨jump, hfrom, hto, rfl⟩ := skips_zone_iff.mp hskips
      obtain ⟨hread, hat⟩ := offset_of_gap hz hfrom hto
      rw [wall_onClock_instant, hread, hat]

theorem shown_or_skips (wall : Int) :
    (shownAt c wall).Nonempty ∨ ∃ length, Skips c wall length := by
  cases hc with
  | fixed offset => exact .inl ⟨wall - offset, Int.sub_add_cancel wall offset⟩
  | @zone z hz =>
      have hwall := wall_onClock_instant z wall false
      rcases Int.le_iff_eq_or_lt.mp (offsetOfWall_le hz (wall / second)) with hsame | hskipped
      · rw [← hsame, Int.sub_self, Int.zero_mul, Int.add_zero] at hwall
        exact .inl ⟨_, hwall⟩
      · obtain ⟨jump, hfrom, hto⟩ := exists_gap hz hskipped
        exact .inr ⟨_, skips_zone_iff.mpr ⟨jump, hfrom, hto, rfl⟩⟩

end Aware

/-- An instant that lies in years 1 to 9999, in UTC as well as on a clock. -/
def Dated (c : Clock) (instant : Int) : Prop :=
  InYears instant ∧ InYears (Moment.onClock c instant).wall
  deriving Decidable

/-- The time between two dates is no duration that is too long, either way. -/
theorem spans_of_inYears {time duration sign : Int} (hsign : sign = 1 ∨ sign = -1)
    (hfrom : InYears time) (hto : InYears (time + sign * duration)) :
    Spans duration ∧ Spans (sign * duration) := by
  simp only [InYears, Spans, firstWall, lastWall, shortestDuration, longestDuration, day, hour,
    minute, second] at *
  rcases hsign with rfl | rfl <;> omega

section Aware

variable {c : Clock} (hc : Aware c)
include hc

theorem convert_to_utc {m : Moment} (hm : m.clock = c) (hinstant : InYears m.instant) :
    ∃ fold, m.convert .utc = .ok ⟨m.instant, fold, .utc⟩ ∧ (fold = true → m.fold = true) := by
  by_cases hutc : c.same .utc = true
  · refine ⟨m.fold, ?_, id⟩
    rw [Moment.convert, hm, if_pos hutc]
    cases hc with
    | fixed offset =>
        obtain rfl : offset = 0 := by simpa [Clock.same, Clock.utc] using hutc
        obtain ⟨wall, fold, _⟩ := m
        obtain rfl : _ = Clock.utc := hm
        rw [instant_of_utc rfl]
    | zone hz => cases hutc
  · rw [Bool.not_eq_true, ← hm] at hutc
    refine ⟨false, (convert_eq_ok_iff (isNaive_of_aware hc hm) hutc).mpr ⟨hinstant, ?_, ?_⟩,
      fun h => absurd h Bool.false_ne_true⟩
    · rwa [onClock_utc]
    · rw [onClock_utc]
      rfl

theorem convert_from_utc {instant : Int} (hdated : Dated c instant) :
    (⟨instant, false, .utc⟩ : Moment).convert c = .ok (.onClock c instant) := by
  by_cases hutc : Clock.utc.same c = true
  · rw [Moment.convert, if_pos hutc]
    cases hc with
    | fixed offset =>
        obtain rfl : 0 = offset := by simpa [Clock.same, Clock.utc] using hutc
        exact congrArg Except.ok (onClock_utc instant).symm
    | zone hz => cases hutc
  · have hinstant : (⟨instant, false, .utc⟩ : Moment).instant = instant := instant_of_utc rfl
    refine (convert_eq_ok_iff rfl (Bool.not_eq_true _ ▸ hutc)).mpr ?_
    rw [hinstant]
    exact ⟨hdated.1, hdated.2, rfl⟩

theorem settled_of_dated {wall : Int} (hdated : Dated c (Moment.instant ⟨wall, false, c⟩)) :
    (⟨wall, false, c⟩ : Moment).settled =
      .ok (.onClock c (Moment.instant ⟨wall, false, c⟩)) := by
  obtain ⟨fold, hconvert, hfold⟩ := convert_to_utc hc (m := ⟨wall, false, c⟩) rfl hdated.1
  obtain rfl : fold = false := Bool.eq_false_iff.mpr fun h => Bool.false_ne_true (hfold h)
  exact bind_eq_ok_iff.mpr ⟨_, hconvert, convert_from_utc hc hdated⟩

theorem moveDays_of_dated {m : Moment} (hm : m.clock = c) {days sign : Int}
    (hsign : sign = 1 ∨ sign = -1) (hstart : InYears m.wall)
    (hreached : InYears (m.wall + sign * (days * day)))
    (hdated : Dated c (Moment.instant ⟨m.wall + sign * (days * day), false, c⟩)) :
    Period.moveDays days sign m =
      .ok (.onClock c (Moment.instant ⟨m.wall + sign * (days * day), false, c⟩)) := by
  obtain ⟨hspans, hspans'⟩ := spans_of_inYears hsign hstart hreached
  refine bind_eq_ok_iff.mpr ⟨_, checkedDuration_eq_ok_iff.mpr ⟨hspans, rfl⟩, ?_⟩
  refine bind_eq_ok_iff.mpr ⟨_, checkedDuration_eq_ok_iff.mpr ⟨hspans', rfl⟩, ?_⟩
  refine bind_eq_ok_iff.mpr ⟨_, checkedWall_eq_ok_iff.mpr ⟨hreached, rfl⟩, ?_⟩
  rw [isNaive_of_aware hc hm, hm]
  exact settled_of_dated hc hdated

theorem moveExact_of_dated {m : Moment} (hm : m.clock = c) {step sign : Int}
    (hsign : sign = 1 ∨ sign = -1) (hstart : InYears m.instant)
    (hdated : Dated c (m.instant + sign * step)) :
    Period.moveExact step sign m = .ok (.onClock c (m.instant + sign * step)) := by
  obtain ⟨-, hspans⟩ := spans_of_inYears hsign hstart hdated.1
  obtain ⟨fold, hconvert, -⟩ := convert_to_utc hc hm hstart
  refine bind_eq_ok_iff.mpr ⟨_, checkedDuration_eq_ok_iff.mpr ⟨hspans, rfl⟩, ?_⟩
  rw [isNaive_of_aware hc hm]
  refine bind_eq_ok_iff.mpr ⟨_, hconvert, ?_⟩
  refine bind_eq_ok_iff.mpr ⟨_, checkedWall_eq_ok_iff.mpr ⟨hdated.1, rfl⟩, ?_⟩
  rw [hm]
  exact convert_from_utc hc hdated

end Aware

def wallAfter (p : Period) (sign : Int) (m : Moment) : Int :=
  m.wall + sign * ((7 * p.weeks + p.days) * day)

/-- The instant that the days of a period lead to: the moment's own if there are none, else the
first occurrence of the wall time that many days away, or, if a gap skips that, of the wall time
moved forward by the length of the gap. -/
inductive Reaches (p : Period) (sign : Int) (m : Moment) : Int → Prop
  | undated (h : p.calendarDays = 0) : Reaches p sign m m.instant
  | shown {r : Int} (h : p.calendarDays ≠ 0)
      (hr : IsLeast (shownAt m.clock (wallAfter p sign m)) r) : Reaches p sign m r
  | skipped {r length : Int} (h : p.calendarDays ≠ 0)
      (hskips : Skips m.clock (wallAfter p sign m) length)
      (hr : IsLeast (shownAt m.clock (wallAfter p sign m + length)) r) : Reaches p sign m r

/-- The dates that a period passes through from a moment lie in years 1 to 9999. -/
structure InRange (p : Period) (sign : Int) (m : Moment) (r : Int) : Prop where
  start : InYears m.wall
  reached : InYears r
  onDay : p.calendarDays ≠ 0 → InYears (wallAfter p sign m) ∧ Dated m.clock r
  landed : Dated m.clock (r + sign * p.exact)

theorem wallAfter_eq (p : Period) (sign : Int) (m : Moment) :
    wallAfter p sign m = m.wall + sign * (p.calendarDays * day) := by
  rw [wallAfter, Period.calendarDays, Int.mul_comm p.weeks]

section Aware

variable {m : Moment} (hclock : Aware m.clock) {p : Period} {sign : Int}
include hclock

theorem reaches_iff {r : Int} :
    Reaches p sign m r ↔
      r = if p.calendarDays = 0 then m.instant
        else Moment.instant ⟨wallAfter p sign m, false, m.clock⟩ := by
  have hleast := isLeast_firstPass hclock (wallAfter p sign m)
  constructor
  · rintro (h | ⟨h, hr⟩ | ⟨h, hskips, hr⟩)
    · rw [if_pos h]
    · rw [if_neg h]
      rw [onClock_firstPass_of_shown hclock ⟨r, hr.1⟩] at hleast
      exact hr.unique hleast
    · rw [if_neg h]
      rw [onClock_firstPass_of_skips hclock hskips] at hleast
      exact hr.unique hleast
  · rintro rfl
    by_cases h : p.calendarDays = 0
    · rw [if_pos h]
      exact .undated h
    · rw [if_neg h]
      rcases shown_or_skips hclock (wallAfter p sign m) with hshown | ⟨length, hskips⟩
      · rw [onClock_firstPass_of_shown hclock hshown] at hleast
        exact .shown h hleast
      · rw [onClock_firstPass_of_skips hclock hskips] at hleast
        exact .skipped h hskips hleast

theorem exactShift_of_dated (n : Moment) (hn : n.clock = m.clock) (hsign : sign = 1 ∨ sign = -1)
    (hstart : InYears n.instant) (hdated : Dated m.clock (n.instant + sign * p.exact)) :
    (checkedDuration p.exact >>= fun step =>
        if step = 0 then .ok n else Period.moveExact step sign n) =
      .ok (if p.exact = 0 then n else .onClock m.clock (n.instant + sign * p.exact)) := by
  obtain ⟨hspans, -⟩ := spans_of_inYears hsign hstart hdated.1
  refine bind_eq_ok_iff.mpr ⟨_, checkedDuration_eq_ok_iff.mpr ⟨hspans, rfl⟩, ?_⟩
  by_cases hnone : p.exact = 0
  · rw [if_pos hnone, if_pos hnone]
  · rw [if_neg hnone, if_neg hnone]
    exact moveExact_of_dated hclock hn hsign hstart hdated

/-- A period that does something leads to what the clock shows its exact part behind the instant
that its days lead to. -/
theorem shift_of_inRange (hsome : p.calendarDays ≠ 0 ∨ p.exact ≠ 0)
    (hsign : sign = 1 ∨ sign = -1) {r : Int} (hr : Reaches p sign m r)
    (hrange : InRange p sign m r) :
    p.shift sign m = .ok (.onClock m.clock (r + sign * p.exact)) := by
  obtain ⟨hstart, hreached, honDay, hlanded⟩ := hrange
  have heq := (reaches_iff hclock).mp hr
  rw [shift_eq]
  by_cases hdays : p.calendarDays = 0
  · rw [if_pos hdays] at heq ⊢
    subst heq
    refine (exactShift_of_dated hclock m rfl hsign hreached hlanded).trans ?_
    rw [if_neg (hsome.resolve_left (not_not.mpr hdays))]
  · rw [if_neg hdays] at heq ⊢
    obtain ⟨hwall, hdated⟩ := honDay hdays
    subst heq
    rw [wallAfter_eq] at hwall hdated hreached hlanded ⊢
    refine bind_eq_ok_iff.mpr ⟨_, moveDays_of_dated hclock rfl hsign hstart hwall hdated, ?_⟩
    have hinstant := instant_onClock_of_aware hclock
      (Moment.instant ⟨m.wall + sign * (p.calendarDays * day), false, m.clock⟩)
    refine (exactShift_of_dated hclock (.onClock m.clock _) rfl hsign (hinstant.symm ▸ hreached)
      (hinstant.symm ▸ hlanded)).trans ?_
    rw [hinstant]
    split
    · next hnone => rw [hnone, Int.mul_zero, Int.add_zero]
    · rfl

/-- Without days a period leads as far in real time as it lasts, where that is a date. -/
theorem exists_shift_of_exact (hdays : p.calendarDays = 0) (hsign : sign = 1 ∨ sign = -1)
    (hstart : InYears m.instant) (hdated : Dated m.clock (m.instant + sign * p.exact)) :
    ∃ n, p.shift sign m = .ok n ∧ n.clock = m.clock ∧ n.instant = m.instant + sign * p.exact := by
  have hshift : p.shift sign m =
      .ok (if p.exact = 0 then m else .onClock m.clock (m.instant + sign * p.exact)) := by
    rw [shift_eq, if_pos hdays]
    exact exactShift_of_dated hclock m rfl hsign hstart hdated
  refine ⟨_, hshift, ?_, ?_⟩
  · split <;> rfl
  · split
    · next hnone => rw [hnone, Int.mul_zero, Int.add_zero]
    · exact instant_onClock_of_aware hclock _

end Aware

def additions (p : Period) : Nat → Moment → Except Fault Moment
  | 0, m => .ok m
  | count + 1, m => additions p count m >>= p.addTo

theorem exists_additions {m : Moment} (hclock : Aware m.clock) {p : Period}
    (hdays : p.calendarDays = 0) {count : Nat}
    (hdated : ∀ k ≤ count, Dated m.clock (m.instant + k * p.exact)) :
    ∃ n, additions p count m = .ok n ∧ n.clock = m.clock ∧
      n.instant = m.instant + count * p.exact := by
  induction count with
  | zero => exact ⟨m, rfl, rfl, by simp⟩
  | succ count ih =>
      obtain ⟨n, hn, hsame, hinstant⟩ := ih fun k hk => hdated k (Nat.le_succ_of_le hk)
      have hnext : n.instant + 1 * p.exact = m.instant + (count + 1 : Nat) * p.exact := by
        rw [hinstant, Int.natCast_succ, Int.add_mul, Int.add_assoc]
      have hstart : InYears n.instant := hinstant ▸ (hdated count (Nat.le_succ count)).1
      have hlanded : Dated n.clock (n.instant + 1 * p.exact) := by
        rw [hsame, hnext]
        exact hdated (count + 1) (Nat.le_refl _)
      obtain ⟨n', hn', hsame', hinstant'⟩ :=
        exists_shift_of_exact (hsame.symm ▸ hclock) hdays (.inl rfl) hstart hlanded
      exact ⟨n', bind_eq_ok_iff.mpr ⟨n, hn, hn'⟩, hsame'.trans hsame, hinstant'.trans hnext⟩

/-- A period leads from a moment, in either direction, to a wall time that the same clock shows at
that instant: its exact part behind the instant that its days lead to, which there always is.
Without days a subtraction takes an addition back, and some additions lead as far as one addition of
a period that lasts as many times as long. -/
theorem shift_lands {m : Moment} (hclock : Aware m.clock) {p : Period}
    (hsome : p.calendarDays ≠ 0 ∨ p.exact ≠ 0) {sign : Int} (hsign : sign = 1 ∨ sign = -1) :
    (∃ r, Reaches p sign m r) ∧
    (∀ r, Reaches p sign m r → InRange p sign m r →
      ∃ n, p.shift sign m = .ok n ∧ n.clock = m.clock ∧ n.instant ∈ shownAt m.clock n.wall ∧
        n.instant = r + sign * p.exact) ∧
    (p.calendarDays = 0 → Dated m.clock m.instant →
      (Dated m.clock (m.instant + p.exact) →
        ∃ n k, p.addTo m = .ok n ∧ p.subtractFrom n = .ok k ∧ k.instant = m.instant) ∧
      ∀ (count : Nat) (q : Period), q.calendarDays = 0 → q.exact = count * p.exact →
        (∀ k ≤ count, Dated m.clock (m.instant + k * p.exact)) →
          ∃ n n', additions p count m = .ok n ∧ q.addTo m = .ok n' ∧ n.instant = n'.instant) := by
  refine ⟨⟨_, (reaches_iff hclock).mpr rfl⟩, fun r hr hrange => ?_, fun hdays hown => ⟨?_, ?_⟩⟩
  · have hinstant := instant_onClock_of_aware hclock (r + sign * p.exact)
    exact ⟨_, shift_of_inRange hclock hsome hsign hr hrange, rfl,
      congrArg (fun i => (Moment.onClock m.clock i).wall) hinstant, hinstant⟩
  · intro hlanded
    obtain ⟨n, hn, hsame, hinstant⟩ := exists_shift_of_exact hclock hdays (.inl rfl) hown.1
      (by rwa [Int.one_mul])
    rw [Int.one_mul] at hinstant
    have hback : n.instant + -1 * p.exact = m.instant := by
      rw [hinstant]
      omega
    obtain ⟨k, hk, -, hinstant'⟩ := exists_shift_of_exact (hsame.symm ▸ hclock) hdays (.inr rfl)
      (hinstant ▸ hlanded.1) (by rwa [hsame, hback])
    exact ⟨n, k, hn, hk, hinstant'.trans hback⟩
  · intro count q hqdays hqexact hdated
    obtain ⟨n, hn, -, hinstant⟩ := exists_additions hclock hdays hdated
    have hlanded : Dated m.clock (m.instant + 1 * q.exact) := by
      rw [hqexact, Int.one_mul]
      exact hdated count (Nat.le_refl _)
    obtain ⟨n', hn', -, hinstant'⟩ :=
      exists_shift_of_exact hclock hqdays (.inl rfl) hown.1 hlanded
    exact ⟨n, n', hn, hn', by rw [hinstant, hinstant', hqexact, Int.one_mul]⟩

/-- Half past midnight in Beirut on the thirtieth of March 2024. The day after, that time is
skipped. -/
def beforeSkipped : Moment :=
  ⟨19812 * day + 30 * minute, false, .zone ZoneTable.beirut⟩

def dayAndHours : Period :=
  { Period.zero with days := 1, hours := 2 }

/-- The day leads to half past one, by UTC half past ten in the evening before. -/
theorem dayAndHours_lands :
    let m := beforeSkipped
    let r := 19812 * day + 22 * hour + 30 * minute
    Aware m.clock ∧ (dayAndHours.calendarDays ≠ 0 ∨ dayAndHours.exact ≠ 0) ∧
    Skips m.clock (wallAfter dayAndHours 1 m) hour ∧
    Reaches dayAndHours 1 m r ∧ InRange dayAndHours 1 m r ∧
    (∃ n, dayAndHours.shift 1 m = .ok n ∧ n.clock = m.clock ∧ n.instant ∈ shownAt m.clock n.wall ∧
      n.instant = r + 1 * dayAndHours.exact) ∧
    ∃ n n', additions (.of 30 .minutes) 4 m = .ok n ∧ (Period.of 2 .hours).addTo m = .ok n' ∧
      n.instant = n'.instant := by
  intro m r
  have hclock : Aware m.clock := .zone (regular_of_mem (by simp [ZoneTable.zones]))
  have hsome : dayAndHours.calendarDays ≠ 0 ∨ dayAndHours.exact ≠ 0 := by decide
  have hskips : Skips m.clock (wallAfter dayAndHours 1 m) hour :=
    ⟨19812 * day + 22 * hour, by decide +kernel⟩
  have hr : Reaches dayAndHours 1 m r := (reaches_iff hclock).mpr (by decide +kernel)
  have hrange : InRange dayAndHours 1 m r :=
    ⟨by decide +kernel, by decide +kernel, fun _ => by decide +kernel, by decide +kernel⟩
  have hforward : (1 : Int) = 1 ∨ (1 : Int) = -1 := .inl rfl
  have hhalf : (Period.of 30 .minutes).calendarDays ≠ 0 ∨ (Period.of 30 .minutes).exact ≠ 0 := by
    decide
  have hdated : ∀ k : Nat, k ≤ 4 →
      Dated m.clock (m.instant + (k : Int) * (Period.of 30 .minutes).exact) := by
    intro k hk
    obtain rfl | rfl | rfl | rfl | rfl : k = 0 ∨ k = 1 ∨ k = 2 ∨ k = 3 ∨ k = 4 := by omega
    all_goals decide +kernel
  exact ⟨hclock, hsome, hskips, hr, hrange, (shift_lands hclock hsome hforward).2.1 r hr hrange,
    ((shift_lands hclock hhalf hforward).2.2 rfl (by decide +kernel)).2 4 (.of 2 .hours) rfl rfl
      hdated⟩

end AnomalyWindows.Proofs.ShiftedMoments
