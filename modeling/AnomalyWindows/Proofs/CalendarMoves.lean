import AnomalyWindows.Period.Shift
import Mathlib.Tactic.Ring

namespace AnomalyWindows.Proofs.CalendarMoves

open Calendar

theorem bind_eq_ok_iff {α β : Type} {x : Except Fault α} {f : α → Except Fault β} {b : β} :
    x >>= f = .ok b ↔ ∃ a, x = .ok a ∧ f a = .ok b := by
  cases x <;> simp [Bind.bind, Except.bind]

theorem bind_eq_error_iff {α β : Type} {x : Except Fault α} {f : α → Except Fault β}
    {fault : Fault} :
    x >>= f = .error fault ↔ x = .error fault ∨ ∃ a, x = .ok a ∧ f a = .error fault := by
  cases x <;> simp [Bind.bind, Except.bind]

theorem exists_of_in_range {α : Type} {x : Except Fault α}
    (herror : ∀ fault, x = .error fault → fault = .outOfRange)
    (hrange : x ≠ .error .outOfRange) : ∃ a, x = .ok a := by
  cases x with
  | ok a => exact ⟨a, rfl⟩
  | error fault => exact absurd (congrArg Except.error (herror fault rfl)) hrange

/-- A time in microseconds within years 1 to 9999. -/
def InYears (time : Int) : Prop :=
  firstWall ≤ time ∧ time ≤ lastWall
  deriving Decidable

theorem checkedWall_eq_ok_iff {wall a : Int} :
    checkedWall wall = .ok a ↔ InYears wall ∧ wall = a := by
  rw [checkedWall, InYears]
  split <;> simp_all

theorem checkedWall_eq_error_iff {wall : Int} {fault : Fault} :
    checkedWall wall = .error fault ↔ ¬ InYears wall ∧ fault = .outOfRange := by
  rw [checkedWall, InYears]
  split
  · simp_all
  · simp_all [eq_comm]

theorem checkedWall_eq_error {wall : Int} {fault : Fault}
    (h : checkedWall wall = .error fault) : fault = .outOfRange :=
  (checkedWall_eq_error_iff.mp h).2

/-- A duration in microseconds that is not too long. -/
def Spans (duration : Int) : Prop :=
  shortestDuration ≤ duration ∧ duration ≤ longestDuration
  deriving Decidable

theorem checkedDuration_eq_ok_iff {duration a : Int} :
    checkedDuration duration = .ok a ↔ Spans duration ∧ duration = a := by
  rw [checkedDuration, Spans]
  split <;> simp_all

theorem eq_of_checkedDuration_eq_ok {duration a : Int}
    (h : checkedDuration duration = .ok a) : a = duration :=
  (checkedDuration_eq_ok_iff.mp h).2.symm

theorem checkedDuration_eq_error_iff {duration : Int} {fault : Fault} :
    checkedDuration duration = .error fault ↔ ¬ Spans duration ∧ fault = .outOfRange := by
  rw [checkedDuration, Spans]
  split
  · simp_all
  · simp_all [eq_comm]

theorem checkedDuration_eq_error {duration : Int} {fault : Fault}
    (h : checkedDuration duration = .error fault) : fault = .outOfRange :=
  (checkedDuration_eq_error_iff.mp h).2

/-- Whether a moment is read on the clock of a zone. -/
def OnZone (z : Zone) (m : Moment) : Prop :=
  m.clock = .zone z

theorem onZone_onClock (z : Zone) (instant : Int) :
    OnZone z (Moment.onClock (.zone z) instant) := rfl

theorem isNaive_of_onZone {z : Zone} {m : Moment} (hm : OnZone z m) : m.isNaive = false := by
  rw [Moment.isNaive, hm]

theorem isBefore?_of_onZone {z : Zone} {a b : Moment} (ha : OnZone z a) (hb : OnZone z b) :
    a.isBefore? b = some (decide (a.wall < b.wall)) := by
  rw [Moment.isBefore?, isNaive_of_onZone ha, isNaive_of_onZone hb, ha, hb]
  simp [Clock.same]

theorem onClock_utc (instant : Int) : Moment.onClock .utc instant = .ofInstant instant := by
  simp [Moment.onClock, Moment.ofInstant, Clock.offsetAt, Clock.foldAt, Clock.utc]

theorem isNaive_of_utc {m : Moment} (hm : m.clock = .utc) : m.isNaive = false := by
  rw [Moment.isNaive, hm]
  rfl

theorem instant_of_utc {m : Moment} (hm : m.clock = .utc) : m.instant = m.wall := by
  rw [Moment.instant, Moment.offset, hm]
  exact Int.sub_zero m.wall

theorem convert_eq_ok_iff {m n : Moment} {target : Clock} (hm : m.isNaive = false)
    (hother : m.clock.same target = false) :
    m.convert target = .ok n ↔
      InYears m.instant ∧ InYears (Moment.onClock target m.instant).wall ∧
        n = .onClock target m.instant := by
  have hchecked : m.checkedInstant = checkedWall m.instant := by
    rw [Moment.checkedInstant]
    split
    · next hclock => simp [Moment.isNaive, hclock] at hm
    · rfl
  rw [Moment.convert, hother, if_neg Bool.false_ne_true, hchecked]
  constructor
  · intro h
    obtain ⟨instant, hinstant, h⟩ := bind_eq_ok_iff.mp h
    obtain ⟨wall, hwall, h⟩ := bind_eq_ok_iff.mp h
    obtain ⟨hrange, rfl⟩ := checkedWall_eq_ok_iff.mp hinstant
    exact ⟨hrange, (checkedWall_eq_ok_iff.mp hwall).1, (Except.ok.inj h).symm⟩
  · rintro ⟨hinstant, hwall, rfl⟩
    refine bind_eq_ok_iff.mpr ⟨m.instant, checkedWall_eq_ok_iff.mpr ⟨hinstant, rfl⟩, ?_⟩
    exact bind_eq_ok_iff.mpr ⟨_, checkedWall_eq_ok_iff.mpr ⟨hwall, rfl⟩, rfl⟩

theorem convert_zone_eq_ok_iff {z : Zone} {m n : Moment} (hm : m.clock = .utc) :
    m.convert (.zone z) = .ok n ↔
      InYears m.instant ∧ InYears (Moment.onClock (.zone z) m.instant).wall ∧
        n = .onClock (.zone z) m.instant :=
  convert_eq_ok_iff (isNaive_of_utc hm) (by rw [hm]; rfl)

theorem convert_of_utc {z : Zone} {m n : Moment} (hm : m.clock = .utc)
    (h : m.convert (.zone z) = .ok n) : n = Moment.onClock (.zone z) m.instant :=
  ((convert_zone_eq_ok_iff hm).mp h).2.2

theorem convert_utc_eq_ok_iff {z : Zone} {m n : Moment} (hm : OnZone z m) :
    m.convert .utc = .ok n ↔ InYears m.instant ∧ n = .ofInstant m.instant := by
  rw [convert_eq_ok_iff (isNaive_of_onZone hm) (by rw [hm]; rfl), onClock_utc]
  exact ⟨fun ⟨h, _, hn⟩ => ⟨h, hn⟩, fun ⟨h, hn⟩ => ⟨h, h, hn⟩⟩

theorem convert_eq_error {m : Moment} {target : Clock} {fault : Fault}
    (hm : m.isNaive = false) (h : m.convert target = .error fault) : fault = .outOfRange := by
  rw [Moment.convert] at h
  split at h
  · cases h
  rcases bind_eq_error_iff.mp h with h | ⟨instant, _, h⟩
  · rw [Moment.checkedInstant] at h
    split at h
    · next hclock => simp [Moment.isNaive, hclock] at hm
    · exact checkedWall_eq_error h
  · rcases bind_eq_error_iff.mp h with h | ⟨_, _, h⟩
    · exact checkedWall_eq_error h
    · cases h

theorem settled_eq_ok_iff {z : Zone} {m n : Moment} (hm : OnZone z m) :
    m.settled = .ok n ↔
      InYears m.instant ∧ InYears (Moment.onClock (.zone z) m.instant).wall ∧
        n = .onClock (.zone z) m.instant := by
  have hutc (instant : Int) : (Moment.ofInstant instant).instant = instant :=
    instant_of_utc rfl
  rw [Moment.settled, bind_eq_ok_iff, hm]
  constructor
  · rintro ⟨utc, h, hn⟩
    obtain ⟨-, rfl⟩ := (convert_utc_eq_ok_iff hm).mp h
    rwa [convert_zone_eq_ok_iff rfl, hutc] at hn
  · rintro ⟨hinstant, hn⟩
    refine ⟨_, (convert_utc_eq_ok_iff hm).mpr ⟨hinstant, rfl⟩, ?_⟩
    rw [convert_zone_eq_ok_iff rfl, hutc]
    exact ⟨hinstant, hn⟩

theorem settled_eq_error {z : Zone} {m : Moment} {fault : Fault} (hm : OnZone z m)
    (h : m.settled = .error fault) : fault = .outOfRange := by
  rcases bind_eq_error_iff.mp h with h | ⟨utc, hutc, h⟩
  · exact convert_eq_error (isNaive_of_onZone hm) h
  · obtain ⟨-, rfl⟩ := (convert_utc_eq_ok_iff hm).mp hutc
    exact convert_eq_error rfl h

/-- A period without negative fields that has some duration. -/
structure Forward (p : Period) : Prop where
  weeks : 0 ≤ p.weeks
  days : 0 ≤ p.days
  hours : 0 ≤ p.hours
  minutes : 0 ≤ p.minutes
  seconds : 0 ≤ p.seconds
  millis : 0 ≤ p.millis
  total : 0 < p.total

theorem parts_of_forward {p : Period} (hp : Forward p) :
    0 ≤ p.calendarDays ∧ 0 ≤ p.exact ∧ (p.calendarDays ≠ 0 ∨ p.exact ≠ 0) := by
  obtain ⟨hweeks, hdays, hhours, hminutes, hseconds, hmillis, htotal⟩ := hp
  simp only [Period.total, Period.calendarDays, Period.exact, day, hour, minute, second] at *
  omega

theorem total_of_pos {amount : Int} (hpos : 1 ≤ amount) (unit : TimeUnit) :
    0 < (Period.of amount unit).total := by
  cases unit with
  | days | hours | minutes | seconds | milliseconds =>
      simp only [Period.of, Period.total, Period.calendarDays, Period.exact, Period.zero, day,
        hour, minute, second]
      omega

/-- The moment some days away on the wall, on the first pass of that wall time and past a gap. -/
def daysAway (days : Int) (m : Moment) : Moment :=
  .onClock m.clock (Moment.instant ⟨m.wall + days * day, false, m.clock⟩)

theorem onZone_daysAway {z : Zone} {m : Moment} (hm : OnZone z m) (days : Int) :
    OnZone z (daysAway days m) := hm

def timeAway (step : Int) (m : Moment) : Moment :=
  .onClock m.clock (m.instant + step)

/-- Where a period leads from a moment, were there no bounds. -/
def landing (p : Period) (sign : Int) (m : Moment) : Moment :=
  let onDay := if p.calendarDays = 0 then m else daysAway (sign * p.calendarDays) m
  if p.exact = 0 then onDay else timeAway (sign * p.exact) onDay

theorem moveDays_eq_ok_iff {z : Zone} {days sign : Int} {m n : Moment} (hm : OnZone z m) :
    Period.moveDays days sign m = .ok n ↔
      Spans (days * day) ∧ Spans (sign * (days * day)) ∧ InYears (m.wall + sign * (days * day)) ∧
        InYears (Moment.instant ⟨m.wall + sign * (days * day), false, .zone z⟩) ∧
        InYears (daysAway (sign * days) m).wall ∧ n = daysAway (sign * days) m := by
  have hmoved (wall : Int) : OnZone z ⟨wall, false, .zone z⟩ := rfl
  rw [daysAway, hm, Int.mul_assoc]
  simp only [Period.moveDays, bind_eq_ok_iff, isNaive_of_onZone hm, Bool.false_eq_true, if_false,
    checkedDuration_eq_ok_iff, checkedWall_eq_ok_iff]
  constructor
  · rintro ⟨_, ⟨hstep, rfl⟩, _, ⟨hstep', rfl⟩, _, ⟨hwall, rfl⟩, hn⟩
    rw [hm] at hn
    exact ⟨hstep, hstep', hwall, (settled_eq_ok_iff (hmoved _)).mp hn⟩
  · rintro ⟨hstep, hstep', hwall, hn⟩
    refine ⟨_, ⟨hstep, rfl⟩, _, ⟨hstep', rfl⟩, _, ⟨hwall, rfl⟩, ?_⟩
    rw [hm]
    exact (settled_eq_ok_iff (hmoved _)).mpr hn

theorem moveDays_of_onZone {z : Zone} {days sign : Int} {m n : Moment} (hm : OnZone z m)
    (h : Period.moveDays days sign m = .ok n) :
    n = daysAway (sign * days) m ∧ ∃ instant, InYears instant ∧ n = .onClock (.zone z) instant := by
  obtain ⟨-, -, -, hinstant, -, rfl⟩ := (moveDays_eq_ok_iff hm).mp h
  refine ⟨rfl, _, hinstant, ?_⟩
  rw [daysAway, hm, Int.mul_assoc]

theorem moveExact_of_onZone {z : Zone} {step sign : Int} {m n : Moment} (hm : OnZone z m)
    (h : Period.moveExact step sign m = .ok n) :
    n = timeAway (sign * step) m ∧ ∃ instant, InYears instant ∧ n = .onClock (.zone z) instant := by
  simp only [Period.moveExact, bind_eq_ok_iff, isNaive_of_onZone hm, Bool.false_eq_true,
    if_false] at h
  obtain ⟨step', hstep, utc, hutc, wall, hwall, hn⟩ := h
  obtain rfl := eq_of_checkedDuration_eq_ok hstep
  obtain ⟨-, rfl⟩ := (convert_utc_eq_ok_iff hm).mp hutc
  obtain ⟨hrange, rfl⟩ := checkedWall_eq_ok_iff.mp hwall
  rw [hm] at hn
  obtain rfl := convert_of_utc rfl hn
  rw [instant_of_utc rfl, timeAway, hm]
  exact ⟨rfl, _, hrange, rfl⟩

theorem onZone_landing {z : Zone} (p : Period) (sign : Int) {m : Moment} (hm : OnZone z m) :
    OnZone z (landing p sign m) := by
  unfold landing
  have hday : OnZone z (if p.calendarDays = 0 then m else daysAway (sign * p.calendarDays) m) := by
    split
    · exact hm
    · exact onZone_daysAway hm _
  dsimp only
  split
  · exact hday
  · exact hday

theorem shift_eq (p : Period) (sign : Int) (m : Moment) :
    p.shift sign m =
      (if p.calendarDays = 0 then .ok m else Period.moveDays p.calendarDays sign m) >>=
        fun onDay => checkedDuration p.exact >>= fun step =>
          if step = 0 then .ok onDay else Period.moveExact step sign onDay := by
  rw [Period.shift]
  split <;> rfl

/-- A period that leads anywhere leads to a moment that the clock shows at some instant. -/
theorem shift_of_onZone {z : Zone} {p : Period} {sign : Int} {m n : Moment} (hm : OnZone z m)
    (h : p.shift sign m = .ok n) :
    n = landing p sign m ∧
      (p.calendarDays ≠ 0 ∨ p.exact ≠ 0 →
        ∃ instant, InYears instant ∧ n = .onClock (.zone z) instant) := by
  rw [shift_eq] at h
  obtain ⟨onDay, hday, h⟩ := bind_eq_ok_iff.mp h
  obtain ⟨step, hstep, h⟩ := bind_eq_ok_iff.mp h
  obtain rfl := eq_of_checkedDuration_eq_ok hstep
  unfold landing
  by_cases hdays : p.calendarDays = 0
  · rw [if_pos hdays] at hday ⊢
    obtain rfl := Except.ok.inj hday
    by_cases hexact : p.exact = 0
    · rw [if_pos hexact] at h ⊢
      obtain rfl := Except.ok.inj h
      exact ⟨rfl, fun hsome => absurd hexact (hsome.resolve_left (not_not.mpr hdays))⟩
    · rw [if_neg hexact] at h ⊢
      obtain ⟨hn, hinstant⟩ := moveExact_of_onZone hm h
      exact ⟨hn, fun _ => hinstant⟩
  · rw [if_neg hdays] at hday ⊢
    obtain ⟨rfl, hshown⟩ := moveDays_of_onZone hm hday
    by_cases hexact : p.exact = 0
    · rw [if_pos hexact] at h ⊢
      obtain rfl := Except.ok.inj h
      exact ⟨rfl, fun _ => hshown⟩
    · rw [if_neg hexact] at h ⊢
      obtain ⟨hn, hinstant⟩ := moveExact_of_onZone (onZone_daysAway hm _) h
      exact ⟨hn, fun _ => hinstant⟩

theorem onZone_shift {z : Zone} {p : Period} {sign : Int} {m n : Moment} (hm : OnZone z m)
    (h : p.shift sign m = .ok n) : OnZone z n := by
  rw [(shift_of_onZone hm h).1]
  exact onZone_landing p sign hm

theorem moveDays_eq_error {z : Zone} {days sign : Int} {m : Moment} {fault : Fault}
    (hm : OnZone z m) (h : Period.moveDays days sign m = .error fault) :
    fault = .outOfRange := by
  simp only [Period.moveDays, bind_eq_error_iff, isNaive_of_onZone hm, Bool.false_eq_true,
    if_false] at h
  rcases h with h | ⟨_, _, h | ⟨_, _, h | ⟨wall, _, h⟩⟩⟩
  · exact checkedDuration_eq_error h
  · exact checkedDuration_eq_error h
  · exact checkedWall_eq_error h
  · have hmoved : OnZone z ⟨wall, false, m.clock⟩ := hm
    exact settled_eq_error hmoved h

theorem moveExact_eq_error {z : Zone} {step sign : Int} {m : Moment} {fault : Fault}
    (hm : OnZone z m) (h : Period.moveExact step sign m = .error fault) :
    fault = .outOfRange := by
  simp only [Period.moveExact, bind_eq_error_iff, isNaive_of_onZone hm, Bool.false_eq_true,
    if_false] at h
  rcases h with h | ⟨_, _, h | ⟨_, _, h | ⟨_, _, h⟩⟩⟩
  · exact checkedDuration_eq_error h
  · exact convert_eq_error (isNaive_of_onZone hm) h
  · exact checkedWall_eq_error h
  · exact convert_eq_error rfl h

theorem shift_eq_error {z : Zone} {p : Period} {sign : Int} {m : Moment} {fault : Fault}
    (hm : OnZone z m) (h : p.shift sign m = .error fault) : fault = .outOfRange := by
  rw [shift_eq, bind_eq_error_iff] at h
  rcases h with hday | ⟨onDay, hday, h⟩
  · split at hday
    · cases hday
    · exact moveDays_eq_error hm hday
  have honDay : OnZone z onDay := by
    split at hday
    · exact Except.ok.inj hday ▸ hm
    · exact (moveDays_of_onZone hm hday).1 ▸ hm
  rcases bind_eq_error_iff.mp h with h | ⟨step, _, h⟩
  · exact checkedDuration_eq_error h
  · split at h
    · cases h
    · exact moveExact_eq_error honDay h

end AnomalyWindows.Proofs.CalendarMoves
