import AnomalyWindows.Calendar.ZoneTable
import AnomalyWindows.Proofs.AlignedTimes
import AnomalyWindows.Proofs.ClockChanges
import AnomalyWindows.Proofs.FirstPass

namespace AnomalyWindows.Proofs.AlignedOrder

open Calendar
open AnomalyWindows.Alignment
open AnomalyWindows.Proofs.CalendarMoves AnomalyWindows.Proofs.UtcGrid
open AnomalyWindows.Proofs.AlignedTimes AnomalyWindows.Proofs.ZoneTimeline
open AnomalyWindows.Proofs.ZoneReading AnomalyWindows.Proofs.ClockChanges
open AnomalyWindows.Proofs.ClockSteps AnomalyWindows.Proofs.FirstPass
open AnomalyWindows.Proofs.WalkEnds

section Grid

variable (unit : TimeUnit) {frequency : Granularity} (hsize : 1 ≤ frequency.size)
  (maxMinutes : Int)
include hsize

theorem boundary_le (time : Int) : boundary unit frequency maxMinutes time ≤ time :=
  (boundary_isGreatest unit hsize maxMinutes time).1.2

theorem isBoundary_boundary (time : Int) :
    IsBoundary unit frequency maxMinutes (boundary unit frequency maxMinutes time) :=
  (boundary_isGreatest unit hsize maxMinutes time).1.1

theorem le_boundary {b time : Int} (hb : IsBoundary unit frequency maxMinutes b)
    (hle : b ≤ time) : b ≤ boundary unit frequency maxMinutes time :=
  (boundary_isGreatest unit hsize maxMinutes time).2 ⟨hb, hle⟩

theorem boundary_mono {time time' : Int} (hle : time ≤ time') :
    boundary unit frequency maxMinutes time ≤ boundary unit frequency maxMinutes time' :=
  le_boundary unit hsize maxMinutes (isBoundary_boundary unit hsize maxMinutes time)
    (Int.le_trans (boundary_le unit hsize maxMinutes time) hle)

theorem lt_boundary_add_day (time : Int) :
    time < boundary unit frequency maxMinutes time + day := by
  have hmidnight : IsBoundary unit frequency maxMinutes (time - time % day) := by
    by_cases hminutes : usesMinutes unit frequency maxMinutes = true
    · rw [isBoundary_iff_of_minutes hminutes]
      refine ⟨time / day * 24, 0, Int.le_refl 0, by omega, ?_⟩
      simp only [day, hour, minute, second]
      omega
    · rw [isBoundary_iff_of_not_minutes hminutes, bucket, if_neg hminutes]
      have hdvd := dvd_sub_emod day time
      cases unit with
      | days => exact hdvd
      | hours | minutes | seconds | milliseconds => exact Int.dvd_trans (by decide) hdvd
  have hpos := Int.emod_nonneg time (show day ≠ 0 by decide)
  have hlt := Int.emod_lt_of_pos time (show 0 < day by decide)
  have hle := le_boundary unit hsize maxMinutes hmidnight
    (show time - time % day ≤ time by omega)
  omega

omit hsize in
theorem second_dvd_of_isBoundary {b : Int} (hb : IsBoundary unit frequency maxMinutes b) :
    second ∣ b := by
  by_cases hminutes : usesMinutes unit frequency maxMinutes = true
  · obtain ⟨hours, count, -, -, rfl⟩ := (isBoundary_iff_of_minutes hminutes b).mp hb
    exact Int.dvd_add (Int.dvd_mul_of_dvd_right (by decide)) (Int.dvd_mul_of_dvd_right (by decide))
  · rw [isBoundary_iff_of_not_minutes hminutes, bucket, if_neg hminutes] at hb
    refine Int.dvd_trans ?_ hb
    cases unit <;> decide

end Grid

def source (t : Transition) : Int :=
  (t.instant + t.before) * second

def target (t : Transition) : Int :=
  (t.instant + t.after) * second

/-- A change fits the boundaries. Set forward, the clock is set to a boundary or past none; set
back, it goes from a boundary to a boundary or shows none twice. -/
structure Fits (unit : TimeUnit) (frequency : Granularity) (maxMinutes : Int) (t : Transition) :
    Prop where
  forth : source t < target t → IsBoundary unit frequency maxMinutes (target t) ∨
    ∀ b, IsBoundary unit frequency maxMinutes b → ¬ (source t < b ∧ b < target t)
  back : target t < source t →
    (IsBoundary unit frequency maxMinutes (source t) ∧
      IsBoundary unit frequency maxMinutes (target t)) ∨
    ∀ b, IsBoundary unit frequency maxMinutes b → ¬ (target t ≤ b ∧ b < source t)

theorem fits_of_unchanged {unit : TimeUnit} {frequency : Granularity} {maxMinutes : Int}
    {t : Transition} (h : t.before = t.after) : Fits unit frequency maxMinutes t := by
  refine ⟨fun hforth => ?_, fun hback => ?_⟩
  · simp only [source, target, h, Int.lt_irrefl] at hforth
  · simp only [source, target, h, Int.lt_irrefl] at hback

/-- The instant as which a clock reads the boundary before what it shows. -/
def alignedAt (z : Zone) (unit : TimeUnit) (frequency : Granularity) (maxMinutes instant : Int) :
    Int :=
  readAt z (boundary unit frequency maxMinutes (Moment.onClock (.zone z) instant).wall)
    (Moment.onClock (.zone z) instant).fold

theorem instant_of_align [ZoneDatabase] {name : String} {z : Zone} (hzone : zoneNamed name = .ok z)
    (hz : Regular z) (unit : TimeUnit) {frequency : Granularity} (hsize : 1 ≤ frequency.size)
    (maxMinutes : Int) {m r : Moment} (hm : m.clock = .utc)
    (h : align name unit frequency maxMinutes m = .ok r) :
    r.instant = alignedAt z unit frequency maxMinutes m.instant := by
  rw [Alignment.align, hzone] at h
  obtain ⟨zone, hfound, h⟩ := bind_eq_ok_iff.mp h
  obtain rfl := Except.ok.inj hfound
  obtain ⟨shown, hconvert, h⟩ := bind_eq_ok_iff.mp h
  obtain rfl := convert_of_utc hm hconvert
  unfold alignedAt boundary
  split at h
  · next hminutes =>
      rw [floorMinutes_eq hsize] at h
      obtain rfl := Except.ok.inj h
      rw [if_pos hminutes]
      rfl
  · next hminutes =>
      rw [if_neg hminutes, bucket, if_neg hminutes]
      cases unit with
      | days =>
          have hfloored : OnZone z (floorWall day (Moment.onClock (.zone z) m.instant)) := rfl
          have hsettled : Moment.settled (floorWall day (Moment.onClock (.zone z) m.instant)) =
            .ok r := h
          rw [((settled_eq_ok_iff hfloored).mp hsettled).2.2, instant_onClock hz]
          rfl
      | hours | minutes | seconds | milliseconds =>
          obtain rfl := Except.ok.inj h
          rfl

/-- The boundary of a wall time from behind a change is read behind it too: the clock is set to it
or past it, and a wall time that is shown once has a boundary that is. -/
def ReadBehind (t : Transition) (wall b : Int) : Prop :=
  target t ≤ b ∧ (source t ≤ wall → source t ≤ b)

theorem wallStart_le_iff {t : Transition} {instant : Int} (hfrom : t.instant ≤ instant / second)
    (b : Int) :
    t.wallStart (repeats (instant / second) t) * second ≤ b ↔
      ReadBehind t (instant + t.after * second) b := by
  unfold ReadBehind source target
  cases hrepeats : repeats (instant / second) t
  · rw [repeats, decide_eq_false_iff_not] at hrepeats
    rw [wallStart_false]
    simp only [second] at *
    omega
  · rw [repeats, decide_eq_true_eq] at hrepeats
    rw [wallStart_true]
    simp only [second] at *
    omega

section Around

variable {z : Zone} {limit : Int} {t : Transition} (h : InForce z limit t) {unit : TimeUnit}
  {frequency : Granularity} (hsize : 1 ≤ frequency.size) {maxMinutes : Int}
  {instant : Int} (hfrom : t.instant ≤ instant / second) (hto : instant / second ≤ limit)

section

include h hfrom hto

theorem wall_of_inForce :
    (Moment.onClock (.zone z) instant).wall = instant + t.after * second := by
  simp only [Moment.onClock, Clock.offsetAt, h.after _ hfrom hto]

theorem fold_of_inForce :
    (Moment.onClock (.zone z) instant).fold = repeats (instant / second) t := by
  simp only [Moment.onClock, Clock.foldAt, h.foldAt _ hfrom hto]

include hsize

variable (unit maxMinutes) in
theorem alignedAt_cases :
    (ReadBehind t (instant + t.after * second)
        (boundary unit frequency maxMinutes (instant + t.after * second)) ∧
      alignedAt z unit frequency maxMinutes instant =
        boundary unit frequency maxMinutes (instant + t.after * second) - t.after * second) ∨
    (¬ ReadBehind t (instant + t.after * second)
        (boundary unit frequency maxMinutes (instant + t.after * second)) ∧
      alignedAt z unit frequency maxMinutes instant =
        boundary unit frequency maxMinutes (instant + t.after * second) - t.before * second) := by
  have hle := boundary_le unit hsize maxMinutes (instant + t.after * second)
  have hlt := lt_boundary_add_day unit hsize maxMinutes (instant + t.after * second)
  obtain ⟨seconds, hseconds⟩ := second_dvd_of_isBoundary unit maxMinutes
    (isBoundary_boundary unit hsize maxMinutes (instant + t.after * second))
  have hread := h.offsetOfWall (instant / second) seconds hfrom hto
    (by simp only [day, hour, minute, second] at *; omega) (by simp only [second] at *; omega)
  rw [alignedAt, wall_of_inForce h hfrom hto, fold_of_inForce h hfrom hto, hseconds,
    Int.mul_comm second, ← wallStart_le_iff hfrom]
  have hat (offset : Int)
      (hoffset : z.offsetOfWall seconds (repeats (instant / second) t) = offset) :
      readAt z (seconds * second) (repeats (instant / second) t) =
        seconds * second - offset * second := by
    simp only [readAt, Moment.instant, Moment.offset, Clock.offsetOfWall,
      Int.mul_ediv_cancel seconds (show second ≠ 0 by decide), hoffset]
  have hscaled : t.wallStart (repeats (instant / second) t) * second ≤ seconds * second ↔
      t.wallStart (repeats (instant / second) t) ≤ seconds :=
    Int.mul_le_mul_right (by decide)
  rw [hscaled]
  split at hread
  · next hbehind => exact .inl ⟨hbehind, hat _ hread⟩
  · next hahead => exact .inr ⟨hahead, hat _ hread⟩

end

include hsize

theorem boundary_le_source (hfits : Fits unit frequency maxMinutes t)
    (hfrom : t.instant ≤ instant / second)
    (hahead : ¬ ReadBehind t (instant + t.after * second)
      (boundary unit frequency maxMinutes (instant + t.after * second))) :
    boundary unit frequency maxMinutes (instant + t.after * second) ≤ source t := by
  have hwall : target t ≤ instant + t.after * second := by
    simp only [target, second] at *
    omega
  have hgrid := isBoundary_boundary unit hsize maxMinutes (instant + t.after * second)
  unfold ReadBehind at hahead
  by_cases hforth : source t < target t
  · rcases hfits.forth hforth with htarget | hnone
    · have hle := le_boundary unit hsize maxMinutes htarget hwall
      omega
    · have hnot := hnone _ hgrid
      omega
  · omega

theorem readBehind_of_past (hmild : Mild t) (hpast : t.instant * second + 2 * day ≤ instant + 1) :
    ReadBehind t (instant + t.after * second)
      (boundary unit frequency maxMinutes (instant + t.after * second)) := by
  have hlt := lt_boundary_add_day unit hsize maxMinutes (instant + t.after * second)
  obtain ⟨-, -, -, hback⟩ := hmild
  unfold ReadBehind source target
  simp only [day, hour, minute, second] at *
  omega

theorem fits_of_ahead (hmild : Mild t) {earliest : Int} (hle : earliest ≤ instant)
    (hfits : earliest + 1 < t.instant * second + 2 * day → Fits unit frequency maxMinutes t)
    (hahead : ¬ ReadBehind t (instant + t.after * second)
      (boundary unit frequency maxMinutes (instant + t.after * second))) :
    Fits unit frequency maxMinutes t := by
  refine hfits ?_
  by_contra hpast
  exact hahead (readBehind_of_past hsize hmild (by omega))

include h hfrom hto

variable (unit maxMinutes) in
theorem alignedAt_le
    (hfits : instant + 1 < t.instant * second + 2 * day → Fits unit frequency maxMinutes t) :
    alignedAt z unit frequency maxMinutes instant ≤ instant := by
  rcases alignedAt_cases h unit hsize maxMinutes hfrom hto with
    ⟨-, hread⟩ | ⟨hahead, hread⟩
  · have hle := boundary_le unit hsize maxMinutes (instant + t.after * second)
    omega
  · have hfit := fits_of_ahead hsize h.mild (Int.le_refl _) hfits hahead
    have hle := boundary_le_source hsize hfit hfrom hahead
    simp only [source, second] at *
    omega

end Around

section Order

variable {z : Zone} {unit : TimeUnit} {frequency : Granularity} (hsize : 1 ≤ frequency.size)
  {maxMinutes instant instant' : Int}
include hsize

theorem alignedAt_mono_behind {limit : Int} {t : Transition} (h : InForce z limit t)
    (hle : instant ≤ instant') (hfrom : t.instant ≤ instant / second)
    (hto : instant' / second ≤ limit)
    (hfits : instant + 1 < t.instant * second + 2 * day → Fits unit frequency maxMinutes t) :
    alignedAt z unit frequency maxMinutes instant ≤
      alignedAt z unit frequency maxMinutes instant' := by
  have hseconds : instant / second ≤ instant' / second := Int.ediv_le_ediv (by decide) hle
  have hgrid := boundary_mono unit hsize maxMinutes
    (show instant + t.after * second ≤ instant' + t.after * second by omega)
  rcases alignedAt_cases h unit hsize maxMinutes hfrom
      (Int.le_trans hseconds hto) with ⟨hbehind, hread⟩ | ⟨hahead, hread⟩
  · rcases alignedAt_cases h unit hsize maxMinutes
        (Int.le_trans hfrom hseconds) hto with ⟨-, hread'⟩ | ⟨hahead', hread'⟩
    · omega
    -- from behind the change to in front of it: the later one is shown once, the earlier one for
    -- the second time, so the clock was set back from a boundary
    · exfalso
      have hfit := fits_of_ahead hsize h.mild hle hfits hahead'
      have hearlier := boundary_le unit hsize maxMinutes (instant + t.after * second)
      have hboundary := isBoundary_boundary unit hsize maxMinutes (instant + t.after * second)
      unfold ReadBehind at hbehind hahead'
      by_cases hback : target t < source t
      · rcases hfit.back hback with ⟨hsource, -⟩ | hnone
        · have hreached : source t ≤ instant' + t.after * second →
              source t ≤ boundary unit frequency maxMinutes (instant' + t.after * second) :=
            le_boundary unit hsize maxMinutes hsource
          omega
        · have hnot := hnone _ hboundary
          omega
      · omega
  · have hfit := fits_of_ahead hsize h.mild (Int.le_refl _) hfits hahead
    have hearlier := boundary_le_source hsize hfit hfrom hahead
    rcases alignedAt_cases h unit hsize maxMinutes
        (Int.le_trans hfrom hseconds) hto with ⟨⟨htarget, -⟩, hread'⟩ | ⟨-, hread'⟩
    · simp only [source, target, second] at *
      omega
    · omega

theorem boundary_le_across {t : Transition} (hfits : Fits unit frequency maxMinutes t)
    {wall wall' : Int} (hbefore : wall < source t) (hafter : target t ≤ wall')
    (hahead : ¬ ReadBehind t wall' (boundary unit frequency maxMinutes wall')) :
    boundary unit frequency maxMinutes wall ≤ boundary unit frequency maxMinutes wall' := by
  unfold ReadBehind at hahead
  by_cases hshownOnce : source t ≤ wall'
  · exact boundary_mono unit hsize maxMinutes (by omega)
  · have hshown := boundary_le unit hsize maxMinutes wall
    refine le_boundary unit hsize maxMinutes (isBoundary_boundary unit hsize maxMinutes wall) ?_
    rcases hfits.back (by omega) with ⟨-, htarget⟩ | hnone
    · have hle := le_boundary unit hsize maxMinutes htarget hafter
      omega
    · have hnot := hnone _ (isBoundary_boundary unit hsize maxMinutes wall)
      omega

theorem alignedAt_mono_across {t t' : Transition} (h : InForce z (instant / second) t)
    (h' : InForce z (instant' / second) t') (hbetween : instant / second < t'.instant)
    (hfits : instant + 1 < t.instant * second + 2 * day → Fits unit frequency maxMinutes t)
    (hfits' : instant + 1 < t'.instant * second + 2 * day → Fits unit frequency maxMinutes t') :
    alignedAt z unit frequency maxMinutes instant ≤
      alignedAt z unit frequency maxMinutes instant' := by
  have hstart := alignedAt_le h unit hsize maxMinutes h.started
    (Int.le_refl _) hfits
  have hbefore : instant < t'.instant * second := by
    simp only [second] at *
    omega
  have hafter : t'.instant * second ≤ instant' := by
    have hstarted := h'.started
    simp only [second] at *
    omega
  rcases alignedAt_cases h' unit hsize maxMinutes h'.started
      (Int.le_refl _) with ⟨⟨htarget, -⟩, hread'⟩ | ⟨hahead', hread'⟩
  · simp only [target, second] at *
    omega
  -- read in front of the change, the later one is not two days behind
  have hreach : t'.instant * second - 2 * day <
      alignedAt z unit frequency maxMinutes instant' := by
    have hlt := lt_boundary_add_day unit hsize maxMinutes (instant' + t'.after * second)
    obtain ⟨-, -, -, hback⟩ := h'.mild
    simp only [day, hour, minute, second] at *
    omega
  by_cases hfar : instant < t'.instant * second - 2 * day
  · omega
  have hopens : t.after = t'.before := by
    rw [← h.after _ h.started (Int.le_refl _)]
    refine h'.before _ ?_ hbetween
    simp only [day, hour, minute, second] at *
    omega
  have hshown : instant + t.after * second < source t' := by
    simp only [source, second] at *
    omega
  have hshown' : target t' ≤ instant' + t'.after * second := by
    simp only [target, second] at *
    omega
  have hgrid := boundary_le_across hsize (hfits' (by omega)) hshown hshown' hahead'
  rcases alignedAt_cases h unit hsize maxMinutes h.started
      (Int.le_refl _) with ⟨-, hread⟩ | ⟨hahead, hread⟩
  · rw [← hopens] at hread'
    omega
  · by_cases hchanges : t.before = t.after
    · rw [hchanges] at hread
      rw [← hopens] at hread'
      omega
    · have hapart := apart_of_inForce h h' hbetween hchanges
      have hfit := fits_of_ahead hsize h.mild (Int.le_refl _) hfits hahead
      have hsource := boundary_le_source hsize hfit h.started hahead
      simp only [source, day, hour, minute, second] at *
      omega

/-- Where all changes fit, alignment keeps the order of instants and leads to none that is later. -/
theorem alignedAt_mono (hz : Regular z) (hle : instant ≤ instant')
    (hfits : ∀ start, instant - 2 * day < start * second → start * second ≤ instant' →
      Fits unit frequency maxMinutes (changeAt z start)) :
    alignedAt z unit frequency maxMinutes instant ≤
        alignedAt z unit frequency maxMinutes instant' ∧
      alignedAt z unit frequency maxMinutes instant' ≤ instant' := by
  obtain ⟨t, h⟩ := exists_inForce hz (instant / second)
  obtain ⟨t', h'⟩ := exists_inForce hz (instant' / second)
  have hfit {i : Int} {u : Transition} (hu : InForce z (i / second) u) (hi : i ≤ instant')
      (hnear : instant + 1 < u.instant * second + 2 * day) :
      Fits unit frequency maxMinutes u := by
    have hstarted := hu.started
    rw [← changeAt_of_inForce hu]
    refine hfits u.instant (by omega) ?_
    simp only [second] at *
    omega
  refine ⟨?_, alignedAt_le h' unit hsize maxMinutes h'.started (Int.le_refl _) fun hnear =>
    hfit h' (Int.le_refl _) (by omega)⟩
  by_cases hbehind : t'.instant ≤ instant / second
  · exact alignedAt_mono_behind hsize h' hle hbehind (Int.le_refl _) (hfit h' (Int.le_refl _))
  · exact alignedAt_mono_across hsize h h' (Int.not_le.mp hbehind) (hfit h hle)
      (hfit h' (Int.le_refl _))

theorem alignedAt_pass (hz : Regular z) {b offset : Int}
    (hb : IsBoundary unit frequency maxMinutes b)
    (hoffset : z.offsetAt ((b - offset * second) / second) = offset) :
    alignedAt z unit frequency maxMinutes (b - offset * second) = b - offset * second := by
  have hwall : (Moment.onClock (.zone z) (b - offset * second)).wall = b := by
    rw [Moment.onClock, Clock.offsetAt, hoffset, Int.sub_add_cancel]
  rw [alignedAt, (boundary_eq_self_iff unit hsize maxMinutes _).mpr (hwall.symm ▸ hb)]
  exact instant_onClock hz _

omit hsize in
theorem exists_boundary_of_not_fits {t : Transition} (h : ¬ Fits unit frequency maxMinutes t) :
    (source t < target t ∧ ¬ IsBoundary unit frequency maxMinutes (target t) ∧
        ∃ b, IsBoundary unit frequency maxMinutes b ∧ source t < b ∧ b < target t) ∨
      (target t < source t ∧
        ¬ (IsBoundary unit frequency maxMinutes (source t) ∧
          IsBoundary unit frequency maxMinutes (target t)) ∧
        ∃ b, IsBoundary unit frequency maxMinutes b ∧ target t ≤ b ∧ b < source t) := by
  by_contra hnone
  refine h ⟨fun hforth => ?_, fun hback => ?_⟩
  · by_contra hgap
    push Not at hgap
    obtain ⟨htarget, b, hb, hskipped⟩ := hgap
    exact hnone (.inl ⟨hforth, htarget, b, hb, hskipped⟩)
  · by_contra hfold
    push Not at hfold
    obtain ⟨hends, b, hb, hrepeated⟩ := hfold
    exact hnone (.inr ⟨hback, fun ⟨hsource, htarget⟩ => hends hsource htarget, b, hb, hrepeated⟩)

theorem boundary_lt {time : Int} (h : ¬ IsBoundary unit frequency maxMinutes time) :
    boundary unit frequency maxMinutes time < time :=
  lt_of_le_of_ne (boundary_le unit hsize maxMinutes time) fun heq =>
    h ((boundary_eq_self_iff unit hsize maxMinutes time).mp heq)

section Change

variable {t : Transition} (h : InForce z (t.instant + 86400) t)
include h

theorem alignedAt_change (htarget : ¬ IsBoundary unit frequency maxMinutes (target t)) :
    alignedAt z unit frequency maxMinutes (t.instant * second) =
      boundary unit frequency maxMinutes (target t) - t.before * second := by
  have hseconds : t.instant * second / second = t.instant :=
    Int.mul_ediv_cancel _ (by decide)
  have hwall : t.instant * second + t.after * second = target t := (Int.add_mul ..).symm
  have hlt := boundary_lt hsize htarget
  rcases alignedAt_cases h unit hsize maxMinutes
      (Int.le_of_eq hseconds.symm) (by omega) with ⟨⟨hbehind, -⟩, -⟩ | ⟨-, hread⟩
  · rw [hwall] at hbehind
    omega
  · rw [hread, hwall]

theorem alignedAt_source (hback : target t < source t)
    (hsource : ¬ IsBoundary unit frequency maxMinutes (source t)) :
    alignedAt z unit frequency maxMinutes (source t - t.after * second) =
      boundary unit frequency maxMinutes (source t) - t.before * second := by
  obtain ⟨-, -, -, hday⟩ := h.mild
  have hseconds : (source t - t.after * second) / second =
      t.instant + t.before - t.after := by
    rw [source, ← Int.sub_mul]
    exact Int.mul_ediv_cancel _ (by decide)
  have hwall : source t - t.after * second + t.after * second = source t := Int.sub_add_cancel ..
  have hlt := boundary_lt hsize hsource
  have hlater : t.instant ≤ t.instant + t.before - t.after := by
    simp only [source, target, second] at hback
    omega
  rcases alignedAt_cases h unit hsize maxMinutes
      (hseconds ▸ hlater) (by omega) with ⟨⟨-, hbehind⟩, -⟩ | ⟨-, hread⟩
  · rw [hwall] at hbehind
    have hreached := hbehind (Int.le_refl _)
    omega
  · rw [hread, hwall]

variable {b : Int} (hb : IsBoundary unit frequency maxMinutes b) (hrepeated : target t ≤ b)
  (hbefore : b < source t)
include hb hrepeated hbefore

theorem alignedAt_firstPass (hz : Regular z) :
    alignedAt z unit frequency maxMinutes (b - t.before * second) = b - t.before * second := by
  obtain ⟨-, -, -, hday⟩ := h.mild
  refine alignedAt_pass hsize hz hb (h.before _ ?_ ?_)
  · simp only [source, target, second] at *
    omega
  · simp only [source, target, second] at *
    omega

theorem alignedAt_secondPass (hz : Regular z) :
    alignedAt z unit frequency maxMinutes (b - t.after * second) = b - t.after * second := by
  obtain ⟨-, -, -, hday⟩ := h.mild
  refine alignedAt_pass hsize hz hb (h.after _ ?_ ?_)
  · simp only [source, target, second] at *
    omega
  · simp only [source, target, second] at *
    omega

end Change

/-- Around a change that does not fit, alignment leads to a later instant or changes the order. -/
theorem exists_misaligned (hz : Regular z) {start : Int}
    (hnot : ¬ Fits unit frequency maxMinutes (changeAt z start)) :
    ∃ i i', start * second - day ≤ i ∧ i ≤ i' ∧ i' ≤ start * second + day ∧
      ¬ (alignedAt z unit frequency maxMinutes i ≤ alignedAt z unit frequency maxMinutes i' ∧
        alignedAt z unit frequency maxMinutes i' ≤ i') := by
  have hchanges : (changeAt z start).before ≠ (changeAt z start).after :=
    fun hsame => hnot (fits_of_unchanged hsame)
  have h : InForce z ((changeAt z start).instant + 86400) (changeAt z start) :=
    inForce_changeAt hz hchanges
  obtain ⟨-, -, -, hday⟩ := h.mild
  generalize htransition : changeAt z start = t at *
  obtain rfl : t.instant = start := by rw [← htransition]; rfl
  have hdays : 0 < day := by decide
  rcases exists_boundary_of_not_fits hnot with
    ⟨-, htarget, b, hb, hskipped, hbefore⟩ | ⟨hback, hends, b, hb, hrepeated, hbefore⟩
  -- a skipped boundary is read behind the change that skips it
  · refine ⟨t.instant * second, t.instant * second, by omega, Int.le_refl _, by omega, ?_⟩
    have hread := alignedAt_change hsize h htarget
    have hle := le_boundary unit hsize maxMinutes hb (Int.le_of_lt hbefore)
    rw [hread]
    simp only [source, second] at *
    omega
  by_cases hsource : IsBoundary unit frequency maxMinutes (source t)
  -- on its first pass a boundary is itself, and right behind the change an earlier one is read
  · have htarget : ¬ IsBoundary unit frequency maxMinutes (target t) :=
      fun htarget => hends ⟨hsource, htarget⟩
    have hread := alignedAt_change hsize h htarget
    have hlt := boundary_lt hsize htarget
    refine ⟨b - t.before * second, t.instant * second, ?_, ?_, by omega, ?_⟩
    · simp only [source, target, day, hour, minute, second] at *
      omega
    · simp only [source, second] at *
      omega
    · rw [alignedAt_firstPass hsize h hb hrepeated hbefore hz, hread]
      omega
  -- on its second pass it is itself, and what is shown once again has one that is read before
  · have hread := alignedAt_source hsize h hback hsource
    have hlt := boundary_lt hsize hsource
    refine ⟨b - t.after * second, source t - t.after * second, ?_, by omega, ?_, ?_⟩
    · simp only [target, second] at *
      omega
    · simp only [source, day, hour, minute, second] at *
      omega
    · rw [alignedAt_secondPass hsize h hb hrepeated hbefore hz, hread]
      simp only [source, target, second] at *
      omega

end Order

/-- A time a week or more from the bounds of the calendar. -/
def WellInYears (time : Int) : Prop :=
  InYears (time - 7 * day) ∧ InYears (time + 7 * day)
  deriving Decidable

theorem inYears_onClock {z : Zone} (hz : Regular z) {time : Int} (hrange : WellInYears time)
    (instant : Int) (hfrom : time - 6 * day ≤ instant) (hto : instant ≤ time + 6 * day) :
    InYears instant ∧ InYears (Moment.onClock (.zone z) instant).wall := by
  obtain ⟨⟨hfirst, -⟩, -, hlast⟩ := hrange
  obtain ⟨t, h⟩ := exists_inForce hz (instant / second)
  obtain ⟨-, ⟨hgt, hlt⟩, -⟩ := h.mild
  rw [wall_of_inForce h h.started (Int.le_refl _)]
  simp only [InYears, day, hour, minute, second] at *
  omega

theorem alignedAt_near {z : Zone} (hz : Regular z) (unit : TimeUnit) {frequency : Granularity}
    (hsize : 1 ≤ frequency.size) (maxMinutes instant : Int) :
    instant - 2 * day ≤ alignedAt z unit frequency maxMinutes instant ∧
      alignedAt z unit frequency maxMinutes instant ≤ instant + day := by
  obtain ⟨t, h⟩ := exists_inForce hz (instant / second)
  obtain ⟨-, -, hforth, hback⟩ := h.mild
  have hle := boundary_le unit hsize maxMinutes (instant + t.after * second)
  have hlt := lt_boundary_add_day unit hsize maxMinutes (instant + t.after * second)
  rcases alignedAt_cases h unit hsize maxMinutes h.started
      (Int.le_refl _) with ⟨-, hread⟩ | ⟨-, hread⟩
  · simp only [day, hour, minute, second] at *
    omega
  · simp only [day, hour, minute, second] at *
    omega

theorem exists_align [ZoneDatabase] {name : String} {z : Zone} (hzone : zoneNamed name = .ok z)
    (hz : Regular z) (unit : TimeUnit) {frequency : Granularity} (hsize : 1 ≤ frequency.size)
    (maxMinutes : Int) {time : Int} (hrange : WellInYears time) {m : Moment} (hm : m.clock = .utc)
    (hfrom : time - day ≤ m.instant) (hto : m.instant ≤ time + day) :
    ∃ r, align name unit frequency maxMinutes m = .ok r := by
  have hpos : 0 < day := by decide
  have hconvert : m.convert (.zone z) = .ok (.onClock (.zone z) m.instant) := by
    obtain ⟨hinstant, hwall⟩ := inYears_onClock hz hrange m.instant (by omega) (by omega)
    exact (convert_zone_eq_ok_iff hm).mpr ⟨hinstant, hwall, rfl⟩
  have hshown {r : Moment}
      (h : (if usesMinutes unit frequency maxMinutes then
          floorMinutes frequency.size (.onClock (.zone z) m.instant)
        else if unit.isSubHour then floorTo .hours (.onClock (.zone z) m.instant)
        else floorTo unit (.onClock (.zone z) m.instant)) = .ok r) :
      align name unit frequency maxMinutes m = .ok r :=
    bind_eq_ok_iff.mpr ⟨z, hzone, bind_eq_ok_iff.mpr ⟨_, hconvert, h⟩⟩
  by_cases hminutes : usesMinutes unit frequency maxMinutes = true
  · exact ⟨_, hshown ((if_pos hminutes).trans (floorMinutes_eq hsize _))⟩
  · cases unit with
    | days =>
        have hfloored : OnZone z (floorWall day (.onClock (.zone z) m.instant)) := rfl
        have hread : (floorWall day (.onClock (.zone z) m.instant)).instant =
            alignedAt z .days frequency maxMinutes m.instant := by
          rw [alignedAt, boundary, if_neg hminutes]
          rfl
        have hnear := alignedAt_near hz .days hsize maxMinutes m.instant
        obtain ⟨hinstant, hwall⟩ := inYears_onClock hz hrange
          (alignedAt z .days frequency maxMinutes m.instant) (by omega) (by omega)
        rw [← hread] at hinstant hwall
        exact ⟨_, hshown ((if_neg hminutes).trans
          ((settled_eq_ok_iff hfloored).mpr ⟨hinstant, hwall, rfl⟩))⟩
    | hours | minutes | seconds | milliseconds => exact ⟨_, hshown (if_neg hminutes)⟩

/-- Alignment in the zone of a name keeps the order of moments, and leads to none that is later, if
every change of the clock from two days before the first of them on fits the boundaries. Around a
change that does not, there are moments less than a day away for which it fails to. -/
theorem aligned_order [ZoneDatabase] {name : String} {z : Zone} (hzone : zoneNamed name = .ok z)
    (hz : Regular z) (unit : TimeUnit) {frequency : Granularity} (hsize : 1 ≤ frequency.size)
    (maxMinutes : Int) :
    (∀ m m' : Moment, m.clock = .utc → m'.clock = .utc → m.instant ≤ m'.instant →
      align name unit frequency maxMinutes m ≠ .error .outOfRange →
      align name unit frequency maxMinutes m' ≠ .error .outOfRange →
      (∀ start, m.instant - 2 * day < start * second → start * second ≤ m'.instant →
        Fits unit frequency maxMinutes (changeAt z start)) →
      ∃ r r', align name unit frequency maxMinutes m = .ok r ∧
        align name unit frequency maxMinutes m' = .ok r' ∧
        r.instant ≤ r'.instant ∧ r'.instant ≤ m'.instant) ∧
    ∀ start, ¬ Fits unit frequency maxMinutes (changeAt z start) →
      WellInYears (start * second) →
      ∃ m m' r r' : Moment, m.clock = .utc ∧ m'.clock = .utc ∧ m.instant ≤ m'.instant ∧
        start * second - day ≤ m.instant ∧ m'.instant ≤ start * second + day ∧
        align name unit frequency maxMinutes m = .ok r ∧
        align name unit frequency maxMinutes m' = .ok r' ∧
        ¬ (r.instant ≤ r'.instant ∧ r'.instant ≤ m'.instant) := by
  constructor
  · intro m m' hm hm' hle hrange hrange' hfits
    obtain ⟨r, hr⟩ := exists_of_in_range
      (fun fault => aligned_eq_error hzone hsize hm) hrange
    obtain ⟨r', hr'⟩ := exists_of_in_range
      (fun fault => aligned_eq_error hzone hsize hm') hrange'
    refine ⟨r, r', hr, hr', ?_⟩
    rw [instant_of_align hzone hz unit hsize maxMinutes hm hr,
      instant_of_align hzone hz unit hsize maxMinutes hm' hr']
    exact alignedAt_mono hsize hz hle hfits
  · intro start hnot hrange
    obtain ⟨i, i', hfrom, hle, hto, hmisaligned⟩ := exists_misaligned hsize hz hnot
    have hutc (instant : Int) : (Moment.ofInstant instant).instant = instant := instant_of_utc rfl
    obtain ⟨r, hr⟩ := exists_align hzone hz unit hsize maxMinutes hrange (m := .ofInstant i) rfl
      (by rw [hutc]; omega) (by rw [hutc]; omega)
    obtain ⟨r', hr'⟩ := exists_align hzone hz unit hsize maxMinutes hrange (m := .ofInstant i') rfl
      (by rw [hutc]; omega) (by rw [hutc]; omega)
    refine ⟨.ofInstant i, .ofInstant i', r, r', rfl, rfl, ?_⟩
    rw [instant_of_align hzone hz unit hsize maxMinutes rfl hr,
      instant_of_align hzone hz unit hsize maxMinutes rfl hr', hutc, hutc]
    exact ⟨hle, hfrom, hto, hr, hr', hmisaligned⟩

/-- A moment so many minutes after Lord Howe sets its clock from two to half past two. -/
def minutesOfSetForth (minutes : Int) : Moment :=
  .ofInstant ((1728142200 + minutes * 60) * second)

open scoped ZoneTable

/-- The clock is set to half past two, where a quarter of an hour begins: by quarters alignment
keeps the order of the day that begins with the change. By twenties it does not, since the change
leaves out twenty past two. -/
theorem lordHowe_aligned_order :
    zoneNamed "Australia/Lord_Howe" = .ok ZoneTable.lordHowe ∧ Regular ZoneTable.lordHowe ∧
    1 ≤ (⟨15, .minutes⟩ : Granularity).size ∧ 1 ≤ (⟨20, .minutes⟩ : Granularity).size ∧
    (∃ r r', align "Australia/Lord_Howe" .minutes ⟨15, .minutes⟩ defaultMaxMinutes
        (minutesOfSetForth 0) = .ok r ∧
      align "Australia/Lord_Howe" .minutes ⟨15, .minutes⟩ defaultMaxMinutes
        (minutesOfSetForth 1430) = .ok r' ∧
      r.instant ≤ r'.instant ∧ r'.instant ≤ (minutesOfSetForth 1430).instant) ∧
    ∃ m m' r r' : Moment, m.clock = .utc ∧ m'.clock = .utc ∧ m.instant ≤ m'.instant ∧
      (minutesOfSetForth 0).instant - day ≤ m.instant ∧
      m'.instant ≤ (minutesOfSetForth 0).instant + day ∧
      align "Australia/Lord_Howe" .minutes ⟨20, .minutes⟩ defaultMaxMinutes m = .ok r ∧
      align "Australia/Lord_Howe" .minutes ⟨20, .minutes⟩ defaultMaxMinutes m' = .ok r' ∧
      ¬ (r.instant ≤ r'.instant ∧ r'.instant ≤ m'.instant) := by
  have hzone : zoneNamed "Australia/Lord_Howe" = .ok ZoneTable.lordHowe := rfl
  have hz : Regular ZoneTable.lordHowe := regular_of_mem (by simp [ZoneTable.zones])
  have hchange : changeAt ZoneTable.lordHowe 1728142200 = ⟨1728142200, 37800, 39600⟩ := rfl
  have hchanges : (changeAt ZoneTable.lordHowe 1728142200).before ≠
      (changeAt ZoneTable.lordHowe 1728142200).after := by
    rw [hchange]
    decide
  have hquarter : 1 ≤ (⟨15, .minutes⟩ : Granularity).size := by decide
  have htwenty : 1 ≤ (⟨20, .minutes⟩ : Granularity).size := by decide
  refine ⟨hzone, hz, hquarter, htwenty, ?_, ?_⟩
  · refine (aligned_order hzone hz .minutes hquarter defaultMaxMinutes).1 (minutesOfSetForth 0)
      (minutesOfSetForth 1430) rfl rfl (by decide) (by rintro ⟨⟩) (by rintro ⟨⟩)
      fun start hfrom hto => ?_
    have hfirst : (minutesOfSetForth 0).instant = 1728142200 * second := rfl
    have hlast : (minutesOfSetForth 1430).instant = (1728142200 + 1430 * 60) * second := rfl
    by_cases hother : start = 1728142200
    · rw [hother, hchange]
      refine ⟨fun _ => .inl ?_, fun hback => absurd hback (by decide)⟩
      exact (boundary_eq_self_iff .minutes hquarter defaultMaxMinutes _).mp (by decide)
    · refine fits_of_unchanged (unchanged_around hz hchanges ?_ ?_ hother)
      · simp only [day, hour, minute, second] at *
        omega
      · simp only [second] at *
        omega
  · refine (aligned_order hzone hz .minutes htwenty defaultMaxMinutes).2 1728142200 ?_ (by decide)
    rw [hchange]
    intro hfits
    rcases hfits.forth (by decide) with hends | hnone
    · exact absurd ((boundary_eq_self_iff .minutes htwenty defaultMaxMinutes _).mpr hends)
        (by decide)
    · exact hnone ((1728142200 + 39000) * second)
        ((boundary_eq_self_iff .minutes htwenty defaultMaxMinutes _).mp (by decide)) (by decide)

/-- At half past two a clock is aligned to the skipped twenty past two, which is read as ten to
three: later than the moment itself, and than what is reached from ten minutes later. -/
theorem lordHowe_aligned_late :
    ∃ r r', (minutesOfSetForth 0).clock = .utc ∧ (minutesOfSetForth 10).clock = .utc ∧
      1 ≤ (⟨20, .minutes⟩ : Granularity).size ∧
      (minutesOfSetForth 0).instant ≤ (minutesOfSetForth 10).instant ∧
      align "Australia/Lord_Howe" .minutes ⟨20, .minutes⟩ defaultMaxMinutes
        (minutesOfSetForth 0) = .ok r ∧
      align "Australia/Lord_Howe" .minutes ⟨20, .minutes⟩ defaultMaxMinutes
        (minutesOfSetForth 10) = .ok r' ∧
      r.instant = (minutesOfSetForth 20).instant ∧ r'.instant = (minutesOfSetForth 10).instant ∧
      ¬ r.instant ≤ r'.instant ∧ ¬ r.instant ≤ (minutesOfSetForth 0).instant := by
  refine ⟨_, _, rfl, rfl, by decide, by decide, rfl, rfl, ?_, ?_, ?_, ?_⟩ <;> decide +kernel

end AnomalyWindows.Proofs.AlignedOrder
