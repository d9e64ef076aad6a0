import AnomalyWindows.Proofs.CalendarMoves
import AnomalyWindows.Proofs.ZoneReading

namespace AnomalyWindows.Proofs.ClockSteps

open Calendar
open AnomalyWindows.Proofs.CalendarMoves
open AnomalyWindows.Proofs.ZoneTimeline AnomalyWindows.Proofs.ZoneReading

theorem offsetOfWall_offsetAt {z : Zone} (hz : Regular z) (instant : Int) :
    z.offsetOfWall (instant + z.offsetAt instant) (z.foldAt instant) = z.offsetAt instant := by
  obtain ⟨changes, htimeline, hoffset, hfold⟩ := hz (instant + 86400)
  have hat : z.offsetAt instant =
      held Transition.instant instant Transition.after z.initial changes :=
    hoffset instant (by omega) _ near_instant
  have hbounds := htimeline.held_bounds Transition.instant instant
  have hread := htimeline.held_wall instant false (by simp)
  rw [← hfold instant (by omega), ← hat] at hread
  rw [← hat] at hbounds
  rw [Zone.offsetOfWall, hoffset _ (by omega) _ (near_wallStart _), hread]

theorem exists_timeline_of_wall {z : Zone} (hz : Regular z) (wall : Int) (fold : Bool)
    {limit : Int} (hlimit : wall + 86400 ≤ limit) :
    ∃ changes, Timeline z.initial changes ∧
      (∀ instant ≤ limit, z.offsetAt instant =
        held Transition.instant instant Transition.after z.initial changes) ∧
      z.offsetOfWall wall fold =
        held (Transition.wallStart fold) wall Transition.after z.initial changes ∧
      wall - z.offsetOfWall wall fold ≤ limit := by
  obtain ⟨changes, htimeline, hoffset, -⟩ := hz limit
  have hread : z.offsetOfWall wall fold =
      held (Transition.wallStart fold) wall Transition.after z.initial changes :=
    hoffset wall (by omega) _ (near_wallStart fold)
  have hbounds := htimeline.held_bounds (Transition.wallStart fold) wall
  rw [← hread] at hbounds
  exact ⟨changes, htimeline, fun instant hinstant => hoffset instant hinstant _ near_instant,
    hread, by omega⟩

theorem offsetOfWall_le {z : Zone} (hz : Regular z) (wall : Int) :
    z.offsetOfWall wall false ≤ z.offsetAt (wall - z.offsetOfWall wall false) := by
  obtain ⟨changes, htimeline, hoffset, hread, hlimit⟩ :=
    exists_timeline_of_wall hz wall false (Int.le_refl _)
  rw [hoffset _ hlimit, hread]
  exact htimeline.held_firstPass wall

theorem wall_lt_of_le {z : Zone} (hz : Regular z) {earlier instant : Int}
    (hle : earlier ≤ instant) :
    earlier + z.offsetAt earlier < instant + z.offsetAt instant + 86400 := by
  obtain ⟨changes, htimeline, hoffset, -⟩ := hz instant
  rw [Zone.offsetAt, Zone.offsetAt, hoffset _ hle _ near_instant,
    hoffset _ (Int.le_refl _) _ near_instant]
  exact htimeline.wall_lt hle

theorem ediv_add_seconds (time seconds : Int) :
    (time + seconds * second) / second = time / second + seconds :=
  Int.add_mul_ediv_right time seconds (by decide)

theorem wall_onClock_instant (z : Zone) (wall : Int) (fold : Bool) :
    (Moment.onClock (.zone z) (Moment.instant ⟨wall, fold, .zone z⟩)).wall =
      wall + (z.offsetAt (wall / second - z.offsetOfWall (wall / second) fold) -
        z.offsetOfWall (wall / second) fold) * second := by
  have hsub (seconds : Int) : wall - seconds * second = wall + -seconds * second := by
    rw [Int.neg_mul, Int.sub_eq_add_neg]
  simp only [Moment.instant, Moment.offset, Moment.onClock, Clock.offsetOfWall, Clock.offsetAt,
    hsub, ediv_add_seconds]
  rw [← Int.sub_eq_add_neg, Int.neg_mul, Int.sub_mul]
  omega

section

variable {z : Zone} (hz : Regular z)
include hz

theorem instant_onClock (instant : Int) :
    (Moment.onClock (.zone z) instant).instant = instant := by
  simp only [Moment.instant, Moment.offset, Moment.onClock, Clock.offsetOfWall, Clock.offsetAt,
    Clock.foldAt, ediv_add_seconds, offsetOfWall_offsetAt hz]
  omega

theorem wall_le_firstPass (wall : Int) :
    wall ≤ (Moment.onClock (.zone z) (Moment.instant ⟨wall, false, .zone z⟩)).wall := by
  have hle := offsetOfWall_le hz (wall / second)
  rw [wall_onClock_instant]
  simp only [second] at *
  omega

theorem onClock_wall_lt {earlier instant : Int} (hle : earlier ≤ instant) :
    (Moment.onClock (.zone z) earlier).wall < (Moment.onClock (.zone z) instant).wall + day := by
  have hseconds : earlier / second ≤ instant / second :=
    Int.ediv_le_ediv (by decide) hle
  have hlt := wall_lt_of_le hz hseconds
  simp only [Moment.onClock, Clock.offsetAt, second, day, hour, minute] at *
  omega

theorem wall_le_daysAway {m : Moment} (hm : OnZone z m) (days : Int) :
    m.wall + days * day ≤ (daysAway days m).wall := by
  rw [daysAway, hm]
  exact wall_le_firstPass hz _

theorem instant_lt_daysAway {days : Int} (hdays : 0 < days) (instant : Int) :
    instant < (daysAway days (Moment.onClock (.zone z) instant)).instant := by
  have hwall := wall_le_daysAway hz (onZone_onClock z instant) days
  have hmul := Int.mul_le_mul_of_nonneg_right (show 1 ≤ days from hdays) (show 0 ≤ day by decide)
  rw [daysAway] at hwall ⊢
  rw [show (Moment.onClock (.zone z) instant).clock = .zone z from rfl] at hwall ⊢
  rw [instant_onClock hz]
  -- were it no later, the clock would have been set back by the days that the wall went on
  by_contra hback
  have hlt := onClock_wall_lt hz (Int.not_lt.mp hback)
  omega

theorem instant_timeAway {m : Moment} (hm : OnZone z m) (step : Int) :
    (timeAway step m).instant = m.instant + step := by
  rw [timeAway, hm, instant_onClock hz]

/-- A period of hours and finer units leads as far in real time as it says. -/
theorem instant_landing_of_exact {p : Period} (hdays : p.calendarDays = 0) {sign : Int}
    {m : Moment} (hm : OnZone z m) : (landing p sign m).instant = m.instant + sign * p.exact := by
  rw [landing, if_pos hdays]
  split
  · next hnone => rw [hnone, Int.mul_zero, Int.add_zero]
  · exact instant_timeAway hz hm _

/-- A period without negative fields leads forward in real time. -/
theorem instant_lt_landing {p : Period} (hp : Forward p) (instant : Int) :
    instant < (landing p 1 (Moment.onClock (.zone z) instant)).instant := by
  obtain ⟨hdays, hexact, hsome⟩ := parts_of_forward hp
  have hstart := onZone_onClock z instant
  unfold landing
  dsimp only
  rw [Int.one_mul, Int.one_mul]
  by_cases hnone : p.calendarDays = 0
  · rw [if_pos hnone, if_neg (by omega), instant_timeAway hz hstart, instant_onClock hz]
    omega
  · rw [if_neg hnone]
    have hmoved := instant_lt_daysAway hz (show 0 < p.calendarDays by omega) instant
    split
    · exact hmoved
    · rw [instant_timeAway hz (onZone_daysAway hstart _)]
      omega

end

end AnomalyWindows.Proofs.ClockSteps
