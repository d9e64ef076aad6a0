import AnomalyWindows.Proofs.ClockSteps

namespace AnomalyWindows.Proofs.FirstPass

open Calendar
open AnomalyWindows.Proofs.CalendarMoves
open AnomalyWindows.Proofs.ZoneTimeline AnomalyWindows.Proofs.ZoneReading
open AnomalyWindows.Proofs.ClockSteps

section Zone

variable {z : Zone} (hz : Regular z)
include hz

theorem offsetAt_of_shown {instant wall : Int} (fold : Bool)
    (hshown : instant + z.offsetAt instant = wall) :
    z.offsetAt (wall - z.offsetOfWall wall fold) = z.offsetOfWall wall fold := by
  obtain ⟨changes, htimeline, hoffset, hread, hlimit⟩ :=
    exists_timeline_of_wall hz wall fold (Int.le_max_right instant _)
  rw [hoffset instant (Int.le_max_left _ _)] at hshown
  rw [hoffset _ hlimit, hread]
  exact htimeline.held_shown fold hshown

theorem wall_lt_of_lt_firstPass {earlier wall : Int}
    (hearlier : earlier < wall - z.offsetOfWall wall false) :
    earlier + z.offsetAt earlier <
      wall - z.offsetOfWall wall false + z.offsetAt (wall - z.offsetOfWall wall false) := by
  obtain ⟨changes, htimeline, hoffset, hread, hlimit⟩ :=
    exists_timeline_of_wall hz wall false (Int.le_refl _)
  rw [hoffset _ hlimit, hoffset earlier (by omega), hread]
  exact htimeline.wall_lt_firstPass wall (hread ▸ hearlier)

theorem exists_earlier_of_foldAt {instant wall : Int} (hfold : z.foldAt instant = true)
    (hle : wall ≤ instant + z.offsetAt instant)
    (hday : instant + z.offsetAt instant ≤ wall + 86400) :
    ∃ earlier < instant, earlier + z.offsetAt earlier = wall := by
  obtain ⟨changes, htimeline, hoffset, hrepeats⟩ := hz instant
  have hread {time : Int} (htime : time ≤ instant) : z.offsetAt time = _ :=
    hoffset time htime _ near_instant
  rw [hrepeats instant (Int.le_refl _)] at hfold
  rw [hread (Int.le_refl _)] at hle hday
  obtain ⟨earlier, -, hearlier, hshown⟩ :=
    htimeline.exists_earlier_of_repeats hfold hle hday
  exact ⟨earlier, hearlier, by rwa [hread (Int.le_of_lt hearlier)]⟩

theorem foldAt_firstPass (wall : Int) : z.foldAt (wall - z.offsetOfWall wall false) = false := by
  rw [← Bool.not_eq_true]
  intro hfold
  obtain ⟨earlier, hearlier, hshown⟩ :=
    exists_earlier_of_foldAt hz hfold (Int.le_refl _) (by omega)
  have hlt := wall_lt_of_lt_firstPass hz hearlier
  omega

end Zone

/-- The instant as which a clock reads a wall time on a pass. -/
def readAt (z : Zone) (wall : Int) (fold : Bool) : Int :=
  Moment.instant ⟨wall, fold, .zone z⟩

theorem readAt_ediv_second (z : Zone) (wall : Int) (fold : Bool) :
    readAt z wall fold / second = wall / second - z.offsetOfWall (wall / second) fold := by
  have hread : readAt z wall fold = wall + -z.offsetOfWall (wall / second) fold * second := by
    rw [Int.neg_mul]
    rfl
  rw [hread, ediv_add_seconds, Int.sub_eq_add_neg]

section Moment

variable {z : Zone} (hz : Regular z)
include hz

theorem onClock_readAt_of_shown {instant wall : Int} (fold : Bool)
    (hshown : (Moment.onClock (.zone z) instant).wall = wall) :
    (Moment.onClock (.zone z) (readAt z wall fold)).wall = wall := by
  have hseconds : instant / second + z.offsetAt (instant / second) = wall / second := by
    rw [← hshown]
    exact (ediv_add_seconds instant _).symm
  have hoffset := offsetAt_of_shown hz fold hseconds
  rw [← readAt_ediv_second] at hoffset
  simp only [Moment.onClock, Clock.offsetAt, hoffset]
  exact Int.sub_add_cancel wall _

theorem onClock_wall_lt_firstPass {earlier wall : Int} (hearlier : earlier < readAt z wall false) :
    (Moment.onClock (.zone z) earlier).wall <
      (Moment.onClock (.zone z) (readAt z wall false)).wall := by
  have hseconds : earlier / second ≤ readAt z wall false / second :=
    Int.ediv_le_ediv (by decide) (Int.le_of_lt hearlier)
  simp only [Moment.onClock, Clock.offsetAt]
  rcases Int.le_iff_eq_or_lt.mp hseconds with hsame | hbefore
  · rw [hsame]
    omega
  · rw [readAt_ediv_second] at hbefore
    have hlt := wall_lt_of_lt_firstPass hz hbefore
    rw [← readAt_ediv_second] at hlt
    simp only [second] at *
    omega

theorem fold_onClock_firstPass (wall : Int) :
    (Moment.onClock (.zone z) (readAt z wall false)).fold = false := by
  simp only [Moment.onClock, Clock.foldAt, readAt_ediv_second, foldAt_firstPass hz]

theorem firstPass_le_iff (wall wall' : Int) :
    readAt z wall false ≤ readAt z wall' false ↔
      (Moment.onClock (.zone z) (readAt z wall false)).wall ≤
        (Moment.onClock (.zone z) (readAt z wall' false)).wall := by
  rcases Int.lt_trichotomy (readAt z wall false) (readAt z wall' false) with hlt | heq | hgt
  · exact iff_of_true (Int.le_of_lt hlt) (Int.le_of_lt (onClock_wall_lt_firstPass hz hlt))
  · rw [heq]
    exact iff_of_true (Int.le_refl _) (Int.le_refl _)
  · exact iff_of_false (Int.not_le.mpr hgt)
      (Int.not_le.mpr (onClock_wall_lt_firstPass hz hgt))

theorem firstPass_eq_iff (wall wall' : Int) :
    readAt z wall false = readAt z wall' false ↔
      (Moment.onClock (.zone z) (readAt z wall false)).wall =
        (Moment.onClock (.zone z) (readAt z wall' false)).wall := by
  rw [le_antisymm_iff, firstPass_le_iff hz, firstPass_le_iff hz, ← le_antisymm_iff]

end Moment

end AnomalyWindows.Proofs.FirstPass
