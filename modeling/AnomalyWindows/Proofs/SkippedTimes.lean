import AnomalyWindows.Proofs.FirstPass

namespace AnomalyWindows.Proofs.SkippedTimes

open Calendar
open AnomalyWindows.Proofs.CalendarMoves
open AnomalyWindows.Proofs.ZoneTimeline AnomalyWindows.Proofs.ZoneReading
open AnomalyWindows.Proofs.ClockSteps AnomalyWindows.Proofs.FirstPass

/-- The instant at which a wall time is read on its second pass has no higher offset than the wall
time has. -/
theorem held_secondPass {opening : Int} {changes : List Transition}
    (h : Timeline opening changes) (wall : Int) :
    held Transition.instant
        (wall - held (Transition.wallStart true) wall Transition.after opening changes)
        Transition.after opening changes ≤
      held (Transition.wallStart true) wall Transition.after opening changes := by
  induction changes generalizing opening with
  | nil => exact Int.le_refl _
  | cons t later ih =>
      have hopens := h.opens t rfl
      have hstart := wallStart_true t
      by_cases hread : t.wallStart true ≤ wall
      · rw [held_cons_of_le later hread]
        by_cases hpast : t.instant ≤
            wall - held (Transition.wallStart true) wall Transition.after t.after later
        · rw [held_cons_of_le later hpast]
          exact ih h.tail
        -- a wall time that is read behind the change, at an instant in front of it, is skipped
        · rw [held_cons_of_lt later (Int.not_le.mp hpast)]
          have hskipped : ¬t.instant + t.after ≤ wall := fun hshown =>
            hpast (h.instant_le_of_wall wall true hshown)
          omega
      · rw [held_cons_of_lt later (Int.not_le.mp hread), held_cons_of_lt later (by omega)]

/-- Where no change sets the clock forward by a day, a wall time is read at an instant whose offset
is not a day ahead of the one that the wall time has. -/
theorem held_firstPass_lt {opening : Int} {changes : List Transition}
    (h : Timeline opening changes) {limit : Int}
    (hgentle : ∀ instant < limit,
      held Transition.instant (instant + 1) Transition.after opening changes <
        held Transition.instant instant Transition.after opening changes + 86400)
    (wall : Int)
    (hlimit : wall - held (Transition.wallStart false) wall Transition.after opening changes ≤
      limit) :
    held Transition.instant
        (wall - held (Transition.wallStart false) wall Transition.after opening changes)
        Transition.after opening changes <
      held (Transition.wallStart false) wall Transition.after opening changes + 86400 := by
  induction changes generalizing opening with
  | nil =>
      simp only [held]
      omega
  | cons t later ih =>
      have hopens := h.opens t rfl
      have hstart := wallStart_false t
      have hmild := h.mild t (List.mem_cons_self ..)
      by_cases hread : t.wallStart false ≤ wall
      · rw [held_cons_of_le later hread] at hlimit ⊢
        rw [held_cons_of_le later (h.instant_le_of_wall wall false (by omega))]
        refine ih h.tail (fun instant hinstant => ?_) hlimit
        by_cases hstarted : t.instant ≤ instant
        · have hstep := hgentle instant hinstant
          rwa [held_cons_of_le later hstarted, held_cons_of_le later (by omega)] at hstep
        · have hahead (time : Int) (htime : time ≤ instant + 1) :
              ∀ u ∈ later.head?, time < u.instant := by
            intro u hu
            have hge := h.next_ge u hu
            omega
          rw [held_of_lt (hahead _ (Int.le_refl _)), held_of_lt (hahead _ (by omega))]
          omega
      · rw [held_cons_of_lt later (Int.not_le.mp hread)] at hlimit ⊢
        by_cases hpast : t.instant ≤ wall - opening
        -- the wall time is skipped by the change, so the offsets are those around it
        · obtain ⟨-, -, hforth, -⟩ := hmild
          have hahead (time : Int) (htime : time ≤ wall - opening) :
              ∀ u ∈ later.head?, time < u.instant := by
            intro u hu
            have hge := h.next_ge u hu
            omega
          have hstep := hgentle (t.instant - 1) (by omega)
          rw [Int.sub_add_cancel, held_cons_of_le later (Int.le_refl _),
            held_of_lt (hahead _ (by omega)), held_cons_of_lt later (by omega)] at hstep
          rwa [held_cons_of_le later hpast, held_of_lt (hahead _ (Int.le_refl _))]
        · rw [held_cons_of_lt later (Int.not_le.mp hpast)]
          omega

/-- A skipped wall time is read no more than a day ahead, and a day later the clock shows all that
lies between the two. -/
theorem held_behind_gap {opening : Int} {changes : List Transition}
    (h : Timeline opening changes) {wall offset shown : Int}
    (hoffset : held (Transition.wallStart false) wall Transition.after opening changes = offset)
    (hshown : held Transition.instant (wall - offset) Transition.after opening changes = shown)
    (hskipped : offset < shown) :
    shown ≤ offset + 86400 ∧
      ∀ next, wall + 86400 ≤ next → next ≤ wall + (shown - offset) + 86400 →
        held Transition.instant
            (next - held (Transition.wallStart false) next Transition.after opening changes)
            Transition.after opening changes =
          held (Transition.wallStart false) next Transition.after opening changes := by
  induction changes generalizing opening with
  | nil =>
      rw [held] at hoffset hshown
      omega
  | cons t later ih =>
      obtain ⟨-, -, hforth, -⟩ := h.mild t (List.mem_cons_self ..)
      have hopens := h.opens t rfl
      have hstart := wallStart_false t
      by_cases hread : t.wallStart false ≤ wall
      · rw [held_cons_of_le later hread] at hoffset
        rw [held_cons_of_le later (hoffset ▸ h.instant_le_of_wall wall false (by omega))] at hshown
        obtain ⟨hle, hnexts⟩ := ih h.tail hoffset hshown
        refine ⟨hle, fun next hfrom hto => ?_⟩
        have hread' : t.wallStart false ≤ next := by omega
        rw [held_cons_of_le later hread',
          held_cons_of_le later (h.instant_le_of_wall next false (by omega))]
        exact hnexts next hfrom hto
      · rw [held_cons_of_lt later (Int.not_le.mp hread)] at hoffset
        subst hoffset
        by_cases hpast : t.instant ≤ wall - opening
        -- the change skips the wall time, and the next one comes after all that is looked at
        · rw [held_cons_of_le later hpast] at hshown
          have hcurrent : ∀ time < t.instant + 172800, ∀ u ∈ later.head?, time < u.instant := by
            intro time htime u hu
            have hge := h.next_ge u hu
            omega
          rw [held_of_lt (hcurrent _ (by omega))] at hshown
          refine ⟨by omega, fun next hfrom hto => ?_⟩
          have hnext : ∀ u ∈ later.head?, next < u.wallStart false := by
            intro u hu
            have hge := h.next_ge u hu
            have htakes := h.tail.opens u hu
            rw [wallStart_false]
            omega
          have hread' : t.wallStart false ≤ next := by omega
          rw [held_cons_of_le later hread', held_of_lt hnext, held_cons_of_le later (by omega),
            held_of_lt (hcurrent _ (by omega))]
        · rw [held_cons_of_lt later (Int.not_le.mp hpast)] at hshown
          omega

/-- A zone whose clock is never set forward by a day or more. -/
def Gentle (z : Zone) : Prop :=
  ∀ instant, z.offsetAt (instant + 1) < z.offsetAt instant + 86400

section Zone

variable {z : Zone} (hz : Regular z)
include hz

theorem offsetAt_secondPass_le (wall : Int) :
    z.offsetAt (wall - z.offsetOfWall wall true) ≤ z.offsetOfWall wall true := by
  obtain ⟨changes, htimeline, hoffset, hread, hlimit⟩ :=
    exists_timeline_of_wall hz wall true (Int.le_refl _)
  rw [hoffset _ hlimit, hread]
  exact held_secondPass htimeline wall

theorem offset_behind_gap {wall : Int}
    (hskipped : z.offsetOfWall wall false < z.offsetAt (wall - z.offsetOfWall wall false)) :
    z.offsetAt (wall - z.offsetOfWall wall false) ≤ z.offsetOfWall wall false + 86400 ∧
      ∀ next, wall + 86400 ≤ next →
        next ≤ wall + (z.offsetAt (wall - z.offsetOfWall wall false) -
          z.offsetOfWall wall false) + 86400 →
        z.offsetAt (next - z.offsetOfWall next false) = z.offsetOfWall next false := by
  obtain ⟨changes, htimeline, hoffset, -⟩ := hz (wall + 259200)
  have hread {time : Int} (htime : time ≤ wall + 172800) :
      z.offsetOfWall time false =
          held (Transition.wallStart false) time Transition.after z.initial changes ∧
        z.offsetAt (time - z.offsetOfWall time false) =
          held Transition.instant (time - z.offsetOfWall time false) Transition.after z.initial
            changes := by
    have hwall : z.offsetOfWall time false = _ :=
      hoffset time (by omega) _ (near_wallStart false)
    have hbounds := htimeline.held_bounds (Transition.wallStart false) time
    rw [← hwall] at hbounds
    exact ⟨hwall, hoffset _ (by omega) _ near_instant⟩
  obtain ⟨hwall, hinstant⟩ := hread (show wall ≤ wall + 172800 by omega)
  obtain ⟨hle, hnexts⟩ := held_behind_gap htimeline hwall.symm hinstant.symm hskipped
  refine ⟨hle, fun next hfrom hto => ?_⟩
  obtain ⟨hwall', hinstant'⟩ := hread (show next ≤ wall + 172800 by omega)
  rw [hinstant', hwall']
  exact hnexts next hfrom hto

theorem offsetAt_firstPass_lt (hgentle : Gentle z) (wall : Int) :
    z.offsetAt (wall - z.offsetOfWall wall false) < z.offsetOfWall wall false + 86400 := by
  obtain ⟨changes, htimeline, hoffset, hread, hlimit⟩ :=
    exists_timeline_of_wall hz wall false (Int.le_refl _)
  have hsteps : ∀ instant < wall + 86400,
      held Transition.instant (instant + 1) Transition.after z.initial changes <
        held Transition.instant instant Transition.after z.initial changes + 86400 := by
    intro instant hinstant
    rw [← hoffset _ (Int.add_one_le_of_lt hinstant), ← hoffset _ (Int.le_of_lt hinstant)]
    exact hgentle instant
  rw [hoffset _ hlimit, hread]
  exact held_firstPass_lt htimeline hsteps wall (hread ▸ hlimit)

end Zone

section Moment

variable {z : Zone} (hz : Regular z)
include hz

theorem wall_secondPass_le (wall : Int) :
    (Moment.onClock (.zone z) (readAt z wall true)).wall ≤ wall := by
  have hle := offsetAt_secondPass_le hz (wall / second)
  rw [readAt, wall_onClock_instant]
  simp only [second] at *
  omega

theorem wall_firstPass_lt (hgentle : Gentle z) (wall : Int) :
    (Moment.onClock (.zone z) (readAt z wall false)).wall < wall + day := by
  have hlt := offsetAt_firstPass_lt hz hgentle (wall / second)
  rw [readAt, wall_onClock_instant]
  simp only [second, day, hour, minute] at *
  omega

theorem wall_behind_gap {wall : Int}
    (hskipped : wall < (Moment.onClock (.zone z) (readAt z wall false)).wall) :
    (Moment.onClock (.zone z) (readAt z wall false)).wall ≤ wall + day ∧
      ∀ next, wall + day ≤ next →
        next ≤ (Moment.onClock (.zone z) (readAt z wall false)).wall + day →
        (Moment.onClock (.zone z) (readAt z next false)).wall = next := by
  rw [readAt, wall_onClock_instant] at hskipped ⊢
  have hoffset : z.offsetOfWall (wall / second) false <
      z.offsetAt (wall / second - z.offsetOfWall (wall / second) false) := by
    simp only [second] at *
    omega
  obtain ⟨hle, hnexts⟩ := offset_behind_gap hz hoffset
  refine ⟨?_, fun next hfrom hto => ?_⟩
  · simp only [second, day, hour, minute] at *
    omega
  · rw [readAt, wall_onClock_instant, hnexts, Int.sub_self, Int.zero_mul, Int.add_zero]
    · simp only [second, day, hour, minute] at *
      omega
    · simp only [second, day, hour, minute] at *
      omega

theorem wall_firstPass_le (wall : Int) :
    (Moment.onClock (.zone z) (readAt z wall false)).wall ≤ wall + day := by
  by_cases hskipped : wall < (Moment.onClock (.zone z) (readAt z wall false)).wall
  · exact (wall_behind_gap hz hskipped).1
  · have hpos : 0 < day := by decide
    omega

/-- Days lead forward in real time, from whatever is read on the clock of a gentle zone. -/
theorem instant_lt_daysAway_of_gentle (hgentle : Gentle z) {m : Moment} (hm : OnZone z m)
    {days : Int} (hdays : 0 < days) : m.instant < (daysAway days m).instant := by
  obtain ⟨wall, fold, clock⟩ := m
  obtain rfl : clock = .zone z := hm
  have hwall := wall_le_daysAway hz (show OnZone z ⟨wall, fold, .zone z⟩ from rfl) days
  have hmul := Int.mul_le_mul_of_nonneg_right (show 1 ≤ days from hdays) (show 0 ≤ day by decide)
  rw [daysAway] at hwall ⊢
  rw [instant_onClock hz]
  change wall + days * day ≤
    (Moment.onClock (.zone z) (readAt z (wall + days * day) false)).wall at hwall
  change readAt z wall fold < readAt z (wall + days * day) false
  by_contra hback
  have hle := Int.not_lt.mp hback
  cases fold with
  -- a first pass shows less than a day more than was read, and the clock gets there first then
  | false =>
      have hshown := wall_firstPass_lt hz hgentle wall
      rcases Int.le_iff_eq_or_lt.mp hle with hsame | hbefore
      · rw [hsame] at hwall
        omega
      · have hlt := onClock_wall_lt_firstPass hz hbefore
        omega
  -- a second pass shows no more than was read, so the clock would have been set back by the days
  | true =>
      have hshown := wall_secondPass_le hz wall
      have hlt := onClock_wall_lt hz hle
      omega

end Moment

def offsets (z : Zone) : List Int :=
  z.initial :: z.history.map Transition.after ++
    match z.tail with
    | .constant => []
    | .yearly d => [d.standard, d.daylight]

theorem held_mem {α : Type} (start : Transition → Int) (time : Int) (value : Transition → α)
    (opening : α) (changes : List Transition) :
    held start time value opening changes ∈ opening :: changes.map value := by
  induction changes generalizing opening with
  | nil => exact List.mem_singleton_self _
  | cons t later ih =>
      rw [held]
      split
      · exact List.mem_cons_of_mem _ (ih (value t))
      · exact List.mem_cons_self ..

theorem exists_changes (d : Daylight) (year : Int) :
    ∃ t u, d.changes year = [t, u] ∧ t.before ∈ [d.standard, d.daylight] ∧
      t.after ∈ [d.standard, d.daylight] ∧ u.after ∈ [d.standard, d.daylight] := by
  unfold Daylight.changes
  dsimp only
  split
  · exact ⟨_, _, rfl, by simp, by simp, by simp⟩
  · exact ⟨_, _, rfl, by simp, by simp, by simp⟩

theorem offsetAt_mem_offsets (z : Zone) (instant : Int) : z.offsetAt instant ∈ offsets z := by
  have hheld := held_mem Transition.instant instant Transition.after
    (z.changesAround Transition.instant instant).1 (z.changesAround Transition.instant instant).2
  rw [← offsetBy_eq] at hheld
  change z.offsetAt instant ∈ _ at hheld
  rw [Zone.changesAround] at hheld
  rw [offsets]
  cases htail : z.tail with
  | constant =>
      rw [htail] at hheld
      simpa using hheld
  | yearly d =>
      rw [htail] at hheld
      dsimp only at hheld
      split at hheld
      · obtain ⟨t, u, hchanges, hbefore, hafter, hlast⟩ :=
          exists_changes d (Zone.yearOf instant)
        refine List.mem_append_right _ ?_
        simp only [hchanges, List.head?_cons, List.map_cons, List.map_nil, List.mem_cons,
          List.not_mem_nil, or_false] at hheld
        rcases hheld with hheld | hheld | hheld
        · exact hheld ▸ hbefore
        · exact hheld ▸ hafter
        · exact hheld ▸ hlast
      · exact List.mem_append_left _ hheld

theorem gentle_of_offsets {z : Zone}
    (h : ∃ low ∈ offsets z, ∀ offset ∈ offsets z, low ≤ offset ∧ offset < low + 86400) :
    Gentle z := by
  intro instant
  obtain ⟨low, -, hbounds⟩ := h
  have hearlier := hbounds _ (offsetAt_mem_offsets z instant)
  have hlater := hbounds _ (offsetAt_mem_offsets z (instant + 1))
  omega

set_option maxRecDepth 10000 in
theorem gentle_of_mem : ∀ z ∈ ZoneTable.zones, z.name ≠ "Pacific/Apia" → Gentle z := by
  have hknown : ∀ z ∈ ZoneTable.zones, z.name ≠ "Pacific/Apia" →
      ∃ low ∈ offsets z, ∀ offset ∈ offsets z, low ≤ offset ∧ offset < low + 86400 := by
    decide +kernel
  exact fun z hz hname => gentle_of_offsets (hknown z hz hname)

theorem gentle_newYork : Gentle ZoneTable.newYork :=
  gentle_of_mem _ (by simp [ZoneTable.zones]) (by decide)

end AnomalyWindows.Proofs.SkippedTimes
