import AnomalyWindows.Proofs.ZoneReading

namespace AnomalyWindows.Proofs.ClockChanges

open Calendar
open AnomalyWindows.Proofs.ZoneTimeline AnomalyWindows.Proofs.ZoneReading

theorem exists_come (changes : List Transition) (limit : Int) :
    ∃ come coming, changes = come ++ coming ∧ (∀ t ∈ come, t.instant ≤ limit) ∧
      ∀ u ∈ coming.head?, limit < u.instant := by
  refine ⟨changes.takeWhile (·.instant ≤ limit), changes.dropWhile (·.instant ≤ limit),
    List.takeWhile_append_dropWhile.symm, fun t ht => ?_, fun u hu => ?_⟩
  · exact of_decide_eq_true (List.all_eq_true.mp List.all_takeWhile t ht)
  · have hnot := List.head?_dropWhile_not (fun t : Transition => decide (t.instant ≤ limit)) changes
    rw [Option.mem_def.mp hu] at hnot
    simpa using hnot

section Last

variable {opening : Int} {past coming : List Transition} {t : Transition}
  (h : Timeline opening (past ++ t :: coming))
include h

theorem left_past : left Transition.after opening past = t.before :=
  (h.split.2.1.opens t rfl).symm

theorem started_past {i : Int} (hi : t.instant - 172800 ≤ i) :
    ∀ u ∈ past, u.instant ≤ i := by
  intro u hu
  have hapart := h.split.2.2 u hu t (List.mem_cons_self ..)
  omega

theorem held_after {α : Type} (value : Transition → α) (start : α) {i : Int} (hi : t.instant ≤ i)
    (hcoming : ∀ u ∈ coming.head?, i < u.instant) :
    held Transition.instant i value start (past ++ t :: coming) = value t := by
  rw [held_append_of_started _ (started_past h (by omega)), held_cons_of_le _ hi,
    held_of_lt hcoming]

theorem held_before {i : Int} (hi : t.instant - 172800 ≤ i) (hahead : i < t.instant) :
    held Transition.instant i Transition.after opening (past ++ t :: coming) = t.before := by
  rw [held_append_of_started _ (started_past h hi), held_cons_of_lt _ hahead, left_past h]

theorem wallStart_past_le {i wall : Int} (hi : t.instant ≤ i)
    (hday : i + t.after - 86400 ≤ wall) :
    ∀ u ∈ past, u.wallStart (repeats i t) ≤ wall := by
  intro u hu
  obtain ⟨hpast, hlater, hapart⟩ := h.split
  obtain ⟨⟨-, -⟩, ⟨hafter, -⟩, -, hback⟩ := hlater.mild t (List.mem_cons_self ..)
  obtain ⟨⟨-, hubefore⟩, ⟨-, huafter⟩, -, huback⟩ := hpast.mild u hu
  have hbehind := hapart u hu t (List.mem_cons_self ..)
  obtain ⟨last, hlast⟩ := Option.isSome_iff_exists.mp
    (List.getLast?_isSome.mpr (List.ne_nil_of_mem hu))
  have hopens : last.after = t.before := by
    rw [← left_past h, left, hlast]
    rfl
  -- the last one of them leaves the offset that the change takes up, the others are days behind
  have hstart : u.wallStart (repeats i t) ≤ u.instant + max u.before u.after ∧
      (repeats i t = true → u.wallStart (repeats i t) ≤ u.instant + u.after) := by
    cases repeats i t
    · rw [wallStart_false]
      simp
    · rw [wallStart_true]
      omega
  rcases hpast.le_last hlast u hu with rfl | hfar
  · cases hrepeats : repeats i t
    · rw [hrepeats] at hstart
      rw [repeats, decide_eq_false_iff_not] at hrepeats
      omega
    · have hread := hstart.2 hrepeats
      rw [hrepeats] at hread
      omega
  · have hlastBehind := hapart last (List.mem_of_getLast? hlast) t (List.mem_cons_self ..)
    omega

theorem held_wallStart {i wall : Int} (hi : t.instant ≤ i)
    (hcoming : ∀ u ∈ coming.head?, i < u.instant)
    (hday : i + t.after - 86400 ≤ wall) (hwall : wall ≤ i + t.after) :
    held (Transition.wallStart (repeats i t)) wall Transition.after opening
        (past ++ t :: coming) =
      if t.wallStart (repeats i t) ≤ wall then t.after else t.before := by
  obtain ⟨-, hlater, -⟩ := h.split
  have hcomingWall : ∀ u ∈ coming.head?, wall < u.wallStart (repeats i t) := by
    intro u hu
    have hnext := hlater.next_ge u hu
    have hmild := hlater.tail.mild u (List.mem_of_mem_head? hu)
    have hopens := hlater.tail.opens u hu
    obtain ⟨-, -, -, hback⟩ := hlater.mild t (List.mem_cons_self ..)
    refine Int.lt_of_le_of_lt hwall (hopens ▸ lt_wallStart hmild (hcoming u hu) ?_)
    intro hrepeats
    rw [repeats, decide_eq_true_eq] at hrepeats
    omega
  rw [held_append_of_started _ (wallStart_past_le h hi hday), left_past h]
  split
  · next hread => rw [held_cons_of_le _ hread, held_of_lt hcomingWall]
  · next hread => exact held_cons_of_lt _ (Int.not_le.mp hread)

end Last

/-- A change that is the last one of a clock up to a time. It need not change anything, if the clock
had one offset from the beginning. -/
structure InForce (z : Zone) (limit : Int) (t : Transition) : Prop where
  started : t.instant ≤ limit
  mild : Mild t
  before : ∀ i, t.instant - 172800 ≤ i → i < t.instant → z.offsetAt i = t.before
  after : ∀ i, t.instant ≤ i → i ≤ limit → z.offsetAt i = t.after
  foldAt : ∀ i, t.instant ≤ i → i ≤ limit → z.foldAt i = repeats i t
  offsetOfWall : ∀ i wall, t.instant ≤ i → i ≤ limit → i + t.after - 86400 ≤ wall →
    wall ≤ i + t.after →
      z.offsetOfWall wall (repeats i t) =
        if t.wallStart (repeats i t) ≤ wall then t.after else t.before

theorem inForce_of_constant {z : Zone} {limit offset : Int}
    (hbounds : -86400 < offset ∧ offset < 86400)
    (hat : ∀ i ≤ limit, z.offsetAt i = offset) (hfold : ∀ i ≤ limit, z.foldAt i = false)
    (hwall : ∀ wall ≤ limit + offset, z.offsetOfWall wall false = offset) :
    InForce z limit ⟨limit, offset, offset⟩ := by
  have hrepeats {i : Int} (hi : limit ≤ i) : repeats i ⟨limit, offset, offset⟩ = false := by
    rw [repeats, decide_eq_false_iff_not]
    dsimp only
    omega
  refine ⟨Int.le_refl _, ⟨hbounds, hbounds, ?_, ?_⟩, fun i _ hi => hat i (Int.le_of_lt hi),
    fun i _ hi => hat i hi, fun i hfrom hi => ?_, fun i wall hfrom hi _ hle => ?_⟩
  · rw [Int.sub_self]
    decide
  · rw [Int.sub_self]
    decide
  · rw [hfold i hi, hrepeats hfrom]
  · rw [hrepeats hfrom, ite_self]
    exact hwall wall (Int.le_trans hle (Int.add_le_add_right hi _))

theorem exists_inForce {z : Zone} (hz : Regular z) (limit : Int) : ∃ t, InForce z limit t := by
  obtain ⟨changes, htimeline, hoffset, hrepeats⟩ := hz (limit + 86400)
  have hat {i : Int} (hi : i ≤ limit) :
      z.offsetAt i = held Transition.instant i Transition.after z.initial changes :=
    hoffset i (by omega) _ near_instant
  have hwall (fold : Bool) {wall offset : Int} (hoffset' : offset < 86400)
      (hle : wall ≤ limit + offset) :
      z.offsetOfWall wall fold =
        held (Transition.wallStart fold) wall Transition.after z.initial changes :=
    hoffset wall (by omega) _ (near_wallStart fold)
  obtain ⟨come, coming, rfl, hcome, hcoming⟩ := exists_come changes limit
  have hlater {i : Int} (hi : i ≤ limit) : ∀ u ∈ coming.head?, i < u.instant :=
    fun u hu => Int.lt_of_le_of_lt hi (hcoming u hu)
  rcases List.eq_nil_or_concat come with rfl | ⟨past, t, rfl⟩
  · have hlt := htimeline.opening_lt
    refine ⟨_, inForce_of_constant ⟨htimeline.opening_gt, hlt⟩ (fun i hi => ?_)
      (fun i hi => ?_) fun wall hle => ?_⟩
    · rw [hat hi, List.nil_append, held_of_lt (hlater hi)]
    · rw [hrepeats i (by omega), List.nil_append, held_of_lt (hlater hi)]
    · rw [hwall false hlt hle, List.nil_append]
      refine held_of_lt fun u hu => ?_
      have hopens := htimeline.opens u hu
      have hahead := hcoming u hu
      rw [wallStart_false]
      omega
  · rw [List.concat_eq_append, List.append_assoc, List.singleton_append] at *
    have hstarted := hcome t (by simp)
    have hmild := htimeline.mild t (by simp)
    refine ⟨t, hstarted, hmild, fun i hfrom hi => ?_, fun i hfrom hi => ?_, fun i hfrom hi => ?_,
      fun i wall hfrom hi hday hle => ?_⟩
    · rw [hat (by omega), held_before htimeline hfrom hi]
    · rw [hat hi, held_after htimeline _ _ hfrom (hlater hi)]
    · rw [hrepeats i (by omega), held_after htimeline _ _ hfrom (hlater hi)]
    · rw [hwall _ hmild.2.1.2 (Int.le_trans hle (Int.add_le_add_right hi _)),
        held_wallStart htimeline hfrom (hlater hi) hday hle]

theorem apart_of_inForce {z : Zone} {limit limit' : Int} {t t' : Transition}
    (h : InForce z limit t) (h' : InForce z limit' t') (hbetween : limit < t'.instant)
    (hchanges : t.before ≠ t.after) : t.instant + 172800 ≤ t'.instant := by
  have hstarted := h.started
  by_contra hclose
  have hbefore := h'.before (t.instant - 1) (by omega) (by omega)
  have hafter := h'.before t.instant (by omega) (by omega)
  rw [h.before _ (by omega) (by omega)] at hbefore
  rw [h.after _ (Int.le_refl _) hstarted] at hafter
  exact hchanges (hbefore.trans hafter.symm)

/-- What a clock does at an instant; most of the time it goes on as it is. -/
def changeAt (z : Zone) (instant : Int) : Transition :=
  ⟨instant, z.offsetAt (instant - 1), z.offsetAt instant⟩

theorem changeAt_of_inForce {z : Zone} {limit : Int} {t : Transition} (h : InForce z limit t) :
    changeAt z t.instant = t := by
  have hbefore := h.before (t.instant - 1) (by omega) (by omega)
  have hafter := h.after t.instant (Int.le_refl _) h.started
  rw [changeAt, hbefore, hafter]

theorem inForce_changeAt {z : Zone} (hz : Regular z) {instant : Int}
    (hchanges : (changeAt z instant).before ≠ (changeAt z instant).after) :
    InForce z (instant + 86400) (changeAt z instant) := by
  obtain ⟨t, h⟩ := exists_inForce hz (instant + 86400)
  have hstarted := h.started
  -- elsewhere on the two days before and the day after, the change in force leaves the clock alone
  have hinstant : t.instant = instant := by
    by_contra hother
    refine hchanges ?_
    dsimp only [changeAt]
    by_cases hlater : instant < t.instant
    · rw [h.before (instant - 1) (by omega) (by omega), h.before instant (by omega) hlater]
    · rw [h.after (instant - 1) (by omega) (by omega), h.after instant (by omega) (by omega)]
  subst hinstant
  rwa [changeAt_of_inForce h]

theorem unchanged_around {z : Zone} (hz : Regular z) {instant start : Int}
    (hchanges : (changeAt z instant).before ≠ (changeAt z instant).after)
    (hfrom : instant - 172800 < start) (hto : start ≤ instant + 86400) (hother : start ≠ instant) :
    (changeAt z start).before = (changeAt z start).after := by
  have h : InForce z (instant + 86400) ⟨instant, _, _⟩ := inForce_changeAt hz hchanges
  dsimp only [changeAt]
  by_cases hearlier : start < instant
  · rw [h.before (start - 1) (by dsimp only; omega) (by dsimp only; omega),
      h.before start (by dsimp only; omega) hearlier]
  · rw [h.after (start - 1) (by dsimp only; omega) (by omega),
      h.after start (by dsimp only; omega) hto]

end AnomalyWindows.Proofs.ClockChanges
