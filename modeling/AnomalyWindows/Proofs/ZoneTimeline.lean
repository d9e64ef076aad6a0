import AnomalyWindows.Calendar.Zone
import Mathlib.Data.List.Chain
import Mathlib.Order.Basic

/-!
Timelines of offsets: changes in order, each taking up the offset that the one before it leaves and
at least two days behind it. Wall times are read on a timeline as they are shown on it, a wall time
that is skipped is read past the gap, and the wall never falls back by a whole day.
-/

namespace AnomalyWindows.Proofs.ZoneTimeline

open Calendar

/-- What the last change leaves that counts at a time, when changes count from the time that `start`
gives, up to the first that does not. -/
def held {α : Type} (start : Transition → Int) (time : Int) (value : Transition → α) :
    α → List Transition → α
  | opening, [] => opening
  | opening, t :: later =>
    if start t ≤ time then held start time value (value t) later else opening

theorem held_lastChange {α : Type} (start : Transition → Int) (time : Int)
    (value : Transition → α) (opening : α) (changes : List Transition) :
    (match Zone.lastChange start time changes with
      | some t => value t
      | none => opening) = held start time value opening changes := by
  unfold Zone.lastChange
  induction changes generalizing opening with
  | nil => rfl
  | cons t later ih =>
      rw [held, List.takeWhile_cons]
      by_cases hstarted : start t ≤ time
      · rw [if_pos hstarted, if_pos (decide_eq_true hstarted), List.getLast?_cons, ← ih]
        cases (later.takeWhile fun t => start t ≤ time).getLast? <;> rfl
      · rw [if_neg hstarted, if_neg (by simpa using hstarted)]
        rfl

def left {α : Type} (value : Transition → α) (opening : α) (changes : List Transition) : α :=
  (changes.getLast?.map value).getD opening

section Held

variable {α : Type} {start : Transition → Int} {time : Int} {value : Transition → α} {opening : α}

theorem held_cons_of_le {t : Transition} (later : List Transition) (h : start t ≤ time) :
    held start time value opening (t :: later) = held start time value (value t) later :=
  if_pos h

theorem held_cons_of_lt {t : Transition} (later : List Transition) (h : time < start t) :
    held start time value opening (t :: later) = opening :=
  if_neg (Int.not_le.mpr h)

theorem held_of_lt {changes : List Transition} (h : ∀ t ∈ changes.head?, time < start t) :
    held start time value opening changes = opening := by
  cases changes with
  | nil => rfl
  | cons t later => exact held_cons_of_lt later (h t rfl)

theorem left_cons (t : Transition) (later : List Transition) :
    left value opening (t :: later) = left value (value t) later := by
  rw [left, left, List.getLast?_cons]
  cases later.getLast? <;> rfl

theorem left_append (earlier later : List Transition) :
    left value opening (earlier ++ later) = left value (left value opening earlier) later := by
  induction earlier generalizing opening with
  | nil => rfl
  | cons t earlier ih => rw [List.cons_append, left_cons, left_cons, ih]

theorem held_append_of_started {earlier : List Transition} (later : List Transition)
    (h : ∀ t ∈ earlier, start t ≤ time) :
    held start time value opening (earlier ++ later) =
      held start time value (left value opening earlier) later := by
  induction earlier generalizing opening with
  | nil => rfl
  | cons t earlier ih =>
      rw [List.cons_append, held_cons_of_le _ (h t (List.mem_cons_self ..)),
        ih fun u hu => h u (List.mem_cons_of_mem t hu), left_cons]

theorem held_append_of_not_started (earlier : List Transition) {later : List Transition}
    (h : ∀ t ∈ later.head?, time < start t) :
    held start time value opening (earlier ++ later) =
      held start time value opening earlier := by
  induction earlier generalizing opening with
  | nil => exact held_of_lt h
  | cons t earlier ih =>
      rw [List.cons_append, held, held, ih]

end Held

/-- A change between offsets of less than a day, by no more than a day. -/
def Mild (t : Transition) : Prop :=
  (-86400 < t.before ∧ t.before < 86400) ∧ (-86400 < t.after ∧ t.after < 86400) ∧
    t.after - t.before ≤ 86400 ∧ t.before - t.after ≤ 86400
  deriving Decidable

/-- A change takes up where another leaves, two days or more behind it. -/
def Follows (t u : Transition) : Prop :=
  u.before = t.after ∧ t.instant + 172800 ≤ u.instant
  deriving Decidable

/-- An offset and the changes that lead on from it. -/
structure Timeline (opening : Int) (changes : List Transition) : Prop where
  opening_gt : -86400 < opening
  opening_lt : opening < 86400
  opens : ∀ t ∈ changes.head?, t.before = opening
  mild : ∀ t ∈ changes, Mild t
  follows : changes.IsChain Follows

instance (opening : Int) (changes : List Transition) : Decidable (Timeline opening changes) :=
  decidable_of_iff
    ((-86400 < opening ∧ opening < 86400) ∧ (∀ t ∈ changes.head?, t.before = opening) ∧
      (∀ t ∈ changes, Mild t) ∧ changes.IsChain Follows)
    ⟨fun ⟨⟨hgt, hlt⟩, hopens, hmild, hfollows⟩ => ⟨hgt, hlt, hopens, hmild, hfollows⟩,
      fun h => ⟨⟨h.opening_gt, h.opening_lt⟩, h.opens, h.mild, h.follows⟩⟩

theorem Timeline.tail {opening : Int} {t : Transition} {later : List Transition}
    (h : Timeline opening (t :: later)) : Timeline t.after later := by
  obtain ⟨-, ⟨hgt, hlt⟩, -⟩ := h.mild t (List.mem_cons_self ..)
  have hchain := List.isChain_cons.mp h.follows
  exact ⟨hgt, hlt, fun u hu => (hchain.1 u hu).1,
    fun u hu => h.mild u (List.mem_cons_of_mem t hu), hchain.2⟩

theorem Timeline.cons {opening : Int} {t : Transition} {later : List Transition}
    (hgt : -86400 < opening) (hlt : opening < 86400) (hbefore : t.before = opening)
    (hmild : Mild t) (hlater : Timeline t.after later)
    (hapart : ∀ u ∈ later.head?, t.instant + 172800 ≤ u.instant) :
    Timeline opening (t :: later) where
  opening_gt := hgt
  opening_lt := hlt
  opens := by
    rintro u ⟨⟩
    exact hbefore
  mild := List.forall_mem_cons.mpr ⟨hmild, hlater.mild⟩
  follows := List.isChain_cons.mpr
    ⟨fun u hu => ⟨hlater.opens u hu, hapart u hu⟩, hlater.follows⟩

theorem Timeline.apart {opening : Int} {t : Transition} {later : List Transition}
    (h : Timeline opening (t :: later)) : ∀ u ∈ later, t.instant + 172800 ≤ u.instant := by
  induction later generalizing opening t with
  | nil => simp
  | cons next later ih =>
      have hnext : t.instant + 172800 ≤ next.instant :=
        ((List.isChain_cons_cons.mp h.follows).1).2
      intro u hu
      rcases List.mem_cons.mp hu with rfl | hu
      · exact hnext
      · have hbehind := ih h.tail u hu
        omega

theorem Timeline.next_ge {opening : Int} {t : Transition} {later : List Transition}
    (h : Timeline opening (t :: later)) :
    ∀ u ∈ later.head?, t.instant + 172800 ≤ u.instant :=
  fun u hu => h.apart u (List.mem_of_mem_head? hu)

theorem Timeline.held_bounds {opening : Int} {changes : List Transition}
    (h : Timeline opening changes) (start : Transition → Int) (time : Int) :
    -86400 < held start time Transition.after opening changes ∧
      held start time Transition.after opening changes < 86400 := by
  induction changes generalizing opening with
  | nil => exact ⟨h.opening_gt, h.opening_lt⟩
  | cons t later ih =>
      rw [held]
      split
      · exact ih h.tail
      · exact ⟨h.opening_gt, h.opening_lt⟩

theorem Timeline.ahead_or_past {opening : Int} {t : Transition} {later : List Transition}
    (h : Timeline opening (t :: later)) (instant : Int) :
    (∀ u ∈ later.head?, instant < u.instant) ∨ t.instant + 172800 ≤ instant := by
  by_cases hnext : ∀ u ∈ later.head?, instant < u.instant
  · exact .inl hnext
  · right
    push Not at hnext
    obtain ⟨u, hu, hle⟩ := hnext
    have hge := h.next_ge u hu
    omega

theorem Timeline.append {opening : Int} {earlier later : List Transition}
    (h : Timeline opening earlier) (hlater : Timeline (left Transition.after opening earlier) later)
    (hapart : ∀ t ∈ earlier, ∀ u ∈ later, t.instant + 172800 ≤ u.instant) :
    Timeline opening (earlier ++ later) := by
  induction earlier generalizing opening with
  | nil => exact hlater
  | cons t earlier ih =>
      rw [left_cons] at hlater
      have hrest := ih h.tail hlater fun u hu => hapart u (List.mem_cons_of_mem t hu)
      refine .cons h.opening_gt h.opening_lt (h.opens t rfl) (h.mild t (List.mem_cons_self ..))
        hrest fun u hu => ?_
      rcases List.mem_append.mp (List.mem_of_mem_head? hu) with hu | hu
      · exact h.apart u hu
      · exact hapart t (List.mem_cons_self ..) u hu

theorem Timeline.split {opening : Int} {earlier later : List Transition}
    (h : Timeline opening (earlier ++ later)) :
    Timeline opening earlier ∧ Timeline (left Transition.after opening earlier) later ∧
      ∀ t ∈ earlier, ∀ u ∈ later, t.instant + 172800 ≤ u.instant := by
  induction earlier generalizing opening with
  | nil =>
      refine ⟨⟨h.opening_gt, h.opening_lt, ?_, ?_, List.isChain_nil⟩, h, ?_⟩ <;> simp
  | cons t earlier ih =>
      obtain ⟨hearlier, hlater, hapart⟩ := ih h.tail
      have hbehind := h.apart
      refine ⟨?_, ?_, ?_⟩
      · exact .cons h.opening_gt h.opening_lt (h.opens t rfl) (h.mild t (List.mem_cons_self ..))
          hearlier fun u hu => hbehind u (List.mem_append_left _ (List.mem_of_mem_head? hu))
      · rwa [left_cons]
      · rintro v hv u hu
        rcases List.mem_cons.mp hv with rfl | hv
        · exact hbehind u (List.mem_append_right _ hu)
        · exact hapart v hv u hu

theorem Timeline.le_last {opening : Int} {changes : List Transition} {last : Transition}
    (h : Timeline opening changes) (hlast : changes.getLast? = some last) :
    ∀ t ∈ changes, t = last ∨ t.instant + 172800 ≤ last.instant := by
  obtain ⟨earlier, rfl⟩ := List.getLast?_eq_some_iff.mp hlast
  intro t ht
  rcases List.mem_append.mp ht with ht | ht
  · exact .inr (h.split.2.2 t ht last (List.mem_singleton_self last))
  · exact .inl (List.mem_singleton.mp ht)

theorem wallStart_false (t : Transition) :
    t.wallStart false = t.instant + max t.before t.after := rfl

theorem wallStart_true (t : Transition) :
    t.wallStart true = t.instant + min t.before t.after := rfl

def repeats (instant : Int) (t : Transition) : Bool :=
  instant - t.instant < t.before - t.after

theorem repeats_of_past {t : Transition} {instant : Int} (hmild : Mild t)
    (hpast : t.instant + 172800 ≤ instant) : repeats instant t = false := by
  obtain ⟨-, -, -, hback⟩ := hmild
  rw [repeats, decide_eq_false_iff_not]
  omega

theorem wallStart_le_of_past {t : Transition} {instant offset : Int} (ht : Mild t) (fold : Bool)
    (hpast : t.instant + 172800 ≤ instant) (hoffset : -86400 < offset) :
    t.wallStart fold ≤ instant + offset := by
  obtain ⟨⟨-, hbefore⟩, ⟨-, hafter⟩, -⟩ := ht
  cases fold
  · rw [wallStart_false]
    omega
  · rw [wallStart_true]
    omega

theorem wallStart_repeats_le {t : Transition} {instant : Int} (hstarted : t.instant ≤ instant) :
    t.wallStart (repeats instant t) ≤ instant + t.after := by
  cases hrepeats : repeats instant t
  · rw [repeats, decide_eq_false_iff_not] at hrepeats
    rw [wallStart_false]
    omega
  · rw [wallStart_true]
    omega

/-- Before a change no wall time is read behind it, on a second pass none that is a day ahead. -/
theorem lt_wallStart {t : Transition} {instant : Int} {fold : Bool} (ht : Mild t)
    (hahead : instant < t.instant) (hfold : fold = true → instant + 86400 < t.instant) :
    instant + t.before < t.wallStart fold := by
  obtain ⟨-, -, -, hback⟩ := ht
  cases fold
  · rw [wallStart_false]
    omega
  · have hfar := hfold rfl
    rw [wallStart_true]
    omega

theorem Timeline.held_wall {opening : Int} {changes : List Transition}
    (h : Timeline opening changes) (instant : Int) (fold : Bool)
    (hfold : fold = true → ∀ t ∈ changes.head?, instant + 86400 < t.instant) :
    held (Transition.wallStart
        (held Transition.instant instant (repeats instant) fold changes))
      (instant + held Transition.instant instant Transition.after opening changes)
      Transition.after opening changes =
    held Transition.instant instant Transition.after opening changes := by
  induction changes generalizing opening fold with
  | nil => rfl
  | cons t later ih =>
      have hmild := h.mild t (List.mem_cons_self ..)
      by_cases hstarted : t.instant ≤ instant
      · have hrepeats : repeats instant t = true →
            ∀ u ∈ later.head?, instant + 86400 < u.instant := by
          intro hrepeats u hu
          have hnext := h.next_ge u hu
          obtain ⟨-, -, -, hback⟩ := hmild
          rw [repeats, decide_eq_true_eq] at hrepeats
          omega
        -- the fold that is read is that of the last change, so it is carried along the induction
        have hread := ih h.tail (repeats instant t) hrepeats
        rw [held_cons_of_le later hstarted, held_cons_of_le later hstarted,
          held_cons_of_le later, hread]
        rcases h.ahead_or_past instant with hahead | hpast
        · rw [held_of_lt hahead, held_of_lt hahead]
          exact wallStart_repeats_le hstarted
        · exact wallStart_le_of_past hmild _ hpast (h.tail.held_bounds _ _).1
      · have hahead := Int.not_le.mp hstarted
        rw [held_cons_of_lt later hahead, held_cons_of_lt later hahead, held_cons_of_lt later]
        rw [← h.opens t rfl]
        exact lt_wallStart hmild hahead fun hpass => hfold hpass t rfl

theorem lt_wallStart_of_mild {t : Transition} (ht : Mild t) (fold : Bool) :
    t.instant - 86400 < t.wallStart fold := by
  obtain ⟨⟨hbefore, -⟩, ⟨hafter, -⟩, -⟩ := ht
  cases fold
  · rw [wallStart_false]
    omega
  · rw [wallStart_true]
    omega

theorem Timeline.wall_ge_of_started {opening : Int} {t : Transition} {later : List Transition}
    (h : Timeline opening (t :: later)) {instant : Int} (hstarted : t.instant ≤ instant) :
    t.instant + t.after ≤
      instant + held Transition.instant instant Transition.after t.after later := by
  obtain ⟨-, ⟨-, hafter⟩, -⟩ := h.mild t (List.mem_cons_self ..)
  rcases h.ahead_or_past instant with hcurrent | hpast
  · rw [held_of_lt hcurrent]
    omega
  · have hbounds := h.tail.held_bounds Transition.instant instant
    omega

theorem Timeline.instant_le_of_wall {opening : Int} {t : Transition} {later : List Transition}
    (h : Timeline opening (t :: later)) (wall : Int) (fold : Bool)
    (hwall : t.instant + t.after ≤ wall) :
    t.instant ≤ wall - held (Transition.wallStart fold) wall Transition.after t.after later := by
  by_cases hnext : ∀ u ∈ later.head?, wall < u.wallStart fold
  · rw [held_of_lt hnext]
    omega
  · push Not at hnext
    obtain ⟨u, hu, hread⟩ := hnext
    have hge := h.next_ge u hu
    have hbounds := h.tail.held_bounds (Transition.wallStart fold) wall
    have hnear := lt_wallStart_of_mild (h.tail.mild u (List.mem_of_mem_head? hu)) fold
    omega

theorem Timeline.held_firstPass {opening : Int} {changes : List Transition}
    (h : Timeline opening changes) (wall : Int) :
    held (Transition.wallStart false) wall Transition.after opening changes ≤
      held Transition.instant
        (wall - held (Transition.wallStart false) wall Transition.after opening changes)
        Transition.after opening changes := by
  induction changes generalizing opening with
  | nil => exact Int.le_refl _
  | cons t later ih =>
      obtain ⟨-, -, hforth, -⟩ := h.mild t (List.mem_cons_self ..)
      have hopens := h.opens t rfl
      have hstart := wallStart_false t
      by_cases hstarted : t.wallStart false ≤ wall
      -- a wall time read behind the change has an instant behind it
      · rw [held_cons_of_le later hstarted]
        have hpast := h.instant_le_of_wall wall false (by omega)
        rw [held_cons_of_le later hpast]
        exact ih h.tail
      · have hahead := Int.not_le.mp hstarted
        rw [held_cons_of_lt later hahead]
        -- read in front of the change, its instant may still lie behind it: then it is skipped
        by_cases hpast : t.instant ≤ wall - opening
        · have hcurrent : ∀ u ∈ later.head?, wall - opening < u.instant := by
            intro u hu
            have hge := h.next_ge u hu
            omega
          rw [held_cons_of_le later hpast, held_of_lt hcurrent]
          omega
        · exact Int.le_of_eq (held_cons_of_lt later (Int.not_le.mp hpast)).symm

theorem Timeline.wall_lt {opening : Int} {changes : List Transition}
    (h : Timeline opening changes) {earlier instant : Int} (hle : earlier ≤ instant) :
    earlier + held Transition.instant earlier Transition.after opening changes <
      instant + held Transition.instant instant Transition.after opening changes + 86400 := by
  induction changes generalizing opening with
  | nil => rw [held, held]; omega
  | cons t later ih =>
      obtain ⟨-, -, -, hback⟩ := h.mild t (List.mem_cons_self ..)
      have hopens := h.opens t rfl
      by_cases hearlier : t.instant ≤ earlier
      · rw [held_cons_of_le later hearlier, held_cons_of_le later (Int.le_trans hearlier hle)]
        exact ih h.tail
      · have hahead := Int.not_le.mp hearlier
        rw [held_cons_of_lt later hahead]
        -- the change between the two sets the clock back by a day at most, and a second one
        -- comes two days later
        by_cases hstarted : t.instant ≤ instant
        · rw [held_cons_of_le later hstarted]
          have hbounds := h.tail.held_bounds Transition.instant instant
          rcases h.ahead_or_past instant with hcurrent | hpast
          · rw [held_of_lt hcurrent]
            omega
          · have hafter := h.tail.opening_lt
            omega
        · rw [held_cons_of_lt later (Int.not_le.mp hstarted)]
          omega

theorem Timeline.held_shown {opening : Int} {changes : List Transition}
    (h : Timeline opening changes) {instant wall : Int} (fold : Bool)
    (hshown : instant + held Transition.instant instant Transition.after opening changes = wall) :
    held Transition.instant
        (wall - held (Transition.wallStart fold) wall Transition.after opening changes)
        Transition.after opening changes =
      held (Transition.wallStart fold) wall Transition.after opening changes := by
  induction changes generalizing opening instant with
  | nil => rfl
  | cons t later ih =>
      obtain ⟨-, -, -, hback⟩ := h.mild t (List.mem_cons_self ..)
      have hopens := h.opens t rfl
      by_cases hread : t.wallStart fold ≤ wall
      -- read behind the change, the wall time is shown behind it too, be it for a second time
      · obtain ⟨instant', hstarted, hshown'⟩ : ∃ instant', t.instant ≤ instant' ∧
            instant' + held Transition.instant instant' Transition.after t.after later = wall := by
          by_cases hstarted : t.instant ≤ instant
          · exact ⟨instant, hstarted, by rwa [held_cons_of_le later hstarted] at hshown⟩
          · rw [held_cons_of_lt later (Int.not_le.mp hstarted)] at hshown
            cases fold
            · rw [wallStart_false] at hread
              omega
            · rw [wallStart_true] at hread
              refine ⟨wall - t.after, by omega, ?_⟩
              rw [held_of_lt, Int.sub_add_cancel]
              intro u hu
              have hge := h.next_ge u hu
              omega
        rw [held_cons_of_le later hread]
        have hwall := hshown' ▸ h.wall_ge_of_started hstarted
        rw [held_cons_of_le later (h.instant_le_of_wall wall fold hwall)]
        exact ih h.tail hshown'
      · have hahead := Int.not_le.mp hread
        rw [held_cons_of_lt later hahead]
        refine held_cons_of_lt later ?_
        by_contra hskipped
        have hwall : t.instant + t.before ≤ wall ∧ t.instant + t.after ≤ wall := by
          by_cases hstarted : t.instant ≤ instant
          · rw [held_cons_of_le later hstarted] at hshown
            have hge := h.wall_ge_of_started hstarted
            omega
          · rw [held_cons_of_lt later (Int.not_le.mp hstarted)] at hshown
            omega
        cases fold
        · rw [wallStart_false] at hahead
          omega
        · rw [wallStart_true] at hahead
          omega

theorem Timeline.wall_lt_firstPass {opening : Int} {changes : List Transition}
    (h : Timeline opening changes) (wall : Int) {earlier : Int}
    (hearlier : earlier <
      wall - held (Transition.wallStart false) wall Transition.after opening changes) :
    earlier + held Transition.instant earlier Transition.after opening changes <
      wall - held (Transition.wallStart false) wall Transition.after opening changes +
        held Transition.instant
          (wall - held (Transition.wallStart false) wall Transition.after opening changes)
          Transition.after opening changes := by
  induction changes generalizing opening with
  | nil =>
      simp only [held] at hearlier ⊢
      omega
  | cons t later ih =>
      obtain ⟨-, -, hforth, -⟩ := h.mild t (List.mem_cons_self ..)
      have hopens := h.opens t rfl
      have hstart := wallStart_false t
      by_cases hread : t.wallStart false ≤ wall
      · rw [held_cons_of_le later hread] at hearlier ⊢
        have hpast := h.instant_le_of_wall wall false (by omega)
        rw [held_cons_of_le later hpast]
        by_cases hstarted : t.instant ≤ earlier
        · rw [held_cons_of_le later hstarted]
          exact ih h.tail hearlier
        · have hreached := h.tail.held_firstPass wall
          rw [held_cons_of_lt later (Int.not_le.mp hstarted)]
          omega
      · have hahead := Int.not_le.mp hread
        rw [held_cons_of_lt later hahead] at hearlier ⊢
        -- a wall time that the change skips is read less than a day behind the change
        have hcurrent : ∀ time ≤ wall - opening, ∀ u ∈ later.head?, time < u.instant := by
          intro time htime u hu
          have hge := h.next_ge u hu
          omega
        by_cases hpast : t.instant ≤ wall - opening
        · rw [held_cons_of_le later hpast, held_of_lt (hcurrent _ (Int.le_refl _))]
          by_cases hstarted : t.instant ≤ earlier
          · rw [held_cons_of_le later hstarted, held_of_lt (hcurrent _ (Int.le_of_lt hearlier))]
            omega
          · rw [held_cons_of_lt later (Int.not_le.mp hstarted)]
            omega
        · have hbefore := Int.not_le.mp hpast
          rw [held_cons_of_lt later hbefore, held_cons_of_lt later (Int.lt_trans hearlier hbefore)]
          omega

theorem Timeline.exists_earlier_of_repeats {opening : Int} {changes : List Transition}
    (h : Timeline opening changes) {instant wall : Int}
    (hrepeats : held Transition.instant instant (repeats instant) false changes = true)
    (hle : wall ≤ instant + held Transition.instant instant Transition.after opening changes)
    (hday : instant + held Transition.instant instant Transition.after opening changes ≤
      wall + 86400) :
    ∃ earlier, instant - 172800 ≤ earlier ∧ earlier < instant ∧
      earlier + held Transition.instant earlier Transition.after opening changes = wall := by
  induction changes generalizing opening with
  | nil => cases hrepeats
  | cons t later ih =>
      have hopens := h.opens t rfl
      have hmild := h.mild t (List.mem_cons_self ..)
      by_cases hstarted : t.instant ≤ instant
      · rw [held_cons_of_le later hstarted] at hrepeats hle hday
        rcases h.ahead_or_past instant with hcurrent | hpast
        · rw [held_of_lt hcurrent] at hrepeats hle hday
          rw [repeats, decide_eq_true_eq] at hrepeats
          obtain ⟨-, -, -, hback⟩ := hmild
          refine ⟨wall - t.before, by omega, by omega, ?_⟩
          rw [held_cons_of_lt later (by omega)]
          omega
        -- no change is less than two days behind another, so what is found lies behind this one
        · rw [repeats_of_past hmild hpast] at hrepeats
          obtain ⟨earlier, hfrom, hto, hshown⟩ := ih h.tail hrepeats hle hday
          exact ⟨earlier, hfrom, hto, by rw [held_cons_of_le later (by omega), hshown]⟩
      · rw [held_cons_of_lt later (Int.not_le.mp hstarted)] at hrepeats
        cases hrepeats

end AnomalyWindows.Proofs.ZoneTimeline
