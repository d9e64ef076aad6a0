import AnomalyWindows.Proofs.CalendarYear
import AnomalyWindows.Proofs.ZoneTimeline

namespace AnomalyWindows.Proofs.YearlyChanges

open Calendar
open AnomalyWindows.Proofs.CalendarYear AnomalyWindows.Proofs.ZoneTimeline

/-- A change between March and November, on a day and at a time of day that there are. -/
def InSeason (r : YearlyRule) : Prop :=
  (3 ≤ r.month ∧ r.month ≤ 11) ∧ (1 ≤ r.week ∧ r.week ≤ 5) ∧ 0 ≤ r.seconds ∧ r.seconds ≤ 86400
  deriving Decidable

theorem daysInMonth_bounds (year month : Int) :
    28 ≤ daysInMonth year month ∧ daysInMonth year month ≤ 31 := by
  unfold daysInMonth
  split
  · split <;> decide
  · split <;> decide

theorem wall_bounds {r : YearlyRule} (hseason : InSeason r) (year : Int) :
    Date.toDays ⟨year, r.month, 1⟩ * 86400 ≤ r.wall year ∧
      r.wall year ≤ (Date.toDays ⟨year, r.month, 1⟩ + 31) * 86400 := by
  obtain ⟨-, hweek, hseconds⟩ := hseason
  obtain ⟨hshortest, hlongest⟩ := daysInMonth_bounds year r.month
  simp only [YearlyRule.wall]
  generalize daysInMonth year r.month = days at *
  generalize Date.toDays ⟨year, r.month, 1⟩ = first
  have hpos := Int.emod_nonneg (r.weekday - weekday first) (by decide : (7 : Int) ≠ 0)
  have hlt := Int.emod_lt_of_pos (r.weekday - weekday first) (by decide : (0 : Int) < 7)
  generalize (r.weekday - weekday first) % 7 = ahead at *
  split <;> omega

/-- The change that a yearly rule makes in a year. -/
def turn (r : YearlyRule) (before after year : Int) : Transition :=
  ⟨r.wall year - before, before, after⟩

theorem turn_bounds {r : YearlyRule} (hseason : InSeason r) {before : Int}
    (hgt : -86400 < before) (hlt : before < 86400) (after year : Int) :
    (marchFirst year + (153 * (r.month - 3) + 2) / 5 - 1) * 86400 ≤
        (turn r before after year).instant ∧
      (turn r before after year).instant ≤
        (marchFirst year + (153 * (r.month - 3) + 2) / 5 + 32) * 86400 := by
  obtain ⟨hfirst, hlast⟩ := wall_bounds hseason year
  rw [toDays_firstOfMonth year r.month hseason.1.1] at hfirst hlast
  simp only [turn]
  omega

theorem turn_apart {r r' : YearlyRule} (hseason : InSeason r) (hseason' : InSeason r')
    (hmonths : r.month + 2 ≤ r'.month) {before after : Int}
    (hmild : Mild ⟨0, before, after⟩) (year : Int) :
    Follows (turn r before after year) (turn r' after before year) := by
  obtain ⟨⟨hgt, hlt⟩, ⟨hgt', hlt'⟩, -⟩ := hmild
  obtain ⟨-, hlast⟩ := turn_bounds hseason hgt hlt after year
  obtain ⟨hfirst, -⟩ := turn_bounds hseason' hgt' hlt' before year
  refine ⟨rfl, ?_⟩
  dsimp only at hlast hfirst
  omega

theorem turn_inYear {r : YearlyRule} (hseason : InSeason r) {before after : Int}
    (hgt : -86400 < before) (hlt : before < 86400) (year : Int) :
    newYear year * 86400 + 172800 ≤ (turn r before after year).instant ∧
      (turn r before after year).instant + 172800 ≤ newYear (year + 1) * 86400 := by
  obtain ⟨hfirst, hlast⟩ := turn_bounds hseason hgt hlt after year
  obtain ⟨⟨hmarch, hnovember⟩, -⟩ := hseason
  have hlength := marchFirst_succ (year - 1)
  rw [Int.sub_add_cancel] at hlength
  rw [newYear_eq, newYear_succ]
  omega

/-- Two changes in different seasons between offsets of less than a day. -/
def Seasonal (d : Daylight) : Prop :=
  InSeason d.starts ∧ InSeason d.ends ∧
    (d.starts.month + 2 ≤ d.ends.month ∨ d.ends.month + 2 ≤ d.starts.month) ∧
    Mild ⟨0, d.standard, d.daylight⟩
  deriving Decidable

def winter (d : Daylight) : Int :=
  if d.starts.month < d.ends.month then d.standard else d.daylight

theorem exists_turns {d : Daylight} (hseasonal : Seasonal d) :
    ∃ r r' summer, InSeason r ∧ InSeason r' ∧ r.month + 2 ≤ r'.month ∧
      Mild ⟨0, winter d, summer⟩ ∧
      ∀ year, d.changes year = [turn r (winter d) summer year, turn r' summer (winter d) year] := by
  obtain ⟨hstarts, hends, hmonths, hmild⟩ := hseasonal
  have hswapped : Mild ⟨0, d.daylight, d.standard⟩ :=
    ⟨hmild.2.1, hmild.1, hmild.2.2.2, hmild.2.2.1⟩
  rcases hmonths with hnorth | hsouth
  · refine ⟨d.starts, d.ends, d.daylight, hstarts, hends, hnorth, ?_⟩
    rw [winter, if_pos (by omega)]
    refine ⟨hmild, fun year => ?_⟩
    have hapart := (turn_apart hstarts hends hnorth hmild year).2
    simp only [turn] at hapart
    exact if_pos (by dsimp only; omega)
  · refine ⟨d.ends, d.starts, d.standard, hends, hstarts, hsouth, ?_⟩
    rw [winter, if_neg (by omega)]
    refine ⟨hswapped, fun year => ?_⟩
    have hapart := (turn_apart hends hstarts hsouth hswapped year).2
    simp only [turn] at hapart
    exact if_neg (by dsimp only; omega)

theorem changes_inYear {d : Daylight} (hseasonal : Seasonal d) (year : Int) :
    ∀ t ∈ d.changes year, newYear year * 86400 + 172800 ≤ t.instant ∧
      t.instant + 172800 ≤ newYear (year + 1) * 86400 := by
  obtain ⟨r, r', summer, hr, hr', -, ⟨⟨hgt, hlt⟩, ⟨hgt', hlt'⟩, -⟩, hchanges⟩ :=
    exists_turns hseasonal
  rw [hchanges]
  rintro t ht
  rcases List.mem_pair.mp ht with rfl | rfl
  · exact turn_inYear hr hgt hlt year
  · exact turn_inYear hr' hgt' hlt' year

theorem timeline_changes {d : Daylight} (hseasonal : Seasonal d) (year : Int) :
    Timeline (winter d) (d.changes year) := by
  obtain ⟨r, r', summer, hr, hr', hmonths, hmild, hchanges⟩ := exists_turns hseasonal
  rw [hchanges]
  refine ⟨hmild.1.1, hmild.1.2, ?_, ?_, ?_⟩
  · rintro t ⟨⟩
    rfl
  · rintro t ht
    rcases List.mem_pair.mp ht with rfl | rfl
    · exact hmild
    · exact ⟨hmild.2.1, hmild.1, hmild.2.2.2, hmild.2.2.1⟩
  · exact List.isChain_pair.mpr (turn_apart hr hr' hmonths hmild year)

theorem left_changes {d : Daylight} (hseasonal : Seasonal d) (year opening : Int) :
    left Transition.after opening (d.changes year) = winter d := by
  obtain ⟨r, r', summer, -, -, -, -, hchanges⟩ := exists_turns hseasonal
  rw [hchanges]
  rfl

def years (d : Daylight) (year : Int) : Nat → List Transition
  | 0 => []
  | count + 1 => d.changes year ++ years d (year + 1) count

theorem years_add (d : Daylight) (year : Int) (count more : Nat) :
    years d year (count + more) = years d year count ++ years d (year + count) more := by
  induction count generalizing year with
  | zero => simp [years]
  | succ count ih =>
      rw [Nat.add_right_comm, years, ih, years, List.append_assoc]
      congr 3
      push_cast
      omega

theorem newYear_mono {year year' : Int} (hle : year ≤ year') : newYear year ≤ newYear year' := by
  obtain ⟨count, rfl⟩ := Int.le.dest hle
  clear hle
  induction count with
  | zero => simp
  | succ count ih =>
      have hlength := marchFirst_succ (year + count - 1)
      rw [Int.sub_add_cancel] at hlength
      have hnext := newYear_succ (year + count)
      rw [newYear_eq (year + count)] at ih
      push_cast
      rw [← Int.add_assoc, hnext]
      omega

theorem years_within {d : Daylight} (hseasonal : Seasonal d) (year : Int) (count : Nat) :
    ∀ t ∈ years d year count, newYear year * 86400 + 172800 ≤ t.instant ∧
      t.instant + 172800 ≤ newYear (year + count) * 86400 := by
  induction count generalizing year with
  | zero => simp [years]
  | succ count ih =>
      rintro t ht
      have hfirst := newYear_mono (show year ≤ year + 1 by omega)
      have hlast := newYear_mono (show year + 1 ≤ year + ↑(count + 1) by omega)
      rcases List.mem_append.mp ht with ht | ht
      · have hwithin := changes_inYear hseasonal year t ht
        omega
      · have hwithin := ih (year + 1) t ht
        rw [show year + 1 + (count : Int) = year + ↑(count + 1) by omega] at hwithin
        omega

theorem timeline_years {d : Daylight} (hseasonal : Seasonal d) (year : Int) (count : Nat) :
    Timeline (winter d) (years d year count) := by
  induction count generalizing year with
  | zero =>
      have hopen := timeline_changes hseasonal year
      refine ⟨hopen.opening_gt, hopen.opening_lt, ?_, ?_, List.isChain_nil⟩ <;> simp [years]
  | succ count ih =>
      refine (timeline_changes hseasonal year).append ?_ fun t ht u hu => ?_
      · rw [left_changes hseasonal]
        exact ih (year + 1)
      · have hearlier := changes_inYear hseasonal year t ht
        have hlater := years_within hseasonal (year + 1) count u hu
        omega

end AnomalyWindows.Proofs.YearlyChanges
