import AnomalyWindows.Calendar.Zone
import Mathlib.Tactic.NormNum

namespace AnomalyWindows.Proofs.CalendarYear

open Calendar

def marchFirst (year : Int) : Int :=
  Date.toDays ⟨year, 3, 1⟩

def newYear (year : Int) : Int :=
  Date.toDays ⟨year, 1, 1⟩

theorem marchFirst_eq (year : Int) :
    marchFirst year = year / 400 * 146097 + (year - year / 400 * 400) * 365 +
      (year - year / 400 * 400) / 4 - (year - year / 400 * 400) / 100 - 719468 := by
  simp only [marchFirst, Date.toDays]
  norm_num

theorem marchFirst_succ (year : Int) :
    marchFirst year + 365 ≤ marchFirst (year + 1) ∧
      marchFirst (year + 1) ≤ marchFirst year + 366 := by
  rw [marchFirst_eq, marchFirst_eq]
  omega

theorem toDays_firstOfMonth (year month : Int) (hmarch : 3 ≤ month) :
    Date.toDays ⟨year, month, 1⟩ = marchFirst year + (153 * (month - 3) + 2) / 5 := by
  have hlater : ¬ month ≤ 2 := by omega
  rw [marchFirst_eq]
  simp only [Date.toDays, if_neg hlater]
  omega

theorem newYear_eq (year : Int) : newYear year = marchFirst (year - 1) + 306 := by
  rw [marchFirst_eq]
  simp only [newYear, Date.toDays]
  norm_num
  omega

theorem newYear_succ (year : Int) : newYear (year + 1) = marchFirst year + 306 := by
  rw [newYear_eq, Int.add_sub_cancel]

theorem marchFirst_ofEra (year era : Int) (hfirst : 0 ≤ year) (hlast : year < 400) :
    marchFirst (year + era * 400) =
      era * 146097 + (365 * year + year / 4 - year / 100) - 719468 := by
  have hera : (year + era * 400) / 400 = era := by omega
  have hyear : year + era * 400 - era * 400 = year := by omega
  rw [marchFirst_eq, hera, hyear]
  omega

def yearOfEra (day : Int) : Int :=
  (day - day / 1460 + day / 36524 - day / 146096) / 365

theorem yearOfEra_bounds (day : Int) (hfirst : 0 ≤ day) (hlast : day < 146097) :
    0 ≤ yearOfEra day ∧ yearOfEra day < 400 ∧
      365 * yearOfEra day + yearOfEra day / 4 - yearOfEra day / 100 ≤ day ∧
      day ≤ 365 * yearOfEra day + yearOfEra day / 4 - yearOfEra day / 100 + 365 := by
  obtain ⟨year, hyear⟩ : ∃ year, year = yearOfEra day := ⟨_, rfl⟩
  rw [← hyear]
  rw [yearOfEra] at hyear
  have hpos : 0 ≤ year := by omega
  have hlt : year < 400 := by omega
  have hfour : day / 1460 - 1 ≤ year / 4 ∧ year / 4 ≤ day / 1460 := by omega
  have hcentury : day / 36524 = 0 ∨ day / 36524 = 1 ∨ day / 36524 = 2 ∨ day / 36524 = 3 ∨
      day / 36524 = 4 := by omega
  refine ⟨hpos, hlt, ?_⟩
  rcases hcentury with h | h | h | h | h <;> rw [h] at hyear <;> omega

theorem year_ofDays (days : Int) :
    ∃ march, marchFirst march ≤ days ∧ days ≤ marchFirst march + 365 ∧
      (Date.ofDays days).year =
        if days < marchFirst march + 306 then march else march + 1 := by
  have hera := Int.emod_nonneg (days + 719468) (by decide : (146097 : Int) ≠ 0)
  have hlast := Int.emod_lt_of_pos (days + 719468) (by decide : (0 : Int) < 146097)
  obtain ⟨hpos, hlt, hle, hge⟩ := yearOfEra_bounds _ hera hlast
  refine ⟨yearOfEra ((days + 719468) % 146097) + (days + 719468) / 146097 * 400, ?_⟩
  rw [marchFirst_ofEra _ _ hpos hlt]
  have hfold (day : Int) :
      (day - day / 1460 + day / 36524 - day / 146096) / 365 = yearOfEra day := rfl
  simp only [Date.ofDays, hfold]
  generalize yearOfEra ((days + 719468) % 146097) = year at hpos hlt hle hge ⊢
  refine ⟨by omega, by omega, ?_⟩
  split <;> split <;> split <;> omega

theorem newYear_le_and_lt (days : Int) :
    newYear (Date.ofDays days).year ≤ days ∧ days < newYear ((Date.ofDays days).year + 1) := by
  obtain ⟨march, hfirst, hlast, hyear⟩ := year_ofDays days
  rw [hyear, newYear_succ, newYear_eq]
  split
  · have hprevious := marchFirst_succ (march - 1)
    rw [Int.sub_add_cancel] at hprevious
    omega
  · have hnext := marchFirst_succ march
    rw [Int.add_sub_cancel]
    omega

end AnomalyWindows.Proofs.CalendarYear
