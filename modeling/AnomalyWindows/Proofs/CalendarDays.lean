import AnomalyWindows.Proofs.YearlyChanges

namespace AnomalyWindows.Proofs.CalendarDays

open Calendar
open AnomalyWindows.Proofs.CalendarYear AnomalyWindows.Proofs.YearlyChanges

def yearStart (year : Int) : Int :=
  365 * year + year / 4 - year / 100 + year / 400

theorem lt_yearStart_succ (day : Int) (hfirst : 0 ≤ day) (hlast : day < 146097) :
    day < yearStart (yearOfEra day + 1) := by
  obtain ⟨hpos, hlt, -, -⟩ := yearOfEra_bounds day hfirst hlast
  obtain ⟨year, hyear⟩ : ∃ year, year = yearOfEra day := ⟨_, rfl⟩
  rw [← hyear] at hpos hlt ⊢
  rw [yearStart]
  rw [yearOfEra] at hyear
  -- The last year of a century is told apart, since its end has no leap day.
  by_cases hend : (year + 1) % 100 = 0
  · have hcases : year = 99 ∨ year = 199 ∨ year = 299 ∨ year = 399 := by omega
    rcases hcases with rfl | rfl | rfl | rfl <;> omega
  · have hne : year ≠ 399 := fun h => hend (by rw [h]; rfl)
    have hfour : day / 1460 ≤ (year + 1) / 4 := by omega
    have hcases : day / 36524 = 0 ∨ day / 36524 = 1 ∨ day / 36524 = 2 ∨ day / 36524 = 3 ∨
        day = 146096 := by omega
    have hera : (year + 1) / 400 = 0 := by omega
    rcases hcases with h | h | h | h | rfl
    · have hcentury : (year + 1) / 100 = 0 := by omega
      have hlong : day / 146096 = 0 := by omega
      omega
    · have hcentury : (year + 1) / 100 = 1 := by omega
      have hlong : day / 146096 = 0 := by omega
      omega
    · have hcentury : (year + 1) / 100 = 2 := by omega
      have hlong : day / 146096 = 0 := by omega
      omega
    · have hcentury : (year + 1) / 100 = 3 := by omega
      have hlong : day / 146096 = 0 := by omega
      omega
    · omega

/-- The date of a day that lies so many days behind the first of March of a year. -/
def dateBehindMarch (year days : Int) : Date :=
  let monthFromMarch := (5 * days + 2) / 153
  let month := if monthFromMarch < 10 then monthFromMarch + 3 else monthFromMarch - 9
  ⟨if month ≤ 2 then year + 1 else year, month, days - (153 * monthFromMarch + 2) / 5 + 1⟩

theorem exists_dateBehindMarch (day : Int) :
    ∃ year days, 0 ≤ days ∧ day = marchFirst year + days ∧ day < marchFirst (year + 1) ∧
      Date.ofDays day = dateBehindMarch year days := by
  have hfirst := Int.emod_nonneg (day + 719468) (by decide : (146097 : Int) ≠ 0)
  have hlast := Int.emod_lt_of_pos (day + 719468) (by decide : (0 : Int) < 146097)
  obtain ⟨hpos, hlt, hle, -⟩ := yearOfEra_bounds _ hfirst hlast
  have hnext := lt_yearStart_succ _ hfirst hlast
  have hfold (day : Int) :
      (day - day / 1460 + day / 36524 - day / 146096) / 365 = yearOfEra day := rfl
  simp only [Date.ofDays, hfold]
  have hday := Int.emod_add_mul_ediv (day + 719468) 146097
  generalize yearOfEra ((day + 719468) % 146097) = year at hpos hlt hle hnext ⊢
  generalize (day + 719468) % 146097 = rest at hle hnext hday ⊢
  generalize (day + 719468) / 146097 = era at hday ⊢
  refine ⟨year + era * 400, rest - (365 * year + year / 4 - year / 100), by omega, ?_, ?_, rfl⟩
  · rw [marchFirst_ofEra _ _ hpos hlt]
    omega
  · rw [yearStart] at hnext
    rw [marchFirst_eq]
    omega

theorem marchFirst_eq_sum (year : Int) :
    marchFirst year = 365 * year + year / 4 - year / 100 + year / 400 - 719468 := by
  rw [marchFirst_eq]
  omega

theorem marchFirst_succ_eq (year : Int) :
    marchFirst (year + 1) = marchFirst year + if isLeap (year + 1) then 366 else 365 := by
  have hleap : isLeap (year + 1) = true ↔
      (year + 1) % 4 = 0 ∧ ((year + 1) % 100 ≠ 0 ∨ (year + 1) % 400 = 0) := by
    simp [isLeap]
  rw [marchFirst_eq_sum, marchFirst_eq_sum]
  split
  · rename_i h
    rw [hleap] at h
    omega
  · rename_i h
    rw [hleap] at h
    omega

theorem dateBehindMarch_of_lt {days month : Int} (year : Int) (hfirst : 0 ≤ days)
    (hmonth : (5 * days + 2) / 153 = month) (hlt : month < 10) :
    dateBehindMarch year days = ⟨year, month + 3, days - (153 * month + 2) / 5 + 1⟩ := by
  have hlate : ¬ month + 3 ≤ 2 := by omega
  simp only [dateBehindMarch, hmonth, if_pos hlt, if_neg hlate]

theorem dateBehindMarch_of_le {days month : Int} (year : Int) (hlast : days ≤ 365)
    (hmonth : (5 * days + 2) / 153 = month) (hle : 10 ≤ month) :
    dateBehindMarch year days = ⟨year + 1, month - 9, days - (153 * month + 2) / 5 + 1⟩ := by
  have hlate : ¬ month < 10 := by omega
  have hearly : month - 9 ≤ 2 := by omega
  simp only [dateBehindMarch, hmonth, if_neg hlate, if_pos hearly]

theorem toDays_eq (year month day : Int) :
    Date.toDays ⟨year, month, day⟩ =
      marchFirst (if month ≤ 2 then year - 1 else year) +
        (153 * (if month ≤ 2 then month + 9 else month - 3) + 2) / 5 + day - 1 := by
  rw [marchFirst_eq]
  simp only [Date.toDays]
  omega

theorem toDays_dateBehindMarch {days : Int} (year : Int) (hfirst : 0 ≤ days) (hlast : days ≤ 365) :
    (dateBehindMarch year days).toDays = marchFirst year + days := by
  obtain ⟨month, hmonth⟩ : ∃ month, (5 * days + 2) / 153 = month := ⟨_, rfl⟩
  rcases lt_or_ge month 10 with hlt | hle
  · have hlate : ¬ month + 3 ≤ 2 := by omega
    rw [dateBehindMarch_of_lt year hfirst hmonth hlt, toDays_eq, if_neg hlate, if_neg hlate]
    omega
  · have hearly : month - 9 ≤ 2 := by omega
    rw [dateBehindMarch_of_le year hlast hmonth hle, toDays_eq, if_pos hearly, if_pos hearly,
      Int.add_sub_cancel]
    omega

theorem toDays_ofDays (day : Int) : (Date.ofDays day).toDays = day := by
  obtain ⟨year, days, hfirst, hday, hnext, hdate⟩ := exists_dateBehindMarch day
  have hlength := (marchFirst_succ year).2
  rw [hdate, toDays_dateBehindMarch year hfirst (by omega), hday]

theorem dateBehindMarch_exists {year days : Int} (hfirst : 0 ≤ days)
    (hlast : marchFirst year + days < marchFirst (year + 1)) :
    let date := dateBehindMarch year days
    (1 ≤ date.month ∧ date.month ≤ 12) ∧ 1 ≤ date.day ∧
      date.day ≤ daysInMonth date.year date.month := by
  rw [marchFirst_succ_eq] at hlast
  have hlength : days ≤ 365 := by
    split at hlast <;> omega
  obtain ⟨month, hmonth⟩ : ∃ month, (5 * days + 2) / 153 = month := ⟨_, rfl⟩
  rcases lt_or_ge month 10 with hlt | hle
  · simp only [dateBehindMarch_of_lt year hfirst hmonth hlt, daysInMonth]
    refine ⟨by omega, by omega, ?_⟩
    rw [if_neg (by omega)]
    split <;> omega
  · simp only [dateBehindMarch_of_le year hlength hmonth hle, daysInMonth]
    refine ⟨by omega, by omega, ?_⟩
    -- February ends with the year, so its length tells whether there is a leap day.
    split
    · split
      · rename_i hleap
        rw [if_pos hleap] at hlast
        omega
      · rename_i hleap
        rw [if_neg hleap] at hlast
        omega
    · rw [if_neg (by omega)]
      omega

theorem isValid_ofDays {day : Int} (hfirst : newYear 1 ≤ day) (hlast : day < newYear 10000) :
    (Date.ofDays day).isValid = true := by
  obtain ⟨hstart, hend⟩ := newYear_le_and_lt day
  have hyear : 1 ≤ (Date.ofDays day).year := by
    by_contra hlt
    have hmono := newYear_mono (show (Date.ofDays day).year + 1 ≤ 1 by omega)
    omega
  have hyear' : (Date.ofDays day).year ≤ 9999 := by
    by_contra hlt
    have hmono := newYear_mono (show 10000 ≤ (Date.ofDays day).year by omega)
    omega
  obtain ⟨year, days, hpos, hday, hnext, hdate⟩ := exists_dateBehindMarch day
  obtain ⟨hmonth, hfirstDay, hlastDay⟩ := dateBehindMarch_exists hpos (hday ▸ hnext)
  rw [← hdate] at hmonth hfirstDay hlastDay
  simp [Date.isValid, hyear, hyear', hmonth, hfirstDay, hlastDay]

theorem toDays_bounds {year month day : Int} (hmonth : 1 ≤ month ∧ month ≤ 12) (hfirst : 1 ≤ day)
    (hlast : day ≤ daysInMonth year month) :
    newYear year ≤ Date.toDays ⟨year, month, day⟩ ∧
      Date.toDays ⟨year, month, day⟩ < newYear (year + 1) := by
  have hlongest := (daysInMonth_bounds year month).2
  have hlength := marchFirst_succ (year - 1)
  rw [Int.sub_add_cancel] at hlength
  rw [toDays_eq, newYear_succ, newYear_eq]
  split <;> omega

theorem toDays_of_isValid {date : Date} (h : date.isValid = true) :
    newYear 1 ≤ date.toDays ∧ date.toDays < newYear 10000 := by
  simp only [Date.isValid, Bool.and_eq_true, decide_eq_true_eq] at h
  obtain ⟨⟨⟨⟨⟨hyear, hyear'⟩, hmonth⟩, hmonth'⟩, hfirst⟩, hlast⟩ := h
  obtain ⟨hstart, hend⟩ := toDays_bounds ⟨hmonth, hmonth'⟩ hfirst hlast
  have hmono := newYear_mono hyear
  have hmono' := newYear_mono (show date.year + 1 ≤ 10000 by omega)
  exact ⟨hmono.trans hstart, lt_of_lt_of_le hend hmono'⟩

end AnomalyWindows.Proofs.CalendarDays
