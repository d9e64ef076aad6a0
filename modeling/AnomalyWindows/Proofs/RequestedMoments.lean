import AnomalyWindows.Proofs.WrittenIntegers
import AnomalyWindows.Proofs.WrittenMoments
import AnomalyWindows.Service.Basic

namespace AnomalyWindows.Proofs.RequestedMoments

open Calendar Text Duration Number
open AnomalyWindows.Proofs.CalendarYear AnomalyWindows.Proofs.CalendarDays
open AnomalyWindows.Proofs.WrittenMoments AnomalyWindows.Proofs.WrittenIntegers

theorem microsOfDigits_lt {digits : List Nat} (h : ∀ d ∈ digits, d < 10) :
    microsOfDigits digits < 1000000 := by
  have hdigits : ∀ d ∈ (digits ++ List.replicate 6 0).take 6, d < 10 := by
    intro d hd
    rcases List.mem_append.1 (List.mem_of_mem_take hd) with hd | hd
    · exact h d hd
    · rw [List.eq_of_mem_replicate hd]
      decide
  have hlength : ((digits ++ List.replicate 6 0).take 6).length = 6 := by
    simp
  have hlt := ofDigits_lt hdigits
  rwa [hlength] at hlt

theorem isValid_of_takeDate? {cs rest : List Char} {date : Date}
    (h : Moment.takeDate? cs = some (date, rest)) : date.isValid = true := by
  unfold Moment.takeDate? at h
  obtain ⟨_, -, h⟩ := Option.bind_eq_some_iff.1 h
  obtain ⟨_, -, h⟩ := Option.bind_eq_some_iff.1 h
  dsimp only at h
  split at h
  · obtain ⟨_, -, h⟩ := Option.bind_eq_some_iff.1 h
    split at h
    · obtain ⟨_, -, h⟩ := Option.bind_eq_some_iff.1 h
      obtain ⟨hvalid, h⟩ := Option.ite_none_right_eq_some.1 h
      cases h
      exact hvalid
    · cases h
  · cases h

theorem takeSeconds?_bounds {cs rest : List Char} {t : Int}
    (h : Moment.takeSeconds? cs = some (t, rest)) : 0 ≤ t ∧ t < minute := by
  unfold Moment.takeSeconds? at h
  split at h
  · obtain ⟨⟨s, behind⟩, -, h⟩ := Option.bind_eq_some_iff.1 h
    dsimp only at h
    split at h
    · cases h
    rename_i hs
    have hwhole : 0 ≤ (s : Int) * second ∧ (s : Int) * second + 1000000 ≤ minute := by
      rw [minute, second]
      omega
    split at h
    · split at h
      · split at h
        · cases h
        · rename_i digits _ _ htaken
          have hmicros := microsOfDigits_lt (lt_of_takeDigits htaken)
          cases h
          omega
      · cases h
        omega
    · cases h
      omega
  · cases h
    decide

theorem takeTime?_bounds {cs rest : List Char} {t : Int}
    (h : Moment.takeTime? cs = some (t, rest)) : 0 ≤ t ∧ t < day := by
  unfold Moment.takeTime? at h
  obtain ⟨⟨hours, _⟩, -, h⟩ := Option.bind_eq_some_iff.1 h
  dsimp only at h
  split at h
  · obtain ⟨⟨minutes, _⟩, -, h⟩ := Option.bind_eq_some_iff.1 h
    dsimp only at h
    split at h
    · cases h
    · rename_i hexists
      obtain ⟨⟨seconds, _⟩, hseconds, h⟩ := Option.bind_eq_some_iff.1 h
      have hbounds := takeSeconds?_bounds hseconds
      cases h
      simp only [day, hour, minute, second] at hbounds ⊢
      omega
  · cases h

theorem isOffset_of_le (hours minutes : Nat) (hhours : hours ≤ 23) (hminutes : minutes ≤ 59) :
    IsOffset (hours * hour + minutes * minute) ∧ IsOffset (-(hours * hour + minutes * minute)) := by
  have hpos : 0 ≤ (hours : Int) * hour + minutes * minute := by
    simp only [hour, minute, second]
    omega
  rw [IsOffset, IsOffset, abs_neg, abs_of_nonneg hpos]
  simp only [day, hour, minute, second]
  omega

theorem clock_of_clockOf? {cs : List Char} {clock : Clock} (h : Moment.clockOf? cs = some clock) :
    clock = .naive ∨ ∃ offset, clock = .fixed offset ∧ IsOffset offset := by
  unfold Moment.clockOf? at h
  split at h
  · cases h
    exact .inl rfl
  · cases h
    exact .inr ⟨0, rfl, .inl rfl⟩
  · cases h
    exact .inr ⟨0, rfl, .inl rfl⟩
  · dsimp only at h
    split at h
    · cases h
    obtain ⟨hours, -, h⟩ := Option.bind_eq_some_iff.1 h
    obtain ⟨minutes, -, h⟩ := Option.bind_eq_some_iff.1 h
    split at h
    · cases h
    rename_i hexists
    cases h
    obtain ⟨hahead, hbehind⟩ := isOffset_of_le hours.1 minutes.1 (by omega) (by omega)
    refine .inr ⟨_, rfl, ?_⟩
    split
    · exact hahead
    · exact hbehind

theorem isPlain_ofInstant {instant : Int} (hfirst : firstWall ≤ instant)
    (hlast : instant ≤ lastWall) : IsPlain (.ofInstant instant) where
  first := hfirst
  last := hlast
  pass := rfl
  clock := .inr ⟨0, rfl, .inl rfl⟩

theorem isPlain_of_ofCount? {count : Int} {micros : Nat} {m : Moment}
    (h : Moment.ofCount? count micros = some m) : IsPlain m := by
  obtain ⟨hbounds, hm⟩ := Option.ite_none_right_eq_some.1 h
  cases hm
  exact isPlain_ofInstant hbounds.1 hbounds.2

theorem isPlain_of_ofFloat? {x : Float} {m : Moment} (h : Moment.ofFloat? x = some m) :
    IsPlain m := by
  unfold Moment.ofFloat? at h
  split at h
  · cases h
  · exact isPlain_of_ofCount? h

theorem isPlain_of_ofNumberText? {cs : List Char} {m : Moment}
    (h : Moment.ofNumberText? cs = some m) : IsPlain m := by
  unfold Moment.ofNumberText? at h
  dsimp only at h
  split at h
  · cases h
  split at h
  · cases h
  split at h
  · exact isPlain_of_ofCount? h
  · split at h
    · exact isPlain_of_ofCount? h
    · cases h
  · cases h

theorem wall_bounds_of_isValid {date : Date} (h : date.isValid = true) {t : Int} (hfirst : 0 ≤ t)
    (hlast : t < day) :
    firstWall ≤ date.toDays * day + t ∧ date.toDays * day + t ≤ lastWall := by
  have hday := toDays_of_isValid h
  have hstart : newYear 1 = -719162 := by decide
  have hend : newYear 10000 = 2932897 := by decide
  rw [hstart, hend] at hday
  simp only [firstWall, lastWall, day, hour, minute, second] at hlast ⊢
  omega

theorem isPlain_of_ofIsoText? {cs : List Char} {m : Moment} (h : Moment.ofIsoText? cs = some m) :
    IsPlain m := by
  unfold Moment.ofIsoText? at h
  obtain ⟨date, hdate, h⟩ := Option.bind_eq_some_iff.1 h
  have hvalid := isValid_of_takeDate? hdate
  dsimp only at h
  split at h
  · cases h
    have hbounds := wall_bounds_of_isValid hvalid (t := 0) (by decide) (by decide)
    rw [Int.add_zero] at hbounds
    exact ⟨hbounds.1, hbounds.2, rfl, .inl rfl⟩
  · split at h
    · cases h
    obtain ⟨time, htime, h⟩ := Option.bind_eq_some_iff.1 h
    obtain ⟨clock, hclock, h⟩ := Option.bind_eq_some_iff.1 h
    have ht := takeTime?_bounds htime
    have hbounds := wall_bounds_of_isValid hvalid ht.1 ht.2
    cases h
    exact ⟨hbounds.1, hbounds.2, rfl, clock_of_clockOf? hclock⟩

theorem isPlain_of_counted {found : Option Moment} {m : Moment}
    (hfound : ∀ m, found = some m → IsPlain m) (h : Moment.ofData.counted found = .valid m) :
    IsPlain m := by
  cases found with
  | none => cases h
  | some m =>
      cases h
      exact hfound m rfl

theorem isPlain_of_ofData {data : Data} {m : Moment} (h : Moment.ofData data = .valid m) :
    IsPlain m := by
  unfold Moment.ofData at h
  split at h
  · split at h
    · rename_i found hfound
      cases h
      cases hiso : Moment.ofIsoText? _ with
      | some m =>
          rw [hiso] at hfound
          cases hfound
          exact isPlain_of_ofIsoText? hiso
      | none =>
          rw [hiso] at hfound
          exact isPlain_of_ofNumberText? hfound
    · cases h
  · split at h
    · exact isPlain_of_counted (fun _ => isPlain_of_ofCount?) h
    · split at h <;> cases h
  · exact isPlain_of_counted (fun _ => isPlain_of_ofFloat?) h
  · cases h

theorem exists_of_inField {α : Type} {name : String} {value : Checked α} {a : α}
    (h : value.inField name = .valid a) : value = .valid a := by
  cases value with
  | valid b => exact h
  | wrong problems => cases h

theorem isPlain_of_required {r : Record} {name : String} {m : Moment}
    (h : r.required name Moment.ofData = .valid m) : IsPlain m := by
  unfold Record.required at h
  split at h
  · exact isPlain_of_ofData (exists_of_inField h)
  · cases h

theorem isPlain_of_bounds {call : Call} {start finish : Moment}
    (h : call.bounds = .ok (start, finish)) : IsPlain start ∧ IsPlain finish := by
  unfold Call.bounds Call.checked at h
  dsimp only at h
  split at h
  · rename_i bounds hvalid
    cases h
    obtain ⟨pair, finish', hpair, hfinish, hbounds⟩ :=
      Checked.seq_valid_iff.1 (exists_of_inField hvalid)
    cases hstart : call.queryRecord.required "start" Moment.ofData with
    | wrong problems =>
        rw [hstart] at hpair
        cases hpair
    | valid start' =>
        rw [hstart] at hpair
        cases hpair
        cases hbounds
        exact ⟨isPlain_of_required hstart, isPlain_of_required hfinish⟩
  · cases h

end AnomalyWindows.Proofs.RequestedMoments
