import AnomalyWindows.Proofs.DoubleSums

namespace AnomalyWindows.Proofs.AmountSums

open Series Number
open AnomalyWindows.Proofs.DoubleSums

def isKnown : Amount → Bool
  | .double x => !x.isNaN
  | _ => true

/-- A sum of values, which are all of one kind. Integers are added exactly, up to words of 64
bits. -/
inductive IsSum : List Amount → Amount → Prop
  | words {ns : List Int} {n : Int} : ns ≠ [] → fitsWord n = true → 2 ^ 64 ∣ ns.sum - n →
    IsSum (ns.map .word) (.word n)
  | naturals {ns : List Int} {n : Int} : ns ≠ [] → fitsNatural n = true → 2 ^ 64 ∣ ns.sum - n →
    IsSum (ns.map .natural) (.natural n)
  | doubles {xs : List Float} {x : Float} : IsTotal xs x → IsSum (xs.map .double) (.double x)

theorem of_known (xs : List Float) : Sum.of xs = Sum.of (xs.filter fun x => !x.isNaN) := by
  have hadd : ∀ s : Sum,
      xs.foldl Sum.add s = (xs.filter fun x => !x.isNaN).foldl Sum.add s := by
    induction xs with
    | nil => exact fun _ => rfl
    | cons x rest ih =>
        intro s
        rw [List.filter_cons, List.foldl_cons]
        cases hnan : x.isNaN with
        | false => exact ih _
        | true =>
            rw [Sum.add, if_pos hnan]
            exact ih s
  rw [Sum.of, Sum.of, hadd]

/-- Values of one kind, as a column holds them. -/
inductive OfOneKind : List Amount → Prop
  | words (ns : List Int) : OfOneKind (ns.map .word)
  | naturals (ns : List Int) : OfOneKind (ns.map .natural)
  | doubles (xs : List Float) : OfOneKind (xs.map .double)

theorem eq_map_of_all {read? : Amount → Option Int} {make : Int → Amount}
    (hread : ∀ {a n}, read? a = some n → a = make n) {values : List Amount}
    (h : values.all (fun a => (read? a).isSome) = true) :
    ∃ ns : List Int, values = ns.map make := by
  induction values with
  | nil => exact ⟨[], rfl⟩
  | cons a rest ih =>
      rw [List.all_cons, Bool.and_eq_true] at h
      obtain ⟨n, hn⟩ := Option.isSome_iff_exists.mp h.1
      obtain ⟨ns, rfl⟩ := ih h.2
      exact ⟨n :: ns, by rw [hread hn, List.map_cons]⟩

theorem eq_word {a : Amount} {n : Int} (h : a.word? = some n) : a = .word n := by
  cases a with
  | word m => rw [Option.some.inj h]
  | natural m => cases h
  | double x => cases h

theorem eq_natural {a : Amount} {n : Int} (h : a.natural? = some n) : a = .natural n := by
  cases a with
  | word m => cases h
  | natural m => rw [Option.some.inj h]
  | double x => cases h

theorem ofOneKind_beside (values : List Amount) :
    OfOneKind (values.map (·.beside values)) := by
  unfold Amount.beside
  split
  · next h =>
      rw [List.map_id']
      rcases Bool.or_eq_true _ _ ▸ h with h | h
      · obtain ⟨ns, rfl⟩ := eq_map_of_all eq_word h
        exact .words ns
      · obtain ⟨ns, rfl⟩ := eq_map_of_all eq_natural h
        exact .naturals ns
  · have hdoubles : values.map (fun a => Amount.double a.float) =
        (values.map Amount.float).map .double := by
      rw [List.map_map]
      rfl
    exact hdoubles ▸ .doubles _

theorem OfOneKind.of_sublist {values some : List Amount} (h : OfOneKind values)
    (hsome : some.Sublist values) : OfOneKind some := by
  cases h with
  | words ns =>
      obtain ⟨_, -, rfl⟩ := List.sublist_map_iff.mp hsome
      exact .words _
  | naturals ns =>
      obtain ⟨_, -, rfl⟩ := List.sublist_map_iff.mp hsome
      exact .naturals _
  | doubles xs =>
      obtain ⟨_, -, rfl⟩ := List.sublist_map_iff.mp hsome
      exact .doubles _

theorem sum_words (ns : List Int) :
    sum (ns.map .word) = .word (ns.sum.bmod (Nat.pow 2 64)) := by
  have hns : (ns.map Amount.word).mapM Amount.word? = some ns := by
    induction ns with
    | nil => rfl
    | cons n rest ih => rw [List.map_cons, List.mapM_cons, ih]; rfl
  rw [sum, hns, List.sum_eq_foldl]

theorem sum_naturals {ns : List Int} (hne : ns ≠ []) :
    sum (ns.map .natural) = .natural (ns.sum % Nat.pow 2 64) := by
  have hnone : (ns.map Amount.natural).mapM Amount.word? = none := by
    obtain ⟨n, rest, rfl⟩ := List.exists_cons_of_ne_nil hne
    rfl
  have hns : (ns.map Amount.natural).mapM Amount.natural? = some ns := by
    clear hne hnone
    induction ns with
    | nil => rfl
    | cons n rest ih => rw [List.map_cons, List.mapM_cons, ih]; rfl
  rw [sum, hnone, hns, List.sum_eq_foldl]

theorem sum_doubles {xs : List Float} (hne : xs ≠ []) :
    sum (xs.map .double) = .double (Sum.of xs) := by
  obtain ⟨x, rest, rfl⟩ := List.exists_cons_of_ne_nil hne
  have hfloats : ((x :: rest).map Amount.double).map Amount.float = x :: rest := by
    rw [List.map_map]
    exact List.map_id _
  have hnone : ((x :: rest).map Amount.double).mapM Amount.word? = none := rfl
  have hnone' : ((x :: rest).map Amount.double).mapM Amount.natural? = none := rfl
  rw [sum, hnone, hnone', hfloats]

theorem isSum_sum {values : List Amount} (h : OfOneKind values) (hne : values ≠ []) :
    IsSum (values.filter isKnown) (sum values) := by
  cases h with
  | words ns =>
      have hns : ns ≠ [] := List.map_eq_nil_iff.not.mp hne
      have hknown : (ns.map Amount.word).filter isKnown = ns.map .word := by
        rw [List.filter_map]
        exact congrArg _ (List.filter_eq_self.mpr fun _ _ => rfl)
      rw [sum_words, hknown]
      refine .words hns ?_ Int.dvd_self_sub_bmod
      have hlow := Int.le_bmod (x := ns.sum) (m := Nat.pow 2 64) (by decide)
      have hhigh := Int.bmod_lt (x := ns.sum) (m := Nat.pow 2 64) (by decide)
      have hsize : Nat.pow 2 64 = 18446744073709551616 := rfl
      rw [fitsWord, wordLimit, Bool.and_eq_true, decide_eq_true_iff, decide_eq_true_iff]
      omega
  | naturals ns =>
      have hns : ns ≠ [] := List.map_eq_nil_iff.not.mp hne
      have hknown : (ns.map Amount.natural).filter isKnown = ns.map .natural := by
        rw [List.filter_map]
        exact congrArg _ (List.filter_eq_self.mpr fun _ _ => rfl)
      rw [sum_naturals hns, hknown]
      refine .naturals hns ?_ Int.dvd_self_sub_emod
      have hlow := Int.emod_nonneg ns.sum (b := (Nat.pow 2 64 : Nat)) (by decide)
      have hhigh := Int.emod_lt_of_pos ns.sum (b := (Nat.pow 2 64 : Nat)) (by decide)
      have hsize : ((Nat.pow 2 64 : Nat) : Int) = 18446744073709551616 := rfl
      rw [fitsNatural, wordLimit, Bool.and_eq_true, decide_eq_true_iff, decide_eq_true_iff]
      omega
  | doubles xs =>
      have hknown : (xs.map Amount.double).filter isKnown =
          (xs.filter fun x => !x.isNaN).map .double := List.filter_map
      rw [sum_doubles (List.map_eq_nil_iff.not.mp hne), hknown, of_known]
      refine .doubles (isTotal_of fun a ha => ?_)
      have hnan := (List.mem_filter.mp ha).2
      cases h : a.isNaN with
      | false => rfl
      | true => rw [h] at hnan; cases hnan

theorem eq_zero_of_isSum_nil {value : Amount} (h : IsSum [] value) : value = .double 0.0 := by
  generalize hvalues : [] = values at h
  cases h with
  | words hne => exact absurd (List.map_eq_nil_iff.mp hvalues.symm) hne
  | naturals hne => exact absurd (List.map_eq_nil_iff.mp hvalues.symm) hne
  | doubles htotal =>
      obtain rfl := List.map_eq_nil_iff.mp hvalues.symm
      exact congrArg _ (htotal.few (by simp))

theorem single_of_isSum {a : Float} {value : Amount} (h : IsSum [.double a] value) :
    ∃ x, value = .double x ∧ (x == a) = true := by
  generalize hvalues : [Amount.double a] = values at h
  cases h with
  | @words ns n =>
      cases ns with
      | nil => cases hvalues
      | cons => cases hvalues
  | @naturals ns n =>
      cases ns with
      | nil => cases hvalues
      | cons => cases hvalues
  | @doubles xs x htotal =>
      obtain rfl : xs = [a] := by
        have h := congrArg (List.map Amount.float) hvalues
        rw [List.map_map] at h
        simpa [Amount.float, Function.comp_def] using h.symm
      exact ⟨x, rfl, htotal.single a rfl⟩

end AnomalyWindows.Proofs.AmountSums
