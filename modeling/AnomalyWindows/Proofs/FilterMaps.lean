import AnomalyWindows.Metric.Urn
import Mathlib.Data.List.Nodup
import Mathlib.Data.String.Basic

namespace AnomalyWindows.Proofs.FilterMaps

/-- Filters that a URN can carry: every dimension comes up once, under a name that is not cut at a
separator, and has values, none of which is. -/
structure Carried (filters : Filters) : Prop where
  once : (filters.map Prod.fst).Nodup
  names : ∀ entry ∈ filters, entry.1 ≠ "" ∧ ':' ∉ entry.1.toList ∧ '=' ∉ entry.1.toList
  values : ∀ entry ∈ filters, entry.2 ≠ [] ∧ ∀ value ∈ entry.2, ':' ∉ value.toList

theorem lookup_eq_some_iff_mem {filters : Filters} (h : (filters.map Prod.fst).Nodup) {key : String}
    {values : List String} : filters.lookup key = some values ↔ (key, values) ∈ filters := by
  induction filters with
  | nil => simp
  | cons entry rest ih =>
      obtain ⟨name, found⟩ := entry
      rw [List.map_cons, List.nodup_cons] at h
      rw [List.mem_cons, Prod.mk.injEq]
      by_cases hname : key = name
      · subst hname
        have hrest : (key, values) ∉ rest := fun hmem =>
          h.1 (List.mem_map.mpr ⟨_, hmem, rfl⟩)
        rw [List.lookup_cons_self, Option.some.injEq, or_iff_left hrest]
        exact ⟨fun heq => ⟨rfl, heq.symm⟩, fun heq => heq.2.symm⟩
      · have hother : (key == name) = false := beq_eq_false_iff_ne.mpr hname
        rw [List.lookup_cons, hother, ih h.2]
        exact (or_iff_right fun heq => hname heq.1).symm

theorem lookup_eq_of_perm {filters filters' : Filters} (h : (filters.map Prod.fst).Nodup)
    (hperm : filters.Perm filters') (key : String) :
    filters.lookup key = filters'.lookup key := by
  have h' := (hperm.map Prod.fst).nodup h
  refine Option.ext fun values => ?_
  rw [lookup_eq_some_iff_mem h, lookup_eq_some_iff_mem h', hperm.mem_iff]

theorem perm_of_lookup_eq {filters filters' : Filters} (h : (filters.map Prod.fst).Nodup)
    (h' : (filters'.map Prod.fst).Nodup)
    (hsame : ∀ key, filters.lookup key = filters'.lookup key) : filters.Perm filters' := by
  have hnodup : filters.Nodup := List.Nodup.of_map Prod.fst h
  have hnodup' : filters'.Nodup := List.Nodup.of_map Prod.fst h'
  refine (List.perm_ext_iff_of_nodup hnodup hnodup').mpr fun entry => ?_
  rw [← lookup_eq_some_iff_mem h, ← lookup_eq_some_iff_mem h', hsame]

theorem perm_sorted (filters : Filters) : filters.sorted.Perm filters :=
  List.mergeSort_perm filters _

theorem pairwise_sorted (filters : Filters) :
    filters.sorted.Pairwise fun a b => a.1 ≤ b.1 := by
  have hordered : filters.sorted.Pairwise fun a b => decide (a.1 ≤ b.1) = true := by
    refine List.pairwise_mergeSort (fun a b c hab hbc => ?_) (fun a b => ?_) filters
    · simpa using le_trans (of_decide_eq_true hab) (of_decide_eq_true hbc)
    · simpa using le_total a.1 b.1
  exact hordered.imp of_decide_eq_true

theorem sorted_of_pairwise {filters : Filters} (h : filters.Pairwise fun a b => a.1 ≤ b.1) :
    filters.sorted = filters :=
  List.mergeSort_of_pairwise (h.imp decide_eq_true)

theorem once_sorted {filters : Filters} (h : (filters.map Prod.fst).Nodup) :
    (filters.sorted.map Prod.fst).Nodup :=
  ((perm_sorted filters).map Prod.fst).nodup_iff.mpr h

theorem carried_sorted {filters : Filters} (h : Carried filters) : Carried filters.sorted where
  once := once_sorted h.once
  names entry hentry := h.names entry ((perm_sorted filters).mem_iff.mp hentry)
  values entry hentry := h.values entry ((perm_sorted filters).mem_iff.mp hentry)

theorem lookup_sorted {filters : Filters} (h : (filters.map Prod.fst).Nodup) (key : String) :
    filters.sorted.lookup key = filters.lookup key :=
  (lookup_eq_of_perm h (perm_sorted filters).symm key).symm

theorem sorted_eq_iff {filters filters' : Filters} (h : (filters.map Prod.fst).Nodup)
    (h' : (filters'.map Prod.fst).Nodup) :
    filters.sorted = filters'.sorted ↔ ∀ key, filters.lookup key = filters'.lookup key := by
  constructor
  · intro hsorted key
    rw [← lookup_sorted h, hsorted, lookup_sorted h']
  · intro hsame
    have hperm : filters.sorted.Perm filters'.sorted :=
      (perm_sorted filters).trans
        ((perm_of_lookup_eq h h' hsame).trans (perm_sorted filters').symm)
    refine hperm.eq_of_pairwise ?_ (pairwise_sorted filters) (pairwise_sorted filters')
    rintro ⟨key, values⟩ ⟨key', values'⟩ hmem hmem' hle hge
    obtain rfl : key = key' := le_antisymm hle hge
    rw [(perm_sorted filters).mem_iff, ← lookup_eq_some_iff_mem h, hsame] at hmem
    rw [(perm_sorted filters').mem_iff, ← lookup_eq_some_iff_mem h', hmem] at hmem'
    rw [Option.some.inj hmem']

theorem map_fst_add (key value : String) (filters : Filters) :
    (filters.add key value).map Prod.fst =
      if key ∈ filters.map Prod.fst then filters.map Prod.fst
      else filters.map Prod.fst ++ [key] := by
  induction filters with
  | nil => simp [Filters.add]
  | cons entry rest ih =>
      obtain ⟨name, values⟩ := entry
      by_cases hname : name = key
      · simp [Filters.add, hname]
      · simp only [Filters.add, hname, if_false, List.map_cons, ih, List.mem_cons, Ne.symm hname,
          false_or]
        split <;> simp

theorem exists_of_mem_add {key value : String} {filters : Filters} {entry : String × List String}
    (h : entry ∈ filters.add key value) :
    entry ∈ filters ∨ ∃ values, entry = (key, values ++ [value]) ∧
      (values = [] ∨ (key, values) ∈ filters) := by
  induction filters with
  | nil => exact .inr ⟨[], by simpa [Filters.add] using h, .inl rfl⟩
  | cons first rest ih =>
      obtain ⟨name, values⟩ := first
      rw [Filters.add] at h
      split at h
      · next hname =>
          rcases List.mem_cons.mp h with rfl | h
          · exact .inr ⟨values, by rw [hname], .inr (by simp [hname])⟩
          · exact .inl (List.mem_cons_of_mem _ h)
      · rcases List.mem_cons.mp h with rfl | h
        · exact .inl (List.mem_cons_self ..)
        · rcases ih h with h | ⟨values', hentry, hvalues'⟩
          · exact .inl (List.mem_cons_of_mem _ h)
          · exact .inr ⟨values', hentry, hvalues'.imp_right (List.mem_cons_of_mem _)⟩

theorem carried_add {key value : String} {filters : Filters} (h : Carried filters)
    (hname : key ≠ "" ∧ ':' ∉ key.toList ∧ '=' ∉ key.toList) (hvalue : ':' ∉ value.toList) :
    Carried (filters.add key value) where
  once := by
    rw [map_fst_add]
    split
    · exact h.once
    · next hnew =>
        refine List.nodup_append.mpr ⟨h.once, List.pairwise_singleton _ _, ?_⟩
        intro name hmem other hother
        obtain rfl := List.mem_singleton.mp hother
        exact fun heq => hnew (heq ▸ hmem)
  names entry hentry := by
    rcases exists_of_mem_add hentry with hentry | ⟨values, rfl, -⟩
    · exact h.names entry hentry
    · exact hname
  values entry hentry := by
    rcases exists_of_mem_add hentry with hentry | ⟨values, rfl, hvalues⟩
    · exact h.values entry hentry
    · refine ⟨by simp, fun other hother => ?_⟩
      rcases List.mem_append.mp hother with hother | hother
      · rcases hvalues with rfl | hvalues
        · cases hother
        · exact (h.values _ hvalues).2 other hother
      · rwa [List.mem_singleton.mp hother]

theorem add_append {key value : String} {filters : Filters} (hnew : key ∉ filters.map Prod.fst)
    (more : Filters) : (filters ++ more).add key value = filters ++ more.add key value := by
  induction filters with
  | nil => rfl
  | cons entry rest ih =>
      obtain ⟨name, values⟩ := entry
      simp only [List.map_cons, List.mem_cons, not_or] at hnew
      rw [List.cons_append, Filters.add, if_neg (Ne.symm hnew.1), ih hnew.2, List.cons_append]

end AnomalyWindows.Proofs.FilterMaps
