namespace AnomalyWindows.Keyed

variable {α κ : Type} [DecidableEq κ] (key : α → κ)

/-- An item set under its key: in the place of the item that has the key, else at the end. -/
def put (a : α) : List α → List α
  | [] => [a]
  | b :: rest => if key b = key a then a :: rest else b :: put a rest

def ofList (items : List α) : List α :=
  items.foldl (fun done a => put key a done) []

def find? (k : κ) (items : List α) : Option α :=
  items.find? fun a => key a = k

def erase (k : κ) (items : List α) : List α :=
  items.filter fun a => key a ≠ k

theorem find?_put_self (a : α) (items : List α) :
    find? key (key a) (put key a items) = some a := by
  induction items with
  | nil => simp [find?, put]
  | cons b rest ih =>
    by_cases h : key b = key a
    · simp [find?, put, h]
    · simpa [find?, put, h] using ih

theorem eq_or_mem_of_mem_put {a b : α} {items : List α} (h : b ∈ put key a items) :
    b = a ∨ b ∈ items := by
  induction items with
  | nil => exact .inl (List.mem_singleton.mp h)
  | cons c rest ih =>
    rw [put] at h
    split at h
    · rcases List.mem_cons.mp h with rfl | h
      · exact .inl rfl
      · exact .inr (List.mem_cons_of_mem c h)
    · rcases List.mem_cons.mp h with rfl | h
      · exact .inr (List.mem_cons_self ..)
      · exact (ih h).imp_right (List.mem_cons_of_mem c)

theorem mem_put_of_ne {a b : α} {items : List α} (h : b ∈ items) (hne : key b ≠ key a) :
    b ∈ put key a items := by
  induction items with
  | nil => cases h
  | cons c rest ih =>
    rw [put]
    rcases List.mem_cons.mp h with rfl | h
    · rw [if_neg hne]
      exact List.mem_cons_self ..
    · split
      · exact List.mem_cons_of_mem a h
      · exact List.mem_cons_of_mem c (ih h)

theorem find?_put_of_ne {a : α} {k : κ} (h : k ≠ key a) (items : List α) :
    find? key k (put key a items) = find? key k items := by
  induction items with
  | nil => simp [find?, put, Ne.symm h]
  | cons b rest ih =>
    by_cases hb : key b = key a
    · simp [find?, put, hb, Ne.symm h]
    · simp only [find?, put, hb, if_false, List.find?_cons] at ih ⊢
      rw [ih]

theorem map_key_put (a : α) (items : List α) :
    (put key a items).map key =
      if key a ∈ items.map key then items.map key else items.map key ++ [key a] := by
  induction items with
  | nil => simp [put]
  | cons b rest ih =>
    by_cases h : key b = key a
    · simp [put, h]
    · simp only [put, h, if_false, List.map_cons, ih, List.mem_cons, Ne.symm h, false_or]
      split <;> simp

theorem find?_erase_self (k : κ) (items : List α) : find? key k (erase key k items) = none := by
  simp [find?, erase]

theorem find?_erase_of_ne {k l : κ} (h : l ≠ k) (items : List α) :
    find? key l (erase key k items) = find? key l items := by
  induction items with
  | nil => rfl
  | cons b rest ih =>
    by_cases hb : key b = k
    · have hl : key b ≠ l := fun e => h (e.symm.trans hb)
      simp_all [find?, erase]
    · by_cases hl : key b = l <;> simp_all [find?, erase]

theorem find?_eq_none_iff (k : κ) (items : List α) :
    find? key k items = none ↔ k ∉ items.map key := by
  simp [find?]

theorem put_of_not_mem {a : α} {items : List α} (h : key a ∉ items.map key) :
    put key a items = items ++ [a] := by
  induction items with
  | nil => rfl
  | cons b rest ih =>
    simp only [List.map_cons, List.mem_cons, not_or] at h
    rw [put, if_neg (Ne.symm h.1), ih h.2, List.cons_append]

theorem nodup_put (a : α) {items : List α} (h : (items.map key).Nodup) :
    ((put key a items).map key).Nodup := by
  rw [map_key_put]
  split
  · exact h
  · rename_i hmem
    refine List.nodup_append.mpr ⟨h, List.pairwise_singleton _ _, fun k hk l hl => ?_⟩
    obtain rfl := List.mem_singleton.mp hl
    exact fun heq => hmem (heq ▸ hk)

theorem nodup_ofList (items : List α) : ((ofList key items).map key).Nodup := by
  suffices h : ∀ done, (done.map key).Nodup →
      ((items.foldl (fun done a => put key a done) done).map key).Nodup from h [] List.nodup_nil
  induction items with
  | nil => exact fun done h => h
  | cons a rest ih => exact fun done h => ih _ (nodup_put key a h)

theorem find?_ofList (k : κ) (items : List α) :
    find? key k (ofList key items) = items.reverse.find? fun a => key a = k := by
  suffices h : ∀ latestFirst : List α,
      find? key k (latestFirst.foldr (fun a done => put key a done) []) =
        latestFirst.find? fun a => key a = k by
    rw [ofList, List.foldl_eq_foldr_reverse, h]
  intro latestFirst
  induction latestFirst with
  | nil => rfl
  | cons a earlier ih =>
    by_cases hk : key a = k
    · subst hk
      rw [List.foldr_cons, find?_put_self, List.find?_cons_of_pos (by simp)]
    · rw [List.foldr_cons, find?_put_of_ne key (Ne.symm hk), ih,
        List.find?_cons_of_neg (by simpa using hk)]

theorem ofList_of_nodup {items : List α} (h : (items.map key).Nodup) :
    ofList key items = items := by
  suffices hfold : ∀ done, ((done ++ items).map key).Nodup →
      items.foldl (fun done a => put key a done) done = done ++ items from hfold [] h
  induction items with
  | nil => simp
  | cons a rest ih =>
    intro done hdone
    have hmem : key a ∉ done.map key := by
      rw [List.map_append, List.nodup_append] at hdone
      exact fun hk => hdone.2.2 _ hk _ (List.mem_cons_self ..) rfl
    rw [List.foldl_cons, put_of_not_mem key hmem]
    rw [List.map_cons, List.nodup_cons] at h
    rw [ih h.2 _ (by rwa [List.append_assoc]), List.append_assoc]
    rfl

theorem map_key_erase (k : κ) (items : List α) :
    (erase key k items).map key = (items.map key).filter (· ≠ k) := by
  rw [erase, List.filter_map]
  rfl

theorem nodup_erase (k : κ) {items : List α} (h : (items.map key).Nodup) :
    ((erase key k items).map key).Nodup := by
  rw [map_key_erase]
  exact h.filter _

theorem erase_of_find?_eq_none {k : κ} {items : List α} (h : find? key k items = none) :
    erase key k items = items := by
  rw [find?_eq_none_iff, List.mem_map] at h
  refine List.filter_eq_self.mpr fun a ha => decide_eq_true fun hk => h ⟨a, ha, hk⟩

theorem erase_put (a : α) (items : List α) :
    erase key (key a) (put key a items) = erase key (key a) items := by
  induction items with
  | nil => simp [put, erase]
  | cons b rest ih =>
    unfold erase at ih ⊢
    by_cases h : key b = key a
    · simp [put, h]
    · simpa [put, h] using ih

theorem erase_erase (k : κ) (items : List α) :
    erase key k (erase key k items) = erase key k items := by
  simp [erase]

theorem find?_of_mem {a : α} {items : List α} (h : (items.map key).Nodup) (ha : a ∈ items) :
    find? key (key a) items = some a := by
  induction items with
  | nil => cases ha
  | cons b rest ih =>
    rw [List.map_cons, List.nodup_cons] at h
    rcases List.mem_cons.mp ha with rfl | hrest
    · simp [find?]
    · have hne : key b ≠ key a := fun heq => h.1 (heq ▸ List.mem_map_of_mem hrest)
      rw [← ih h.2 hrest]
      simp [find?, hne]

theorem filterMap_find?_keys {items : List α} (h : (items.map key).Nodup) :
    (items.map key).filterMap (fun k => find? key k items) = items := by
  suffices hpart : ∀ part, part ⊆ items →
      (part.map key).filterMap (fun k => find? key k items) = part from hpart items fun _ => id
  intro part hpart
  induction part with
  | nil => rfl
  | cons a rest ih =>
    obtain ⟨ha, hrest⟩ := List.cons_subset.mp hpart
    rw [List.map_cons, List.filterMap_cons, find?_of_mem key h ha, ih hrest]

end AnomalyWindows.Keyed
