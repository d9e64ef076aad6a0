namespace AnomalyWindows.Text

/-- The parts between separators. There is always at least one. -/
def splitAt (separator : Char) : List Char → List (List Char)
  | [] => [[]]
  | c :: cs =>
    match splitAt separator cs with
    | part :: parts => if c = separator then [] :: part :: parts else (c :: part) :: parts
    | [] => [[c]]

theorem splitAt_ne_nil (separator : Char) (cs : List Char) : splitAt separator cs ≠ [] := by
  cases cs with
  | nil => simp [splitAt]
  | cons c cs =>
    simp only [splitAt]
    split
    · split <;> simp
    · simp

theorem splitAt_separator (separator : Char) (cs : List Char) :
    splitAt separator (separator :: cs) = [] :: splitAt separator cs := by
  simp only [splitAt, if_true]
  split
  · rename_i part parts h
    rw [h]
  · rename_i h
    exact absurd h (splitAt_ne_nil separator cs)

theorem splitAt_of_not_mem {separator : Char} {part : List Char} (h : separator ∉ part) :
    splitAt separator part = [part] := by
  induction part with
  | nil => rfl
  | cons c cs ih =>
    simp only [List.mem_cons, not_or] at h
    simp [splitAt, ih h.2, Ne.symm h.1]

theorem splitAt_append {separator : Char} {part : List Char} (h : separator ∉ part)
    (cs : List Char) :
    splitAt separator (part ++ separator :: cs) = part :: splitAt separator cs := by
  induction part with
  | nil => exact splitAt_separator separator cs
  | cons c part ih =>
    simp only [List.mem_cons, not_or] at h
    simp [splitAt, ih h.2, Ne.symm h.1]

theorem splitAt_flatMap {separator : Char} {part : List Char} {parts : List (List Char)}
    (h : separator ∉ part) (hparts : ∀ p ∈ parts, separator ∉ p) :
    splitAt separator (part ++ parts.flatMap (separator :: ·)) = part :: parts := by
  induction parts generalizing part with
  | nil => simpa using splitAt_of_not_mem h
  | cons next parts ih =>
    simp only [List.forall_mem_cons] at hparts
    rw [List.flatMap_cons, List.cons_append, splitAt_append h, ih hparts.1 hparts.2]

theorem splitAt_eq_cons_iff {separator : Char} {cs part : List Char} {parts : List (List Char)} :
    splitAt separator cs = part :: parts ↔
      cs = part ++ parts.flatMap (separator :: ·) ∧ separator ∉ part ∧
        ∀ p ∈ parts, separator ∉ p := by
  constructor
  · intro h
    induction cs generalizing part parts with
    | nil =>
      cases h
      simp
    | cons c cs ih =>
      obtain ⟨first, rest, hsplit⟩ := List.exists_cons_of_ne_nil (splitAt_ne_nil separator cs)
      obtain ⟨hcs, hfirst, hrest⟩ := ih hsplit
      simp only [splitAt, hsplit] at h
      split at h
      · next hc =>
        cases h
        refine ⟨by simp [hcs, hc], List.not_mem_nil, ?_⟩
        exact List.forall_mem_cons.mpr ⟨hfirst, hrest⟩
      · next hc =>
        cases h
        refine ⟨by simp [hcs], ?_, hrest⟩
        simp [Ne.symm hc, hfirst]
  · rintro ⟨rfl, hpart, hparts⟩
    exact splitAt_flatMap hpart hparts

end AnomalyWindows.Text
