import AnomalyWindows.Proofs.CalendarMoves
import AnomalyWindows.Proofs.FilterMaps
import AnomalyWindows.Proofs.WrittenIntegers

namespace AnomalyWindows.Proofs.UrnRoundTrip

open Text MetricEntity
open AnomalyWindows.Proofs.CalendarMoves AnomalyWindows.Proofs.FilterMaps
open AnomalyWindows.Proofs.WrittenMoments AnomalyWindows.Proofs.WrittenIntegers

theorem span_ne_of_not_mem {c : Char} {part : List Char} (h : c ∉ part) (rest : List Char) :
    (part ++ c :: rest).span (· != c) = (part, c :: rest) := by
  refine span_append (fun d hd => bne_iff_ne.mpr fun heq => h (heq ▸ hd)) ?_
  rintro d ⟨⟩
  exact bne_self_eq_false c

/-- A part adds a value exactly if it is a name and a value with an equals sign between them. -/
theorem addFilter_eq_ok_iff {urn : String} {filters filters' : Filters} {part : List Char} :
    addFilter urn filters part = .ok filters' ↔
      ∃ key value : String, part = key.toList ++ '=' :: value.toList ∧ key ≠ "" ∧
        '=' ∉ key.toList ∧ filters' = filters.add key value := by
  constructor
  · intro h
    rw [addFilter, List.span_eq_takeWhile_dropWhile] at h
    split at h
    · cases h
    · next key c value hnonempty hspan =>
        cases h
        obtain ⟨hkey, hrest⟩ := Prod.mk.inj hspan
        have hpart := List.takeWhile_append_dropWhile (p := (· != '=')) (l := part)
        have hc := List.head?_dropWhile_not (· != '=') part
        rw [hrest] at hc
        obtain rfl : c = '=' := by simpa using hc
        have hnot : '=' ∉ key := by
          rw [← hkey]
          exact fun hmem => by simpa using List.all_eq_true.mp List.all_takeWhile _ hmem
        rw [hkey, hrest] at hpart
        refine ⟨String.ofList key, String.ofList value, ?_, ?_, ?_, rfl⟩
        · rw [String.toList_ofList, String.toList_ofList, hpart]
        · rw [ne_eq, ← String.toList_eq_nil_iff, String.toList_ofList]
          exact hnonempty
        · rwa [String.toList_ofList]
    · cases h
  · rintro ⟨key, value, rfl, hne, hnew, rfl⟩
    rw [addFilter, span_ne_of_not_mem hnew]
    cases hkey : key.toList with
    | nil => exact absurd (String.toList_eq_nil_iff.mp hkey) hne
    | cons c cs => simp [← hkey]

theorem ofUrn_eq_ok_iff {urn : String} {e : MetricEntity} :
    ofUrn urn = .ok e ↔
      ∃ (idText : List Char) (parts : List (List Char)),
        urn.toList = urnStart.toList ++ (idText ++ parts.flatMap (':' :: ·)) ∧
        ':' ∉ idText ∧ (∀ part ∈ parts, ':' ∉ part) ∧ integer? idText = some e.id ∧
        parts.foldlM (addFilter urn) [] = .ok e.filters := by
  have hlength : urnStart.length = urnStart.toList.length := rfl
  rw [ofUrn]
  constructor
  · intro h
    split at h
    · next hstart =>
        obtain ⟨rest, hrest⟩ := List.isPrefixOf_iff_prefix.mp hstart
        rw [hlength, ← hrest, List.drop_left] at h
        split at h
        · cases h
        · next idText parts hsplit =>
            obtain ⟨rfl, hid, hparts⟩ := splitAt_eq_cons_iff.mp hsplit
            split at h
            · next id hread =>
                obtain ⟨filters, hfilters, h⟩ := bind_eq_ok_iff.mp h
                cases h
                exact ⟨idText, parts, hrest.symm, hid, hparts, hread, hfilters⟩
            · cases h
    · cases h
  · rintro ⟨idText, parts, htext, hid, hparts, hread, hfilters⟩
    rw [htext, if_pos (List.isPrefixOf_iff_prefix.mpr (List.prefix_append ..)), hlength,
      List.drop_left, splitAt_flatMap hid hparts]
    dsimp only
    rw [hread]
    exact bind_eq_ok_iff.mpr ⟨e.filters, hfilters, rfl⟩

theorem carried_of_foldlM {urn : String} {parts : List (List Char)}
    (hparts : ∀ part ∈ parts, ':' ∉ part) {filters filters' : Filters} (h : Carried filters)
    (hfold : parts.foldlM (addFilter urn) filters = .ok filters') : Carried filters' := by
  induction parts generalizing filters with
  | nil =>
      cases hfold
      exact h
  | cons part parts ih =>
      rw [List.forall_mem_cons] at hparts
      rw [List.foldlM_cons] at hfold
      obtain ⟨next, hnext, hfold⟩ := bind_eq_ok_iff.mp hfold
      obtain ⟨key, value, rfl, hne, hnot, rfl⟩ := addFilter_eq_ok_iff.mp hnext
      have hcolon := hparts.1
      simp only [List.mem_append, List.mem_cons, not_or] at hcolon
      exact ih hparts.2 (carried_add h ⟨hne, hcolon.1, hnot⟩ hcolon.2.2) hfold

theorem carried_nil : Carried [] where
  once := List.nodup_nil
  names := by simp
  values := by simp

theorem carried_of_ofUrn {urn : String} {e : MetricEntity} (h : ofUrn urn = .ok e) :
    Carried e.filters := by
  obtain ⟨_, parts, -, -, hparts, -, hfold⟩ := ofUrn_eq_ok_iff.mp h
  exact carried_of_foldlM hparts carried_nil hfold

theorem natAbs_id_lt_of_ofUrn {urn : String} {e : MetricEntity} (h : ofUrn urn = .ok e) :
    e.id.natAbs < 10 ^ maxDigits := by
  obtain ⟨_, _, -, -, -, hread, -⟩ := ofUrn_eq_ok_iff.mp h
  exact natAbs_lt_of_integer? hread

def partsOf (filters : Filters) : List (List Char) :=
  filters.flatMap fun entry => entry.2.map fun value => entry.1.toList ++ '=' :: value.toList

theorem toList_toUrn (e : MetricEntity) :
    (toUrn e).toList =
      urnStart.toList ++
        ((toString e.id).toList ++ (partsOf e.filters.sorted).flatMap (':' :: ·)) := by
  simp only [toUrn, String.toList_append, String.toList_join, partsOf, List.flatMap_assoc,
    List.flatMap_map, List.append_assoc]
  rfl

theorem colon_notMem_partsOf {filters : Filters} (h : Carried filters) :
    ∀ part ∈ partsOf filters, ':' ∉ part := by
  intro part hpart
  obtain ⟨entry, hentry, hpart⟩ := List.mem_flatMap.mp hpart
  obtain ⟨value, hvalue, rfl⟩ := List.mem_map.mp hpart
  have hname := (h.names entry hentry).2.1
  have hcolon := (h.values entry hentry).2 value hvalue
  simp [hname, hcolon]

theorem foldlM_values (urn : String) {done : Filters} {key : String} (hne : key ≠ "")
    (hnot : '=' ∉ key.toList) (hnew : key ∉ done.map Prod.fst) (before values : List String) :
    (values.map fun value => key.toList ++ '=' :: value.toList).foldlM (addFilter urn)
        (done ++ [(key, before)]) = .ok (done ++ [(key, before ++ values)]) := by
  induction values generalizing before with
  | nil => simp; rfl
  | cons value values ih =>
      have hadd : (done ++ [(key, before)]).add key value = done ++ [(key, before ++ [value])] := by
        rw [add_append hnew, Filters.add, if_pos rfl]
      rw [List.map_cons, List.foldlM_cons,
        addFilter_eq_ok_iff.mpr ⟨key, value, rfl, hne, hnot, hadd.symm⟩]
      change List.foldlM _ _ _ = _
      rw [ih, List.append_assoc]
      rfl

theorem foldlM_partsOf (urn : String) {done filters : Filters} (h : Carried (done ++ filters)) :
    (partsOf filters).foldlM (addFilter urn) done = .ok (done ++ filters) := by
  induction filters generalizing done with
  | nil => rw [List.append_nil]; rfl
  | cons entry rest ih =>
      obtain ⟨key, values⟩ := entry
      have hentry : (key, values) ∈ done ++ (key, values) :: rest := by simp
      obtain ⟨hne, -, hnot⟩ := h.names _ hentry
      obtain ⟨first, more, rfl⟩ := List.exists_cons_of_ne_nil (h.values _ hentry).1
      have hnew : key ∉ done.map Prod.fst := by
        have honce := h.once
        rw [List.map_append, List.nodup_append] at honce
        exact fun hmem => honce.2.2 key hmem key (by simp) rfl
      have hadd : done.add key first = done ++ [(key, [first])] := by
        simpa only [List.append_nil, Filters.add] using add_append hnew []
      rw [partsOf, List.flatMap_cons, List.map_cons, List.cons_append, List.foldlM_cons,
        addFilter_eq_ok_iff.mpr ⟨key, first, rfl, hne, hnot, hadd.symm⟩]
      change List.foldlM _ _ _ = _
      rw [List.foldlM_append, foldlM_values urn hne hnot hnew]
      change List.foldlM _ _ (partsOf rest) = _
      rw [ih (by simpa using h), List.append_assoc]
      rfl

/-- The written form of an id and filters is read as that id and the filters in order. -/
theorem ofUrn_toUrn {e : MetricEntity} (hfilters : Carried e.filters)
    (hid : e.id.natAbs < 10 ^ maxDigits) : ofUrn (toUrn e) = .ok ⟨e.id, e.filters.sorted⟩ := by
  have hsorted := carried_sorted hfilters
  have hcolon : ':' ∉ (toString e.id).toList := fun hmem => by
    rcases isDigit_of_mem_toString hmem with h | h <;> cases h
  exact ofUrn_eq_ok_iff.mpr ⟨_, _, toList_toUrn e, hcolon, colon_notMem_partsOf hsorted,
    integer?_toString hid, foldlM_partsOf _ ((List.nil_append _).symm ▸ hsorted)⟩

theorem toUrn_eq_iff {e e' : MetricEntity} (hfilters : Carried e.filters)
    (hfilters' : Carried e'.filters) (hid : e.id.natAbs < 10 ^ maxDigits)
    (hid' : e'.id.natAbs < 10 ^ maxDigits) :
    toUrn e = toUrn e' ↔
      e.id = e'.id ∧ ∀ key, e.filters.lookup key = e'.filters.lookup key := by
  rw [← sorted_eq_iff hfilters.once hfilters'.once]
  constructor
  · intro htext
    have hread := ofUrn_toUrn hfilters hid
    rw [htext, ofUrn_toUrn hfilters' hid'] at hread
    obtain ⟨hsame, hsorted⟩ := MetricEntity.mk.inj (Except.ok.inj hread)
    exact ⟨hsame.symm, hsorted.symm⟩
  · rintro ⟨hid, hsorted⟩
    rw [toUrn, toUrn, hid, hsorted]

/-- The written form of an id and of filters that a URN can carry is read as that id and the same
map, with the values of every dimension in order; whatever is accepted is read as such an id and
such filters; and two accepted texts have one written form exactly if they mean the same id and the
same map. -/
theorem urn_roundTrip :
    (∀ e : MetricEntity, Carried e.filters → e.id.natAbs < 10 ^ maxDigits →
      ∃ read, ofUrn (toUrn e) = .ok read ∧ read.id = e.id ∧
        ∀ key, read.filters.lookup key = e.filters.lookup key) ∧
    (∀ urn e, ofUrn urn = .ok e → Carried e.filters ∧ e.id.natAbs < 10 ^ maxDigits) ∧
    (∀ urn urn' e e', ofUrn urn = .ok e → ofUrn urn' = .ok e' →
      (toUrn e = toUrn e' ↔
        e.id = e'.id ∧ ∀ key, e.filters.lookup key = e'.filters.lookup key)) := by
  refine ⟨fun e hfilters hid => ?_, fun urn e h => ?_, fun urn urn' e e' h h' => ?_⟩
  · exact ⟨_, ofUrn_toUrn hfilters hid, rfl, lookup_sorted hfilters.once⟩
  · exact ⟨carried_of_ofUrn h, natAbs_id_lt_of_ofUrn h⟩
  · exact toUrn_eq_iff (carried_of_ofUrn h) (carried_of_ofUrn h') (natAbs_id_lt_of_ofUrn h)
      (natAbs_id_lt_of_ofUrn h')

/-- Two texts of one meaning: keys that come up in turns, an id with blanks and an underscore, and
values that are empty or hold an equals sign. -/
theorem interleaved_roundTrip :
    let e : MetricEntity := ⟨12, [("b", ["x=y", ""]), ("a", ["="])]⟩
    let e' : MetricEntity := ⟨12, [("a", ["="]), ("b", ["x=y", ""])]⟩
    ofUrn "slidewatch:metric: 1_2 :b=x=y:a==:b=" = .ok e ∧
    ofUrn "slidewatch:metric:12:a==:b=x=y:b=" = .ok e' ∧
    (Carried e.filters ∧ e.id.natAbs < 10 ^ maxDigits) ∧
    (∃ read, ofUrn (toUrn e) = .ok read ∧ read.id = e.id ∧
      ∀ key, read.filters.lookup key = e.filters.lookup key) ∧
    (toUrn e = toUrn e' ↔
      e.id = e'.id ∧ ∀ key, e.filters.lookup key = e'.filters.lookup key) := by
  intro e e'
  have h : ofUrn "slidewatch:metric: 1_2 :b=x=y:a==:b=" = .ok e := by rfl
  have h' : ofUrn "slidewatch:metric:12:a==:b=x=y:b=" = .ok e' := by rfl
  have hcarried := urn_roundTrip.2.1 _ e h
  exact ⟨h, h', hcarried, urn_roundTrip.1 e hcarried.1 hcarried.2,
    urn_roundTrip.2.2 _ _ e e' h h'⟩

end AnomalyWindows.Proofs.UrnRoundTrip
