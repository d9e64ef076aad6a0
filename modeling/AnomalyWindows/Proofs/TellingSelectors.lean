import AnomalyWindows.Metric.Selector
import AnomalyWindows.Proofs.UrnRoundTrip

namespace AnomalyWindows.Proofs.TellingSelectors

open Text Filters MetricEntity
open AnomalyWindows.Proofs.FilterMaps AnomalyWindows.Proofs.UrnRoundTrip

/-- The dimensions are the same, and each has the same values but for their order and number. -/
def SameChoices (filters filters' : Filters) : Prop :=
  ∀ key, Option.Rel (fun values values' => ∀ value, value ∈ values ↔ value ∈ values')
    (filters.lookup key) (filters'.lookup key)

/-- The characters allowed in the values of a dimension: some for a value that is alone, some for
values that are among several. -/
def allowed (alone among : Char → Prop) (values : List String) : Char → Prop :=
  if values.length = 1 then alone else among

def Spelled (alone among : Char → Prop) (filters : Filters) : Prop :=
  ∀ entry ∈ filters, ∀ value ∈ entry.2, ∀ c ∈ value.toList, allowed alone among entry.2 c

/-- Filters of two URNs, spelled so, have one selector only if they are the same choices. -/
def TellsApart (metric : Metric) (alone among : Char → Prop) : Prop :=
  ∀ urn urn' e e', ofUrn urn = .ok e → ofUrn urn' = .ok e' →
    Spelled alone among e.filters → Spelled alone among e'.filters →
    metric.selector e.filters = metric.selector e'.filters →
    SameChoices e.filters e'.filters

/-- Characters between which the end of a value and the bars between values can be seen. -/
structure Clear (alone among : Char → Prop) : Prop where
  bar : ¬among '|'
  alone : ¬alone '"' ∨ ¬alone ','
  among : ¬among '"' ∨ ¬among ','

theorem sameChoices_of_lookup_eq {filters filters' : Filters}
    (h : ∀ key, filters.lookup key = filters'.lookup key) : SameChoices filters filters' := by
  intro key
  rw [h key]
  cases filters'.lookup key with
  | none => exact .none
  | some values => exact .some fun _ => Iff.rfl

def quoted (values : List String) : List Char :=
  ['|'].intercalate (values.map String.toList)

theorem toList_matcher (key : String) (values : List String) :
    (matcher key values).toList =
      key.toList ++ '=' :: ((if values.length = 1 then [] else ['~']) ++
        '"' :: (quoted values ++ ['"'])) := by
  unfold matcher
  split
  · simp [quoted, List.intercalate]
  · next hlone =>
      have hlength : values.length ≠ 1 := fun h =>
        let ⟨value, hvalue⟩ := List.length_eq_one_iff.mp h
        hlone value hvalue
      simp [quoted, String.toList_intercalate, hlength]

theorem quoted_cons (value : String) (values : List String) :
    quoted (value :: values) =
      value.toList ++ (values.map String.toList).flatMap ('|' :: ·) := by
  induction values generalizing value with
  | nil => simp [quoted, List.intercalate]
  | cons next values ih =>
      rw [quoted, List.map_cons, List.map_cons, List.intercalate_cons_cons, List.flatMap_cons]
      change _ ++ quoted (next :: values) = _
      rw [ih, List.append_assoc]
      rfl

theorem mem_quoted {values : List String} {c : Char} (h : c ∈ quoted values) :
    (values.length ≠ 1 ∧ c = '|') ∨ ∃ value ∈ values, c ∈ value.toList := by
  cases values with
  | nil => cases h
  | cons first rest =>
      rw [quoted_cons, List.mem_append, List.mem_flatMap] at h
      rcases h with h | ⟨text, htext, h⟩
      · exact .inr ⟨first, List.mem_cons_self .., h⟩
      · obtain ⟨value, hvalue, rfl⟩ := List.mem_map.mp htext
        rcases List.mem_cons.mp h with rfl | h
        · refine .inl ⟨fun hlength => ?_, rfl⟩
          obtain rfl : rest = [] := by simpa using hlength
          cases hvalue
        · exact .inr ⟨value, List.mem_cons_of_mem _ hvalue, h⟩

def labels (filters : Filters) : List Char :=
  filters.flatMap fun entry => ',' :: (matcher entry.1 entry.2).toList

theorem cons_intercalate_matchers {filters : Filters} (h : filters ≠ []) :
    ',' :: (",".intercalate filters.matchers).toList = labels filters.sorted := by
  have hsorted : filters.sorted ≠ [] := fun hnil => h ((hnil ▸ perm_sorted filters).nil_eq).symm
  rw [String.toList_intercalate, matchers]
  generalize filters.sorted = ordered at hsorted ⊢
  induction ordered with
  | nil => exact absurd rfl hsorted
  | cons entry rest ih =>
      cases rest with
      | nil => simp [labels, List.intercalate]
      | cons next rest =>
          rw [labels, List.flatMap_cons, ← labels, ← ih (by simp)]
          simp [List.intercalate_cons_cons]

theorem selector_of_plain {metric : Metric} (hplain : metric.base.toList.getLast? ≠ some '\x7d')
    {filters : Filters} (h : filters ≠ []) :
    metric.selector filters = .ok (Metric.labelled metric.base filters.matchers) := by
  rw [Metric.selector, if_neg (by simpa using h)]
  dsimp only
  rw [if_neg hplain]

theorem toList_labelled (text : String) (labels : List String) :
    (Metric.labelled text labels).toList =
      text.toList ++ '\x7b' :: ((",".intercalate labels).toList ++ ['\x7d']) := by
  simp [Metric.labelled]

theorem labelled_inj {text : String} {labels labels' : List String} :
    Metric.labelled text labels = Metric.labelled text labels' ↔
      ",".intercalate labels = ",".intercalate labels' := by
  simp [← String.toList_inj, toList_labelled]

theorem labelled_ne (text : String) (labels : List String) :
    Metric.labelled text labels ≠ text := by
  simp [← String.toList_inj, toList_labelled]

theorem selector_eq_iff {metric : Metric} (hplain : metric.base.toList.getLast? ≠ some '\x7d')
    {filters filters' : Filters} :
    metric.selector filters = metric.selector filters' ↔
      labels filters.sorted = labels filters'.sorted := by
  have hbase : metric.selector [] = .ok metric.base := rfl
  have hnil : labels (sorted []) = [] := by simp [sorted, labels]
  rcases eq_or_ne filters [] with rfl | hne
  · rcases eq_or_ne filters' [] with rfl | hne'
    · simp
    · rw [selector_of_plain hplain hne', hbase, hnil, ← cons_intercalate_matchers hne',
        Except.ok.injEq]
      simp [(labelled_ne metric.base filters'.matchers).symm]
  · rcases eq_or_ne filters' [] with rfl | hne'
    · rw [selector_of_plain hplain hne, hbase, hnil, ← cons_intercalate_matchers hne,
        Except.ok.injEq]
      simp [labelled_ne]
    · rw [selector_of_plain hplain hne, selector_of_plain hplain hne',
        ← cons_intercalate_matchers hne, ← cons_intercalate_matchers hne', Except.ok.injEq,
        labelled_inj, List.cons.injEq, String.toList_inj, and_iff_right rfl]

theorem append_separator_inj {c : Char} {part part' rest rest' : List Char} (hpart : c ∉ part)
    (hpart' : c ∉ part') (h : part ++ c :: rest = part' ++ c :: rest') :
    part = part' ∧ rest = rest' := by
  have hspan := congrArg (List.span (· != c)) h
  rw [span_ne_of_not_mem hpart, span_ne_of_not_mem hpart'] at hspan
  simpa using hspan

/-- A quoted text in front of a comma or of nothing is told by its first quote if it holds none, and
by the first comma if it holds no comma. -/
theorem append_quote_inj {text text' rest rest' : List Char} (hrest : ∀ c ∈ rest.head?, c = ',')
    (hrest' : ∀ c ∈ rest'.head?, c = ',')
    (hclear : ('"' ∉ text ∧ '"' ∉ text') ∨ (',' ∉ text ∧ ',' ∉ text'))
    (h : text ++ '"' :: rest = text' ++ '"' :: rest') : text = text' ∧ rest = rest' := by
  rcases hclear with ⟨htext, htext'⟩ | ⟨htext, htext'⟩
  · exact append_separator_inj htext htext' h
  · have hclosed : ',' ∉ text ++ ['"'] := by simp [htext]
    have hclosed' : ',' ∉ text' ++ ['"'] := by simp [htext']
    rw [← List.singleton_append, ← List.append_assoc, ← List.singleton_append (l := rest'),
      ← List.append_assoc] at h
    cases rest with
    | nil =>
        cases rest' with
        | nil => simpa using h
        | cons c' rest' =>
            obtain rfl := hrest' c' rfl
            rw [List.append_nil] at h
            exact absurd (h ▸ List.mem_append_right _ (List.mem_cons_self ..)) hclosed
    | cons c rest =>
        obtain rfl := hrest c rfl
        cases rest' with
        | nil =>
            rw [List.append_nil] at h
            exact absurd (h ▸ List.mem_append_right _ (List.mem_cons_self ..)) hclosed'
        | cons c' rest' =>
            obtain rfl := hrest' c' rfl
            obtain ⟨htexts, rfl⟩ := append_separator_inj hclosed hclosed' h
            exact ⟨List.append_cancel_right htexts, rfl⟩

theorem head?_labels (filters : Filters) : ∀ c ∈ (labels filters).head?, c = ',' := by
  cases filters with
  | nil => simp [labels]
  | cons entry rest => simp [labels]

section

variable {alone among : Char → Prop}

theorem Clear.ends (h : Clear alone among) (values : List String) :
    ¬allowed alone among values '"' ∨ ¬allowed alone among values ',' := by
  rw [allowed]
  split
  · exact h.alone
  · exact h.among

/-- A dimension that can be read back from its label. -/
structure Readable (alone among : Char → Prop) (entry : String × List String) : Prop where
  name : '=' ∉ entry.1.toList
  nonempty : entry.2 ≠ []
  spelled : ∀ value ∈ entry.2, ∀ c ∈ value.toList, allowed alone among entry.2 c

theorem notMem_quoted {entry : String × List String} (h : Readable alone among entry) {c : Char}
    (hc : c ≠ '|') (hnot : ¬allowed alone among entry.2 c) : c ∉ quoted entry.2 := fun hmem => by
  rcases mem_quoted hmem with ⟨-, hbar⟩ | ⟨value, hvalue, hmem⟩
  · exact hc hbar
  · exact hnot (h.spelled value hvalue c hmem)

theorem bar_notMem (hclear : Clear alone among) {entry : String × List String}
    (h : Readable alone among entry) (hseveral : entry.2.length ≠ 1) :
    ∀ text ∈ entry.2.map String.toList, '|' ∉ text := by
  intro text htext hmem
  obtain ⟨value, hvalue, rfl⟩ := List.mem_map.mp htext
  have hallowed := h.spelled value hvalue _ hmem
  rw [allowed, if_neg hseveral] at hallowed
  exact hclear.bar hallowed

theorem splitAt_quoted {values : List String} (hne : values ≠ [])
    (hbar : ∀ text ∈ values.map String.toList, '|' ∉ text) :
    splitAt '|' (quoted values) = values.map String.toList := by
  obtain ⟨first, rest, rfl⟩ := List.exists_cons_of_ne_nil hne
  rw [List.map_cons, List.forall_mem_cons] at hbar
  rw [quoted_cons, splitAt_flatMap hbar.1 hbar.2, List.map_cons]

theorem quoted_inj (hclear : Clear alone among) {entry entry' : String × List String}
    (hentry : Readable alone among entry) (hentry' : Readable alone among entry')
    (hlength : entry.2.length = 1 ↔ entry'.2.length = 1)
    (h : quoted entry.2 = quoted entry'.2) : entry.2 = entry'.2 := by
  by_cases hone : entry.2.length = 1
  · obtain ⟨value, hvalue⟩ := List.length_eq_one_iff.mp hone
    obtain ⟨value', hvalue'⟩ := List.length_eq_one_iff.mp (hlength.mp hone)
    rw [hvalue, hvalue', quoted_cons, quoted_cons] at h
    simpa [hvalue, hvalue', String.toList_inj] using h
  · have hsplit := congrArg (splitAt '|') h
    rw [splitAt_quoted hentry.nonempty (bar_notMem hclear hentry hone),
      splitAt_quoted hentry'.nonempty (bar_notMem hclear hentry' (mt hlength.mpr hone))] at hsplit
    exact List.map_injective_iff.mpr (fun _ _ => String.toList_inj.mp) hsplit

theorem matcher_append_inj (hclear : Clear alone among) {entry entry' : String × List String}
    (hentry : Readable alone among entry) (hentry' : Readable alone among entry')
    {rest rest' : List Char} (hrest : ∀ c ∈ rest.head?, c = ',')
    (hrest' : ∀ c ∈ rest'.head?, c = ',')
    (h : (matcher entry.1 entry.2).toList ++ rest = (matcher entry'.1 entry'.2).toList ++ rest') :
    entry = entry' ∧ rest = rest' := by
  simp only [toList_matcher, List.append_assoc, List.cons_append] at h
  obtain ⟨hkey, h⟩ := append_separator_inj hentry.name hentry'.name h
  have hmarks : (entry.2.length = 1 ↔ entry'.2.length = 1) ∧
      quoted entry.2 ++ '"' :: rest = quoted entry'.2 ++ '"' :: rest' := by
    split at h <;> split at h
    · next hone hone' => exact ⟨iff_of_true hone hone', by simpa using h⟩
    · simp at h
    · simp at h
    · next hone hone' => exact ⟨iff_of_false hone hone', by simpa using h⟩
  obtain ⟨hlength, hquoted⟩ := hmarks
  have hsame : allowed alone among entry.2 = allowed alone among entry'.2 := by
    simp only [allowed, hlength]
  have hends : ('"' ∉ quoted entry.2 ∧ '"' ∉ quoted entry'.2) ∨
      (',' ∉ quoted entry.2 ∧ ',' ∉ quoted entry'.2) := by
    refine (hclear.ends entry.2).imp (fun hnot => ?_) (fun hnot => ?_)
    · exact ⟨notMem_quoted hentry (by decide) hnot,
        notMem_quoted hentry' (by decide) (hsame ▸ hnot)⟩
    · exact ⟨notMem_quoted hentry (by decide) hnot,
        notMem_quoted hentry' (by decide) (hsame ▸ hnot)⟩
  obtain ⟨htext, hrests⟩ := append_quote_inj hrest hrest' hends hquoted
  exact ⟨Prod.ext (String.toList_inj.mp hkey) (quoted_inj hclear hentry hentry' hlength htext),
    hrests⟩

theorem labels_inj (hclear : Clear alone among) {filters filters' : Filters}
    (h : ∀ entry ∈ filters, Readable alone among entry)
    (h' : ∀ entry ∈ filters', Readable alone among entry)
    (hlabels : labels filters = labels filters') : filters = filters' := by
  induction filters generalizing filters' with
  | nil =>
      cases filters' with
      | nil => rfl
      | cons entry' rest' => simp [labels] at hlabels
  | cons entry rest ih =>
      cases filters' with
      | nil => simp [labels] at hlabels
      | cons entry' rest' =>
          rw [List.forall_mem_cons] at h h'
          rw [labels, labels, List.flatMap_cons, List.flatMap_cons, List.cons_append,
            List.cons_append, List.cons.injEq] at hlabels
          obtain ⟨rfl, hrest⟩ := matcher_append_inj hclear h.1 h'.1 (head?_labels rest)
            (head?_labels rest') hlabels.2
          rw [ih h.2 h'.2 hrest]

theorem readable_sorted {filters : Filters} (hcarried : Carried filters)
    (hspelled : Spelled alone among filters) :
    ∀ entry ∈ filters.sorted, Readable alone among entry :=
  fun entry hentry =>
    have hmem := (perm_sorted filters).mem_iff.mp hentry
    ⟨(hcarried.names entry hmem).2.2, (hcarried.values entry hmem).1, hspelled entry hmem⟩

theorem lookup_eq_of_selector_eq {metric : Metric}
    (hplain : metric.base.toList.getLast? ≠ some '\x7d') (hclear : Clear alone among)
    {filters filters' : Filters} (h : Carried filters) (h' : Carried filters')
    (hspelled : Spelled alone among filters) (hspelled' : Spelled alone among filters')
    (hselector : metric.selector filters = metric.selector filters') (key : String) :
    filters.lookup key = filters'.lookup key := by
  have hsorted := labels_inj hclear (readable_sorted h hspelled) (readable_sorted h' hspelled')
    ((selector_eq_iff hplain).mp hselector)
  exact (sorted_eq_iff h.once h'.once).mp hsorted key

theorem not_sameChoices {filters filters' : Filters} (key value : String)
    {values values' : List String} (hkey : filters.lookup key = some values)
    (hkey' : filters'.lookup key = some values') (hvalue : value ∈ values)
    (hvalue' : value ∉ values') : ¬SameChoices filters filters' := by
  intro hsame
  have hchoices := hsame key
  rw [hkey, hkey'] at hchoices
  cases hchoices with
  | some hvalues => exact hvalue' ((hvalues value).mp hvalue)

theorem not_spelled_of_tellsApart {metric : Metric}
    (hplain : metric.base.toList.getLast? ≠ some '\x7d') (h : TellsApart metric alone among)
    {urn urn' : String} {e e' : MetricEntity} (hread : ofUrn urn = .ok e)
    (hread' : ofUrn urn' = .ok e') (hordered : e.filters.Pairwise fun a b => a.1 ≤ b.1)
    (hordered' : e'.filters.Pairwise fun a b => a.1 ≤ b.1)
    (hlabels : labels e.filters = labels e'.filters)
    (hother : ¬SameChoices e.filters e'.filters) :
    ¬(Spelled alone among e.filters ∧ Spelled alone among e'.filters) := by
  rintro ⟨hspelled, hspelled'⟩
  refine hother (h urn urn' e e' hread hread' hspelled hspelled' ((selector_eq_iff hplain).mpr ?_))
  rw [sorted_of_pairwise hordered, sorted_of_pairwise hordered', hlabels]

theorem bar_of_tellsApart {metric : Metric} (hplain : metric.base.toList.getLast? ≠ some '\x7d')
    (h : TellsApart metric alone among) : ¬among '|' := by
  intro hbar
  let e : MetricEntity := ⟨1, [("a", ["||", ""])]⟩
  let e' : MetricEntity := ⟨1, [("a", ["|", "|"])]⟩
  have hread : ofUrn "slidewatch:metric:1:a=||:a=" = .ok e := rfl
  have hread' : ofUrn "slidewatch:metric:1:a=|:a=|" = .ok e' := rfl
  have hlabels : labels e.filters = labels e'.filters := by rfl
  have hother : ¬SameChoices e.filters e'.filters :=
    not_sameChoices "a" "||" rfl rfl (by simp) (by simp)
  refine not_spelled_of_tellsApart hplain h hread hread' (by simp [e]) (by simp [e']) hlabels
    hother ⟨?_, ?_⟩
  · simp [Spelled, allowed, e, hbar]
  · simp [Spelled, allowed, e', hbar]

theorem alone_of_tellsApart {metric : Metric}
    (hplain : metric.base.toList.getLast? ≠ some '\x7d') (h : TellsApart metric alone among) :
    ¬alone '"' ∨ ¬alone ',' := by
  refine not_and_or.mp fun ⟨hquote, hcomma⟩ => ?_
  let e : MetricEntity := ⟨1, [("!", ["\","]), ("z", [""])]⟩
  let e' : MetricEntity := ⟨1, [("!", [""]), ("\",z", [""])]⟩
  have hread : ofUrn "slidewatch:metric:1:!=\",:z=" = .ok e := rfl
  have hread' : ofUrn "slidewatch:metric:1:!=:\",z=" = .ok e' := rfl
  have hlabels : labels e.filters = labels e'.filters := by rfl
  have hother : ¬SameChoices e.filters e'.filters :=
    not_sameChoices "!" "\"," rfl rfl (by simp) (by simp)
  refine not_spelled_of_tellsApart hplain h hread hread' (by simp [e]) (by simp [e']) hlabels
    hother ⟨?_, ?_⟩
  · simp [Spelled, allowed, e, hquote, hcomma]
  · simp [Spelled, allowed, e']

theorem among_of_tellsApart {metric : Metric}
    (hplain : metric.base.toList.getLast? ≠ some '\x7d') (h : TellsApart metric alone among) :
    ¬among '"' ∨ ¬among ',' := by
  refine not_and_or.mp fun ⟨hquote, hcomma⟩ => ?_
  let e : MetricEntity := ⟨1, [("!", ["", "\","]), ("z", ["", ""])]⟩
  let e' : MetricEntity := ⟨1, [("!", ["", ""]), ("\",z", ["", ""])]⟩
  have hread : ofUrn "slidewatch:metric:1:!=:!=\",:z=:z=" = .ok e := rfl
  have hread' : ofUrn "slidewatch:metric:1:!=:!=:\",z=:\",z=" = .ok e' := rfl
  have hlabels : labels e.filters = labels e'.filters := by rfl
  have hother : ¬SameChoices e.filters e'.filters :=
    not_sameChoices "!" "\"," rfl rfl (by simp) (by simp)
  refine not_spelled_of_tellsApart hplain h hread hread' (by simp [e]) (by simp [e']) hlabels
    hother ⟨?_, ?_⟩
  · simp [Spelled, allowed, e, hquote, hcomma]
  · simp [Spelled, allowed, e']

end

/-- In a plain metric, filters that URNs carry are told apart by their selectors exactly if values
among several hold no bar, and neither these values nor those that are alone may hold both quotes
and commas. -/
theorem tellsApart_iff {metric : Metric} (hplain : metric.base.toList.getLast? ≠ some '\x7d')
    (alone among : Char → Prop) : TellsApart metric alone among ↔ Clear alone among := by
  constructor
  · intro h
    exact ⟨bar_of_tellsApart hplain h, alone_of_tellsApart hplain h, among_of_tellsApart hplain h⟩
  · intro hclear urn urn' e e' hread hread' hspelled hspelled' hselector
    exact sameChoices_of_lookup_eq (lookup_eq_of_selector_eq hplain hclear
      (carried_of_ofUrn hread) (carried_of_ofUrn hread') hspelled hspelled' hselector)

/-- Values without quotes, and without bars if they are among several, are told apart. -/
theorem quoteless_tellsApart :
    let visits : Metric := ⟨1, "visits", "site", none⟩
    visits.base.toList.getLast? ≠ some '\x7d' ∧
      Clear (· ≠ '"') (fun c => c ≠ '"' ∧ c ≠ '|') ∧
      TellsApart visits (· ≠ '"') fun c => c ≠ '"' ∧ c ≠ '|' := by
  intro visits
  have hplain : visits.base.toList.getLast? ≠ some '\x7d' := by decide
  have hclear : Clear (· ≠ '"') fun c => c ≠ '"' ∧ c ≠ '|' :=
    ⟨by simp, .inl (by simp), .inl (by simp)⟩
  exact ⟨hplain, hclear, (tellsApart_iff hplain _ _).mpr hclear⟩

theorem quote_taken_for_matcher :
    let visits : Metric := ⟨1, "visits", "site", none⟩
    let e : MetricEntity := ⟨1, [("country", ["us\",region=\"west"])]⟩
    let e' : MetricEntity := ⟨1, [("country", ["us"]), ("region", ["west"])]⟩
    ofUrn "slidewatch:metric:1:country=us\",region=\"west" = .ok e ∧
      ofUrn "slidewatch:metric:1:country=us:region=west" = .ok e' ∧
      visits.selector e.filters = .ok "visits\x7bcountry=\"us\",region=\"west\"\x7d" ∧
      visits.selector e'.filters = .ok "visits\x7bcountry=\"us\",region=\"west\"\x7d" ∧
      ¬SameChoices e.filters e'.filters := by
  intro visits e e'
  have hplain : visits.base.toList.getLast? ≠ some '\x7d' := by decide
  have hselector : visits.selector e.filters =
      .ok (Metric.labelled "visits" ["country=\"us\",region=\"west\""]) := by
    rw [selector_of_plain hplain (List.cons_ne_nil _ _), matchers,
      sorted_of_pairwise (List.pairwise_singleton _ _)]
    rfl
  have hselector' : visits.selector e'.filters =
      .ok (Metric.labelled "visits" ["country=\"us\"", "region=\"west\""]) := by
    rw [selector_of_plain hplain (List.cons_ne_nil _ _), matchers,
      sorted_of_pairwise (by simp)]
    rfl
  have hother : ¬SameChoices e.filters e'.filters :=
    not_sameChoices "country" "us\",region=\"west" rfl rfl (by simp) (by simp)
  exact ⟨rfl, rfl, hselector.trans (by rfl), hselector'.trans (by rfl), hother⟩

end AnomalyWindows.Proofs.TellingSelectors
