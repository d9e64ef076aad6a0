import AnomalyWindows.Data.Order
import AnomalyWindows.Validation.Models
import Mathlib.Data.List.Sort

namespace AnomalyWindows.Proofs.SortedData

open AnomalyWindows.Data

theorem sortedItems_eq_map (items : List Data) : sortedItems items = items.map sorted := by
  induction items with
  | nil => rfl
  | cons item rest ih => rw [sortedItems, ih, List.map_cons]

theorem sortedValues_eq_map (entries : List (Data × Data)) :
    sortedValues entries = entries.map fun entry => (entry.1, sorted entry.2) := by
  induction entries with
  | nil => rfl
  | cons entry rest ih => rw [sortedValues, ih, List.map_cons]

theorem haveOrder_of_perm {entries entries' : List (Data × Data)} (h : entries.Perm entries') :
    haveOrder entries = haveOrder entries' := by
  simp only [haveOrder, h.all_eq]

theorem haveOrder_sortedValues (entries : List (Data × Data)) :
    haveOrder (sortedValues entries) = haveOrder entries := by
  simp only [haveOrder, sortedValues_eq_map, List.all_map, Function.comp_def]

instance : IsTrans (Data × Data) Precedes :=
  ⟨fun _ _ _ => List.le_trans⟩

instance : Std.Total Precedes :=
  ⟨fun a b => List.le_total (keyPlace a.1) (keyPlace b.1)⟩

theorem insertEntry_eq (entry : Data × Data) (entries : List (Data × Data)) :
    insertEntry entry entries = entries.orderedInsert Precedes entry := by
  induction entries with
  | nil => rfl
  | cons first rest ih => rw [insertEntry, List.orderedInsert_cons, ih]

theorem foldr_insertEntry (entries : List (Data × Data)) :
    entries.foldr insertEntry [] = entries.insertionSort Precedes := by
  rw [funext₂ insertEntry_eq]
  rfl

theorem perm_inOrder (entries : List (Data × Data)) : (inOrder entries).Perm entries := by
  rw [inOrder]
  split
  · exact foldr_insertEntry entries ▸ List.perm_insertionSort _ entries
  · exact List.Perm.refl entries

theorem inOrder_inOrder (entries : List (Data × Data)) :
    inOrder (inOrder entries) = inOrder entries := by
  rw [inOrder, haveOrder_of_perm (perm_inOrder entries)]
  split
  · next horder =>
      rw [inOrder, if_pos horder, foldr_insertEntry, foldr_insertEntry]
      exact (List.pairwise_insertionSort Precedes entries).insertionSort_eq
  · rfl

theorem inOrder_sortedValues (entries : List (Data × Data)) :
    inOrder (sortedValues entries) = sortedValues (inOrder entries) := by
  rw [inOrder, inOrder, haveOrder_sortedValues]
  split
  · rw [foldr_insertEntry, foldr_insertEntry, sortedValues_eq_map, sortedValues_eq_map]
    refine (List.map_insertionSort Precedes Precedes
      (fun entry : Data × Data => (entry.1, entry.2.sorted)) entries ?_).symm
    exact fun _ _ _ _ => Iff.rfl
  · rfl

mutual

theorem sorted_sorted : (data : Data) → data.sorted.sorted = data.sorted
  | .list items => by rw [sorted, sorted, sortedItems_sortedItems items]
  | .pair key value => by rw [sorted, sorted, sorted_sorted key, sorted_sorted value]
  | .map entries => by
      rw [sorted, sorted, ← inOrder_sortedValues, inOrder_inOrder,
        sortedValues_sortedValues entries]
  | .null | .bool _ | .int _ | .float _ | .text _ | .date _ | .moment _ => rfl

theorem sortedItems_sortedItems : (items : List Data) →
    sortedItems (sortedItems items) = sortedItems items
  | [] => rfl
  | item :: rest => by
      rw [sortedItems, sortedItems, sorted_sorted item, sortedItems_sortedItems rest]

theorem sortedValues_sortedValues : (entries : List (Data × Data)) →
    sortedValues (sortedValues entries) = sortedValues entries
  | [] => rfl
  | (key, value) :: rest => by
      rw [sortedValues, sortedValues, sorted_sorted value, sortedValues_sortedValues rest]

end

theorem entriesAll_eq (p : Data → Bool) (entries : List (Data × Data)) :
    entriesAll p entries = entries.all fun entry => entry.1.all p && entry.2.all p := by
  induction entries with
  | nil => rfl
  | cons entry rest ih => rw [entriesAll, ih, List.all_cons]

theorem itemsAll_eq (p : Data → Bool) (items : List Data) :
    itemsAll p items = items.all fun item => item.all p := by
  induction items with
  | nil => rfl
  | cons item rest ih => rw [itemsAll, ih, List.all_cons]

mutual

theorem all_sorted {p : Data → Bool} (hp : ∀ data : Data, p data.sorted = p data) :
    (data : Data) → data.sorted.all p = data.all p
  | .list items => by
      have hlist := hp (.list items)
      rw [sorted] at hlist ⊢
      rw [Data.all, Data.all, hlist, itemsAll_sortedItems hp items]
  | .pair key value => by
      have hpair := hp (.pair key value)
      rw [sorted] at hpair ⊢
      rw [Data.all, Data.all, hpair, all_sorted hp key, all_sorted hp value]
  | .map entries => by
      have hmap := hp (.map entries)
      rw [sorted] at hmap ⊢
      rw [Data.all, Data.all, hmap, entriesAll_eq, (perm_inOrder _).all_eq, ← entriesAll_eq,
        entriesAll_sortedValues hp entries]
  | .null | .bool _ | .int _ | .float _ | .text _ | .date _ | .moment _ => rfl

theorem itemsAll_sortedItems {p : Data → Bool} (hp : ∀ data : Data, p data.sorted = p data) :
    (items : List Data) → itemsAll p (sortedItems items) = itemsAll p items
  | [] => rfl
  | item :: rest => by
      rw [sortedItems, itemsAll, itemsAll, all_sorted hp item, itemsAll_sortedItems hp rest]

theorem entriesAll_sortedValues {p : Data → Bool} (hp : ∀ data : Data, p data.sorted = p data) :
    (entries : List (Data × Data)) → entriesAll p (sortedValues entries) = entriesAll p entries
  | [] => rfl
  | (key, value) :: rest => by
      rw [sortedValues, entriesAll, entriesAll, all_sorted hp value,
        entriesAll_sortedValues hp rest]

end

theorem isPlain_sorted (data : Data) : data.sorted.isPlain = data.isPlain :=
  all_sorted (fun data => by cases data <;> rfl) data

theorem isKey_text_iff {key : Data} {name : String} :
    key.isKey (.text name) = true ↔ key = .text name := by
  cases key <;> simp [isKey, wholeNumber?]

theorem find?_orderedInsert {p : Data × Data → Bool} {entry : Data × Data}
    (h : ∀ other, p entry = true → p other = true → Precedes entry other)
    (entries : List (Data × Data)) :
    (entries.orderedInsert Precedes entry).find? p = (entry :: entries).find? p := by
  induction entries with
  | nil => rfl
  | cons other rest ih =>
      rw [List.orderedInsert_cons]
      split
      · rfl
      · next hbehind =>
          cases hentry : p entry with
          | true =>
              have hother : p other = false := by
                simpa using fun hother => hbehind (h other hentry hother)
              simp [ih, hentry, hother]
          | false => simp [List.find?_cons, ih, hentry]

theorem find?_insertionSort (name : String) (entries : List (Data × Data)) :
    (entries.insertionSort Precedes).find? (fun entry => entry.1.isKey (.text name)) =
      entries.find? fun entry => entry.1.isKey (.text name) := by
  induction entries with
  | nil => rfl
  | cons entry rest ih =>
      rw [List.insertionSort_cons, find?_orderedInsert, List.find?_cons, List.find?_cons, ih]
      intro other hentry hother
      rw [Precedes, isKey_text_iff.mp hentry, isKey_text_iff.mp hother]
      exact List.le_refl _

theorem named?_inOrder (name : String) (entries : List (Data × Data)) :
    named? name (inOrder entries) = named? name entries := by
  rw [inOrder]
  split
  · rw [foldr_insertEntry, named?, find?, find?_insertionSort]
    rfl
  · rfl

def sortedRecord (r : Record) : Record :=
  inOrder (sortedValues r)

theorem named?_sortedRecord (name : String) (r : Record) :
    named? name (sortedRecord r) = (named? name r).map sorted := by
  rw [sortedRecord, named?_inOrder, sortedValues_eq_map, named?, find?, named?, find?,
    List.find?_map, Option.map_map, Option.map_map]
  rfl

theorem hasNames_sortedRecord (r : Record) :
    Record.hasNames (sortedRecord r) = Record.hasNames r := by
  rw [sortedRecord, Record.hasNames, (perm_inOrder _).all_eq, sortedValues_eq_map, List.all_map]
  rfl

theorem ofEntry_sorted (entry : Data) :
    Record.ofEntry entry.sorted = (Record.ofEntry entry).map sortedRecord := by
  cases entry with
  | map r =>
      have hnames := hasNames_sortedRecord r
      rw [sorted, Record.ofEntry, Record.ofEntry, ← hnames]
      change (if (sortedRecord r).hasNames = true then Except.ok (sortedRecord r) else _) = _
      cases (sortedRecord r).hasNames <;> rfl
  | _ => rfl

variable {α : Type}

/-- A reader takes no notice of the order of entries. -/
def IgnoresOrder (read : Data → Checked α) : Prop :=
  ∀ data : Data, read data.sorted = read data

theorem required_sortedRecord {read : Data → Checked α} (h : IgnoresOrder read) (r : Record)
    (name : String) : (sortedRecord r).required name read = r.required name read := by
  rw [Record.required, Record.required, named?_sortedRecord]
  cases named? name r with
  | none => rfl
  | some value => exact congrArg (Checked.inField name) (h value)

theorem optional_sortedRecord {read : Data → Checked α} (h : IgnoresOrder read) (r : Record)
    (name : String) (default : α) :
    (sortedRecord r).optional name read default = r.optional name read default := by
  rw [Record.optional, Record.optional, named?_sortedRecord]
  cases named? name r with
  | none => rfl
  | some value => exact congrArg (Checked.inField name) (h value)

theorem ignoresOrder_orNull {read : Data → Checked α} (h : IgnoresOrder read) :
    IgnoresOrder (orNull read) := by
  intro data
  have hread := congrArg (Checked.map some) (h data)
  cases data with
  | null => rfl
  | _ => exact hread

theorem ignoresOrder_readText : IgnoresOrder readText := fun data => by cases data <;> rfl

theorem ignoresOrder_readInt : IgnoresOrder readInt := fun data => by cases data <;> rfl

theorem ignoresOrder_readBool : IgnoresOrder readBool := fun data => by cases data <;> rfl

theorem ignoresOrder_readUnit : IgnoresOrder readUnit := fun data => by cases data <;> rfl

theorem ignoresOrder_readFloat : IgnoresOrder readFloat := fun data => by cases data <;> rfl

theorem ignoresOrder_granularity (otherwise : ProblemKind) :
    IgnoresOrder (Granularity.ofData otherwise) := by
  intro data
  cases data with
  | map r =>
      change Granularity.ofRecord (sortedRecord r) = Granularity.ofRecord r
      rw [Granularity.ofRecord, optional_sortedRecord ignoresOrder_readInt,
        optional_sortedRecord ignoresOrder_readUnit]
      rfl
  | _ => rfl

theorem dataset_ofRecord_sorted (otherwise : ProblemKind) (r : Record) :
    Dataset.ofRecord otherwise (sortedRecord r) = Dataset.ofRecord otherwise r := by
  simp only [Dataset.ofRecord, required_sortedRecord ignoresOrder_readText,
    optional_sortedRecord ignoresOrder_readText,
    optional_sortedRecord (ignoresOrder_granularity otherwise)]

theorem metric_ofRecord_sorted (r : Record) :
    Metric.ofRecord (sortedRecord r) = Metric.ofRecord r := by
  simp only [Metric.ofRecord, required_sortedRecord ignoresOrder_readText,
    required_sortedRecord ignoresOrder_readInt,
    optional_sortedRecord (ignoresOrder_orNull ignoresOrder_readText)]

theorem detection_ofRecord_sorted (otherwise : ProblemKind) (r : Record) :
    Detection.ofRecord otherwise (sortedRecord r) = Detection.ofRecord otherwise r := by
  simp only [Detection.ofRecord, required_sortedRecord ignoresOrder_readText,
    optional_sortedRecord ignoresOrder_readText, optional_sortedRecord ignoresOrder_readInt,
    optional_sortedRecord ignoresOrder_readBool, optional_sortedRecord ignoresOrder_readUnit,
    optional_sortedRecord (ignoresOrder_orNull ignoresOrder_readText),
    optional_sortedRecord (ignoresOrder_orNull ignoresOrder_readInt),
    optional_sortedRecord (ignoresOrder_granularity otherwise)]

end AnomalyWindows.Proofs.SortedData
