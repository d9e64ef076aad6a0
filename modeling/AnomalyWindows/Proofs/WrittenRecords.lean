import AnomalyWindows.Catalog.Basic

namespace AnomalyWindows.Proofs.WrittenRecords

open AnomalyWindows.Data

variable {α : Type}

/-- Data are an entry that a reader takes for an item. -/
def ReadAs (read : Record → Checked α) (data : Data) (a : α) : Prop :=
  ∃ r, Record.ofEntry data = .ok r ∧ read r = .valid a

def entriesOf (fields : List (String × Data)) : Record :=
  fields.map fun (name, value) => (.text name, value)

theorem hasNames_entriesOf (fields : List (String × Data)) :
    Record.hasNames (entriesOf fields) = true := by
  simp [Record.hasNames, entriesOf]

theorem ofEntry_ofFields (fields : List (String × Data)) :
    Record.ofEntry (ofFields fields) = .ok (entriesOf fields) :=
  if_pos (hasNames_entriesOf fields)

theorem ofEntry_withoutNulls (fields : List (String × Data)) :
    Record.ofEntry (ofFields fields).withoutNulls =
      .ok ((entriesOf fields).filter fun entry => !entry.2.isNull) := by
  rw [ofFields, withoutNulls, Record.ofEntry, if_pos]
  · rfl
  · simp [Record.hasNames]

theorem named?_text_cons (field : String) (value : Data) (r : Record) (name : String) :
    named? name ((.text field, value) :: r) =
      if field = name then some value else named? name r := by
  by_cases h : field = name
  · simp [named?, find?, isKey, h]
  · simp [named?, find?, isKey, h]

theorem named?_entriesOf_eq_none {fields : List (String × Data)} {name : String}
    (h : name ∉ fields.map Prod.fst) : named? name (entriesOf fields) = none := by
  induction fields with
  | nil => rfl
  | cons field rest ih =>
      simp only [List.map_cons, List.mem_cons, not_or] at h
      change named? name ((.text field.1, field.2) :: entriesOf rest) = none
      rw [named?_text_cons, if_neg (Ne.symm h.1), ih h.2]

theorem named?_withoutNulls (fields : List (String × Data)) (h : (fields.map Prod.fst).Nodup)
    (name : String) :
    named? name ((entriesOf fields).filter fun entry => !entry.2.isNull) =
      (named? name (entriesOf fields)).filter fun value => !value.isNull := by
  induction fields with
  | nil => rfl
  | cons field rest ih =>
      rw [List.map_cons, List.nodup_cons] at h
      change named? name (((.text field.1, field.2) :: entriesOf rest).filter _) =
        (named? name ((.text field.1, field.2) :: entriesOf rest)).filter _
      by_cases hname : field.1 = name
      · have hrest : named? name (entriesOf rest) = none := named?_entriesOf_eq_none (hname ▸ h.1)
        cases hnull : field.2.isNull with
        | true => simp [hnull, ih h.2, hrest, named?_text_cons, hname, Option.filter]
        | false => simp [hnull, named?_text_cons, hname, Option.filter]
      · cases hnull : field.2.isNull with
        | true => simp [hnull, ih h.2, named?_text_cons, hname]
        | false => simp [hnull, ih h.2, named?_text_cons, hname]

theorem required_of_named? {r : Record} {name : String} {read : Data → Checked α} {value : Data}
    {a : α} (h : named? name r = some value) (hread : read value = .valid a) :
    r.required name read = .valid a := by
  simp [Record.required, h, hread]

theorem optional_of_named? {r : Record} {name : String} {read : Data → Checked α} {value : Data}
    {a default : α} (h : named? name r = some value) (hread : read value = .valid a) :
    r.optional name read default = .valid a := by
  simp [Record.optional, h, hread]

theorem optional_ofOption {r : Record} {name : String} {read : Data → Checked α}
    {write : α → Data} (o : Option α) (hread : ∀ a, read (write a) = .valid a)
    (hwrite : ∀ a, (write a).isNull = false)
    (h : named? name r = (some (ofOption write o)).filter fun value => !value.isNull) :
    r.optional name (orNull read) none = .valid o := by
  cases o with
  | none => simp [Record.optional, h, ofOption, Option.filter, isNull]
  | some a =>
      have horNull : orNull read (write a) = .valid (some a) := by
        have hnull := hwrite a
        rw [orNull]
        · rw [hread]
          rfl
        · intro heq
          rw [heq] at hnull
          cases hnull
      simp [Record.optional, h, ofOption, Option.filter, hwrite, horNull]

@[simp] theorem ofData_toData_granularity (otherwise : ProblemKind) (g : Granularity) :
    Granularity.ofData otherwise g.toData = .valid g := by
  change Granularity.ofRecord (entriesOf [("size", .int g.size), ("unit", .text g.unit.name)]) = _
  rw [Granularity.ofRecord, optional_of_named? rfl (readInt_int g.size),
    optional_of_named? rfl (readUnit_name g.unit)]
  rfl

theorem readAs_dataset (otherwise : ProblemKind) (d : Dataset) :
    ReadAs (Dataset.ofRecord otherwise) d.toData d := by
  refine ⟨_, ofEntry_ofFields _, ?_⟩
  rw [Dataset.ofRecord, required_of_named? rfl (readText_text d.name),
    optional_of_named? rfl (ofData_toData_granularity otherwise d.granularity),
    optional_of_named? rfl (readText_text d.timezone)]
  rfl

theorem readAs_metric (m : Metric) : ReadAs Metric.ofRecord m.toData.withoutNulls m := by
  refine ⟨_, ofEntry_withoutNulls _, ?_⟩
  have hfield := named?_withoutNulls [("id", .int m.id), ("name", .text m.name),
    ("dataset", .text m.dataset), ("query", .ofOption .text m.query)] (by simp)
  rw [Metric.ofRecord, required_of_named? (hfield "id") (readInt_int m.id),
    required_of_named? (hfield "name") (readText_text m.name),
    required_of_named? (hfield "dataset") (readText_text m.dataset),
    optional_ofOption m.query readText_text (fun _ => rfl) (hfield "query")]
  rfl

theorem readAs_detection (otherwise : ProblemKind) (d : Detection) :
    ReadAs (Detection.ofRecord otherwise) d.toData.withoutNulls d := by
  refine ⟨_, ofEntry_withoutNulls _, ?_⟩
  have hfield := named?_withoutNulls [
    ("id", .ofOption .int d.id), ("name", .text d.name), ("description", .text d.description),
    ("metric_urn", .text d.metricUrn), ("detector", .text d.detector),
    ("moving_window", .bool d.movingWindow), ("window_delay", .int d.windowDelay),
    ("window_delay_unit", .text d.windowDelayUnit.name), ("window_size", .int d.windowSize),
    ("window_unit", .text d.windowUnit.name), ("frequency", d.frequency.toData),
    ("timezone", .ofOption .text d.timezone), ("bucket_period", .ofOption .text d.bucketPeriod),
    ("caching_period_lookback", .ofOption .int d.cachingPeriodLookback)] (by simp)
  rw [Detection.ofRecord,
    optional_ofOption d.id readInt_int (fun _ => rfl) (hfield "id"),
    required_of_named? (hfield "name") (readText_text d.name),
    optional_of_named? (hfield "description") (readText_text d.description),
    required_of_named? (hfield "metric_urn") (readText_text d.metricUrn),
    required_of_named? (hfield "detector") (readText_text d.detector),
    optional_of_named? (hfield "moving_window") (readBool_bool d.movingWindow),
    optional_of_named? (hfield "window_delay") (readInt_int d.windowDelay),
    optional_of_named? (hfield "window_delay_unit") (readUnit_name d.windowDelayUnit),
    optional_of_named? (hfield "window_size") (readInt_int d.windowSize),
    optional_of_named? (hfield "window_unit") (readUnit_name d.windowUnit),
    optional_of_named? (hfield "frequency") (ofData_toData_granularity otherwise d.frequency),
    optional_ofOption d.timezone readText_text (fun _ => rfl) (hfield "timezone"),
    optional_ofOption d.bucketPeriod readText_text (fun _ => rfl) (hfield "bucket_period"),
    optional_ofOption d.cachingPeriodLookback readInt_int (fun _ => rfl)
      (hfield "caching_period_lookback")]
  rfl

end AnomalyWindows.Proofs.WrittenRecords
