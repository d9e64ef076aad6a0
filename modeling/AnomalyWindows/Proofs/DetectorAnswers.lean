import AnomalyWindows.Detector.Remote
import AnomalyWindows.Proofs.JsonData
import AnomalyWindows.Proofs.WindowPerAnchor

namespace AnomalyWindows.Proofs.DetectorAnswers

open Calendar Detector
open AnomalyWindows.Proofs.CalendarMoves AnomalyWindows.Proofs.WindowPerAnchor
open AnomalyWindows.Proofs.JsonData

theorem isJson_of_data {response : Response} {data : Data} (h : response.data = .ok data) :
    IsJson data := by
  rw [Response.data, Json.ofText] at h
  split at h
  · exact isJson_of_read h
  · exact isJson_of_read h

/-- An anomaly has what the entries of an item tell: its bounds, which have to be there and are
times, properties and a score, which may be missing, and nothing else. -/
structure Tells (entries : List (Data × Data)) (a : Anomaly) : Prop where
  start : ∃ time m, Data.named? "start" entries = some time ∧ momentOf time = .ok m ∧
    m.asUtc = .ok a.start
  finish : ∃ time m, Data.named? "end" entries = some time ∧ momentOf time = .ok m ∧
    m.asUtc = .ok a.finish
  properties : propertiesOf ((Data.named? "properties" entries).getD (.map [])) = .ok a.properties
  score : a.score = (Data.named? "score" entries).getD .null
  bare : a = { start := a.start, finish := a.finish, properties := a.properties, score := a.score }

/-- An item converts to an anomaly: it is a map that tells it. -/
def Converts (item : Data) (a : Anomaly) : Prop :=
  ∃ entries, item = .map entries ∧ Tells entries a

theorem fieldOf_eq_ok_iff {entries : List (Data × Data)} {name : String} {value : Data} :
    fieldOf entries name = .ok value ↔ Data.named? name entries = some value := by
  rw [fieldOf]
  cases Data.named? name entries with
  | none => exact ⟨nofun, nofun⟩
  | some found => rw [Except.ok.injEq, Option.some.injEq]

theorem between_eq_ok_iff {start finish : Moment} {properties : List (Data × Data)} {score : Data}
    {a : Anomaly} :
    Anomaly.between start finish properties score = .ok a ↔
      ∃ start' finish', start.asUtc = .ok start' ∧ finish.asUtc = .ok finish' ∧
        a = { start := start', finish := finish', properties, score } := by
  rw [Anomaly.between, bind_eq_ok_iff]
  constructor
  · rintro ⟨start', hstart, h⟩
    obtain ⟨finish', hfinish, h⟩ := bind_eq_ok_iff.mp h
    exact ⟨start', finish', hstart, hfinish, (Except.ok.inj h).symm⟩
  · rintro ⟨start', finish', hstart, hfinish, rfl⟩
    exact ⟨start', hstart, bind_eq_ok_iff.mpr ⟨finish', hfinish, rfl⟩⟩

theorem anomalyOf_map_eq_ok_iff {entries : List (Data × Data)} {a : Anomaly} :
    anomalyOf (.map entries) = .ok a ↔ Tells entries a := by
  rw [anomalyOf]
  simp only [bind_eq_ok_iff, fieldOf_eq_ok_iff, between_eq_ok_iff]
  constructor
  · rintro ⟨time, htime, m, hm, time', htime', m', hm', properties, hproperties, start, finish,
      hstart, hfinish, rfl⟩
    exact ⟨⟨time, m, htime, hm, hstart⟩, ⟨time', m', htime', hm', hfinish⟩, hproperties, rfl, rfl⟩
  · rintro ⟨⟨time, m, htime, hm, hstart⟩, ⟨time', m', htime', hm', hfinish⟩, hproperties, hscore,
      hbare⟩
    exact ⟨time, htime, m, hm, time', htime', m', hm', a.properties, hproperties, a.start, a.finish,
      hstart, hfinish, hscore ▸ hbare⟩

theorem anomalyOf_eq_ok_iff {item : Data} {a : Anomaly} :
    anomalyOf item = .ok a ↔ Converts item a := by
  constructor
  · intro h
    cases item with
    | map entries => exact ⟨entries, rfl, anomalyOf_map_eq_ok_iff.mp h⟩
    | _ => cases h
  · rintro ⟨entries, rfl, h⟩
    exact anomalyOf_map_eq_ok_iff.mpr h

/-- The items of an entry that should be a list: none if it is missing or empty. -/
inductive ItemsOf : Option Data → List Data → Prop
  | missing : ItemsOf none []
  | noEntries : ItemsOf (some (.map [])) []
  | noText : ItemsOf (some (.text "")) []
  | list (items : List Data) : ItemsOf (some (.list items)) items

/-- A response that lists items: it tells success, and its body is a map that does not speak of
insufficient data. -/
structure Lists (response : Response) (items : List Data) : Prop where
  success : 200 ≤ response.status ∧ response.status < 300
  body : ∃ entries, response.data = .ok (.map entries) ∧
    Data.named? "status" entries ≠ some (.text "insufficient_data") ∧
    ItemsOf (Data.named? "anomalies" entries) items

theorem parts?_of_itemsOf {data : Option Data} {items : List Data} (h : ItemsOf data items) :
    (data.getD (.list [])).parts? = some items := by
  cases h with
  | missing => rfl
  | noEntries => rfl
  | noText => rfl
  | list items => rfl

theorem eq_nil_of_texts {items : List Data} {anomalies : List Anomaly}
    (htexts : ∀ item ∈ items, ∃ s, item = .text s)
    (hconvert : List.Forall₂ Converts items anomalies) : items = [] := by
  cases hconvert with
  | nil => rfl
  | cons hitem hrest =>
      obtain ⟨s, rfl⟩ := htexts _ (List.mem_cons_self ..)
      obtain ⟨entries, htext, -⟩ := hitem
      cases htext

theorem itemsOf_of_parts? {data : Option Data} (hjson : ∀ v, data = some v → IsJson v)
    {items : List Data} (hparts : (data.getD (.list [])).parts? = some items)
    {anomalies : List Anomaly} (hconvert : List.Forall₂ Converts items anomalies) :
    ItemsOf data items := by
  cases data with
  | none =>
      obtain rfl : [] = items := Option.some.inj hparts
      exact .missing
  | some v =>
      cases hjson v rfl with
      | list => exact Option.some.inj hparts ▸ .list _
      | text s =>
          obtain rfl : s.toList.map (fun c => .text (String.ofList [c])) = items :=
            Option.some.inj hparts
          have hnil := eq_nil_of_texts (fun item hitem => ?_) hconvert
          · rw [List.map_eq_nil_iff, String.toList_eq_nil_iff] at hnil
            subst hnil
            exact .noText
          · obtain ⟨c, -, rfl⟩ := List.mem_map.mp hitem
            exact ⟨_, rfl⟩
      | @map entries hkeys hvalues =>
          obtain rfl : entries.map (·.1) = items := Option.some.inj hparts
          have hnil := eq_nil_of_texts (fun item hitem => ?_) hconvert
          · rw [List.map_eq_nil_iff] at hnil
            subst hnil
            exact .noEntries
          · obtain ⟨entry, hentry, rfl⟩ := List.mem_map.mp hitem
            exact hkeys entry hentry
      | _ => cases hparts

theorem listed_eq_ok_iff {entries : List (Data × Data)} (hjson : IsJson (.map entries))
    {anomalies : List Anomaly} :
    anomaliesOf.listed entries = .ok anomalies ↔
      ∃ items, ItemsOf (Data.named? "anomalies" entries) items ∧
        List.Forall₂ Converts items anomalies := by
  have hentry : ∀ v, Data.named? "anomalies" entries = some v → IsJson v := by
    intro v hv
    obtain ⟨entry, hentry, rfl⟩ := Option.map_eq_some_iff.mp hv
    cases hjson with
    | map hkeys hvalues => exact hvalues entry (List.mem_of_find?_eq_some hentry)
  have hmapM : ∀ items, items.mapM anomalyOf = .ok anomalies ↔
      List.Forall₂ Converts items anomalies := by
    intro items
    rw [mapM_eq_ok_iff]
    exact ⟨fun h => h.imp fun _ _ => anomalyOf_eq_ok_iff.mp,
      fun h => h.imp fun _ _ => anomalyOf_eq_ok_iff.mpr⟩
  constructor
  · intro h
    rw [anomaliesOf.listed] at h
    split at h
    · next items hparts =>
      have hconvert := (hmapM items).mp h
      exact ⟨items, itemsOf_of_parts? hentry hparts hconvert, hconvert⟩
    · cases h
  · rintro ⟨items, hitems, hconvert⟩
    rw [anomaliesOf.listed, parts?_of_itemsOf hitems]
    exact (hmapM items).mpr hconvert

theorem anomaliesOf_map_eq_ok_iff {window : String} {entries : List (Data × Data)}
    {anomalies : List Anomaly} :
    anomaliesOf window (.map entries) = .ok anomalies ↔
      Data.named? "status" entries ≠ some (.text "insufficient_data") ∧
        anomaliesOf.listed entries = .ok anomalies := by
  simp only [anomaliesOf]
  split
  · next s hstatus =>
    rw [hstatus]
    split
    · next hinsufficient => exact ⟨nofun, fun h => absurd (hinsufficient ▸ rfl) h.1⟩
    · next hother =>
      exact (and_iff_right fun h => hother (Data.text.inj (Option.some.inj h))).symm
  · next hother =>
    exact (and_iff_right fun h => hother _ h).symm

theorem readResponse_eq_ok_iff {window : Window} {response : Response}
    {anomalies : List Anomaly} :
    RemoteDetector.readResponse window response = .ok anomalies ↔
      ∃ items, Lists response items ∧ List.Forall₂ Converts items anomalies := by
  have hsuccess : response.isSuccess = true ↔ 200 ≤ response.status ∧ response.status < 300 := by
    rw [Response.isSuccess, Bool.and_eq_true, decide_eq_true_iff, decide_eq_true_iff]
  rw [RemoteDetector.readResponse]
  constructor
  · intro h
    split at h
    · cases h
    · obtain ⟨_, hsuccessful, h⟩ := bind_eq_ok_iff.mp h
      obtain ⟨data, hdata, h⟩ := bind_eq_ok_iff.mp h
      rw [Response.successful] at hsuccessful
      split at hsuccessful
      · next htold =>
        obtain rfl := Except.ok.inj hsuccessful
        have hjson := isJson_of_data hdata
        cases data with
        | map entries =>
            obtain ⟨hstatus, hlisted⟩ := anomaliesOf_map_eq_ok_iff.mp h
            obtain ⟨items, hitems, hconvert⟩ := (listed_eq_ok_iff hjson).mp hlisted
            exact ⟨items, ⟨hsuccess.mp htold, entries, hdata, hstatus, hitems⟩, hconvert⟩
        | _ => cases h
      · cases hsuccessful
  · rintro ⟨items, ⟨htold, entries, hdata, hstatus, hitems⟩, hconvert⟩
    have hlisted := (listed_eq_ok_iff (isJson_of_data hdata)).mpr ⟨items, hitems, hconvert⟩
    rw [if_neg (by omega)]
    refine bind_eq_ok_iff.mpr ⟨response, if_pos (hsuccess.mpr htold), ?_⟩
    exact bind_eq_ok_iff.mpr ⟨_, hdata, anomaliesOf_map_eq_ok_iff.mpr ⟨hstatus, hlisted⟩⟩

end AnomalyWindows.Proofs.DetectorAnswers
