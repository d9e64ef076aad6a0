import AnomalyWindows.Equipment
import AnomalyWindows.Proofs.RunViews
import AnomalyWindows.Proofs.SortedData
import Mathlib.Data.Set.List

namespace AnomalyWindows.Proofs.ReorderedDetectors

open Calendar Data Detector
open AnomalyWindows.Run
open AnomalyWindows.Proofs.RunViews AnomalyWindows.Proofs.SortedData

variable {α β γ δ : Type}

/-- Two checked values are related, or both are wrong. -/
inductive SameChecked (P : α → β → Prop) : Checked α → Checked β → Prop
  | valid {x : α} {y : β} (h : P x y) : SameChecked P (.valid x) (.valid y)
  | wrong (ps qs : List Problem) : SameChecked P (.wrong ps) (.wrong qs)

theorem sameChecked_refl {P : α → α → Prop} (hP : ∀ x, P x x) (x : Checked α) :
    SameChecked P x x := by
  cases x with
  | valid x => exact .valid (hP x)
  | wrong ps => exact .wrong ps ps

theorem sameChecked_map {P : α → β → Prop} {Q : γ → δ → Prop} {f : α → γ} {g : β → δ}
    {x : Checked α} {y : Checked β} (hfg : ∀ a b, P a b → Q (f a) (g b)) (h : SameChecked P x y) :
    SameChecked Q (f <$> x) (g <$> y) := by
  cases h with
  | valid h => exact .valid (hfg _ _ h)
  | wrong ps qs => exact .wrong ps qs

theorem sameChecked_seq {P : α → β → Prop} {Q : γ → δ → Prop} {f : Checked (α → γ)}
    {g : Checked (β → δ)} {x : Checked α} {y : Checked β}
    (hfg : SameChecked (fun f g => ∀ a b, P a b → Q (f a) (g b)) f g) (h : SameChecked P x y) :
    SameChecked Q (f <*> x) (g <*> y) := by
  cases hfg with
  | valid hfg =>
      cases h with
      | valid h => exact .valid (hfg _ _ h)
      | wrong ps qs => exact .wrong ps qs
  | wrong ps qs =>
      cases h with
      | valid h => exact .wrong ps qs
      | wrong ps' qs' => exact .wrong (ps ++ ps') (qs ++ qs')

theorem sameChecked_inField {P : α → β → Prop} {x : Checked α} {y : Checked β} (name : String)
    (h : SameChecked P x y) : SameChecked P (x.inField name) (y.inField name) := by
  cases h with
  | valid h => exact .valid h
  | wrong ps qs => exact .wrong _ _

theorem sameChecked_required {read : Data → Checked α} (h : IgnoresOrder read) (r : Record)
    (name : String) :
    SameChecked Eq (r.required name read) ((sortedRecord r).required name read) := by
  rw [required_sortedRecord h]
  exact sameChecked_refl (fun _ => rfl) _

theorem sameChecked_optional {P : α → α → Prop} {read : Data → Checked α}
    (h : ∀ data : Data, SameChecked P (read data) (read data.sorted)) {default : α}
    (hdefault : P default default) (r : Record) (name : String) :
    SameChecked P (r.optional name read default)
      ((sortedRecord r).optional name read default) := by
  rw [Record.optional, Record.optional, named?_sortedRecord]
  cases named? name r with
  | none => exact .valid hdefault
  | some value => exact sameChecked_inField name (h value)

theorem sameChecked_of_ignoresOrder {read : Data → Checked α} (h : IgnoresOrder read)
    (data : Data) : SameChecked Eq (read data) (read data.sorted) := by
  rw [h data]
  exact sameChecked_refl (fun _ => rfl) _

def headerEntry (header : String × String) : Data × Data :=
  (.text header.1, .text header.2)

theorem readText_eq_valid_iff {data : Data} {s : String} :
    readText data = .valid s ↔ data = .text s := by
  cases data <;> simp [readText, Checked.wrongKind]

theorem readTexts_eq_valid_iff {entries : List (Data × Data)} {headers : List (String × String)} :
    readTexts (.map entries) = .valid headers ↔ entries = headers.map headerEntry := by
  induction entries generalizing headers with
  | nil =>
      change Checked.valid [] = .valid headers ↔ _
      rw [Checked.valid.injEq, eq_comm, List.nil_eq, List.map_eq_nil_iff]
  | cons entry rest ih =>
      obtain ⟨key, value⟩ := entry
      constructor
      · intro h
        obtain ⟨_, headers, hcons, hrest, rfl⟩ := Checked.seq_valid_iff.mp h
        obtain ⟨header, hheader, rfl⟩ := Checked.map_valid_iff.mp hcons
        obtain ⟨_, s, hpair, hvalue, rfl⟩ :=
          Checked.seq_valid_iff.mp (Checked.inField_valid_iff.mp hheader)
        obtain ⟨name, hname, rfl⟩ := Checked.map_valid_iff.mp hpair
        have hkey : key = .text name := by
          split at hname
          · cases hname
            rfl
          · cases hname
        rw [hkey, readText_eq_valid_iff.mp hvalue, ih.mp hrest, List.map_cons, headerEntry]
      · intro h
        obtain _ | ⟨⟨name, s⟩, headers⟩ := headers
        · cases h
        · rw [List.map_cons, List.cons.injEq] at h
          obtain ⟨hentry, hrest⟩ := h
          obtain ⟨rfl, rfl⟩ := Prod.mk.inj hentry
          change Checked.seq (.valid (List.cons (name, s))) (readTexts (.map rest)) = _
          rw [ih.mpr hrest]
          rfl

theorem exists_inOrder_headers (headers : List (String × String)) :
    ∃ headers' : List (String × String), headers.Perm headers' ∧
      inOrder (headers.map headerEntry) = headers'.map headerEntry := by
  rw [inOrder]
  split
  · refine ⟨headers.insertionSort fun a b => Precedes (headerEntry a) (headerEntry b),
      (List.perm_insertionSort _ headers).symm, ?_⟩
    rw [foldr_insertEntry]
    exact (List.map_insertionSort _ _ headerEntry headers fun _ _ _ _ => Iff.rfl).symm
  · exact ⟨headers, List.Perm.refl headers, rfl⟩

def isHeader (entry : Data × Data) : Bool :=
  match entry with
  | (.text _, .text _) => true
  | _ => false

theorem isHeader_iff {entry : Data × Data} :
    isHeader entry = true ↔ ∃ header, headerEntry header = entry := by
  constructor
  · intro h
    unfold isHeader at h
    split at h
    · next name value => exact ⟨(name, value), rfl⟩
    · cases h
  · rintro ⟨header, rfl⟩
    rfl

theorem isHeader_sorted (entry : Data × Data) :
    isHeader (entry.1, entry.2.sorted) = isHeader entry := by
  obtain ⟨key, value⟩ := entry
  cases key <;> cases value <;> rfl

theorem exists_headers_iff {entries : List (Data × Data)} :
    (∃ headers, readTexts (.map entries) = .valid headers) ↔ entries.all isHeader = true := by
  simp only [readTexts_eq_valid_iff, List.all_eq_true, isHeader_iff]
  constructor
  · rintro ⟨headers, rfl⟩ entry hentry
    obtain ⟨header, -, rfl⟩ := List.mem_map.mp hentry
    exact ⟨header, rfl⟩
  · intro h
    obtain ⟨headers, hheaders⟩ := (Set.range_list_map headerEntry).ge h
    exact ⟨headers, hheaders.symm⟩

theorem all_isHeader_sortedRecord (entries : List (Data × Data)) :
    (sortedRecord entries).all isHeader = entries.all isHeader := by
  rw [sortedRecord, (perm_inOrder _).all_eq, sortedValues_eq_map, List.all_map]
  exact congrArg entries.all (funext isHeader_sorted)

theorem sortedValues_headers (headers : List (String × String)) :
    sortedValues (headers.map headerEntry) = headers.map headerEntry := by
  rw [sortedValues_eq_map, List.map_map]
  rfl

theorem sameChecked_readTexts (data : Data) :
    SameChecked List.Perm (readTexts data) (readTexts data.sorted) := by
  cases data with
  | map entries =>
      change SameChecked List.Perm _ (readTexts (.map (sortedRecord entries)))
      cases hread : readTexts (.map entries) with
      | valid headers =>
          obtain rfl := readTexts_eq_valid_iff.mp hread
          obtain ⟨headers', hperm, hinOrder⟩ := exists_inOrder_headers headers
          rw [sortedRecord, sortedValues_headers, readTexts_eq_valid_iff.mpr hinOrder]
          exact .valid hperm
      | wrong ps =>
          cases hread' : readTexts (.map (sortedRecord entries)) with
          | valid headers' =>
              have hall := exists_headers_iff.mp ⟨headers', hread'⟩
              rw [all_isHeader_sortedRecord] at hall
              obtain ⟨headers, hheaders⟩ := exists_headers_iff.mpr hall
              cases hread.symm.trans hheaders
          | wrong qs => exact .wrong ps qs
  | _ => exact .wrong _ _

def SameEntries (entries entries' : List (Data × Data)) : Prop :=
  (Data.map entries).sorted = (Data.map entries').sorted

theorem readMap_eq_valid_iff {entries parameters : List (Data × Data)} :
    readMap true (.map entries) = .valid parameters ↔
      entries = parameters ∧ Record.hasNames entries = true := by
  induction entries generalizing parameters with
  | nil =>
      change Checked.valid [] = .valid parameters ↔ _
      rw [Checked.valid.injEq]
      exact (and_iff_left rfl).symm
  | cons entry rest ih =>
      obtain ⟨key, value⟩ := entry
      constructor
      · intro h
        obtain ⟨_, done, hcons, hrest, rfl⟩ := Checked.seq_valid_iff.mp h
        obtain ⟨entry, hentry, rfl⟩ := Checked.map_valid_iff.mp hcons
        obtain ⟨rfl, hnames⟩ := ih.mp hrest
        split at hentry
        · cases hentry
          exact ⟨rfl, hnames⟩
        · cases hentry
      · rintro ⟨rfl, hnames⟩
        rw [Record.hasNames, List.all_cons, Bool.and_eq_true] at hnames
        obtain ⟨hkey, hrest⟩ := hnames
        split at hkey
        · next name hname =>
            obtain rfl : key = .text name := hname
            change Checked.seq (.valid (List.cons (.text name, value)))
              (readMap true (.map rest)) = _
            rw [ih.mpr ⟨rfl, hrest⟩]
            rfl
        · cases hkey

theorem sameChecked_readMap (data : Data) :
    SameChecked SameEntries (readMap true data) (readMap true data.sorted) := by
  cases data with
  | map entries =>
      change SameChecked SameEntries _ (readMap true (.map (sortedRecord entries)))
      have hnames := hasNames_sortedRecord entries
      cases hread : readMap true (.map entries) with
      | valid parameters =>
          obtain ⟨rfl, hvalid⟩ := readMap_eq_valid_iff.mp hread
          rw [readMap_eq_valid_iff.mpr ⟨rfl, hnames.trans hvalid⟩]
          exact .valid (sorted_sorted (.map entries)).symm
      | wrong ps =>
          cases hread' : readMap true (.map (sortedRecord entries)) with
          | valid parameters' =>
              have hvalid := hnames.symm.trans (readMap_eq_valid_iff.mp hread').2
              cases hread.symm.trans (readMap_eq_valid_iff.mpr ⟨rfl, hvalid⟩)
          | wrong qs => exact .wrong ps qs
  | _ => exact .wrong _ _

structure SameConfig (c c' : Config) : Prop where
  name : c.name = c'.name
  type : c.type = c'.type
  endpoint : c.endpoint = c'.endpoint
  timeout : c.timeout = c'.timeout
  headers : c.headers.Perm c'.headers
  parameters : SameEntries c.parameters c'.parameters

structure SameClient (c c' : Client) : Prop where
  peer : c.peer = c'.peer
  timeout : c.timeout = c'.timeout
  headers : c.headers.Perm c'.headers
  isOpen : c.isOpen = c'.isOpen

structure SameDetector (d d' : RemoteDetector) : Prop where
  endpoint : d.endpoint = d'.endpoint
  parameters : SameEntries d.parameters d'.parameters
  client : SameClient d.client d'.client

/-- Detectors under the same names, in the same order. -/
def SameRegistry : Registry → Registry → Prop :=
  List.Forall₂ fun entry entry' => entry.1 = entry'.1 ∧ SameDetector entry.2 entry'.2

theorem sameConfig_ofRecord (r : Record) :
    SameChecked SameConfig (Config.ofRecord r) (Config.ofRecord (sortedRecord r)) := by
  have htext := sameChecked_of_ignoresOrder ignoresOrder_readText
  have horNull := sameChecked_of_ignoresOrder (ignoresOrder_orNull ignoresOrder_readText)
  have hfloat := sameChecked_of_ignoresOrder ignoresOrder_readFloat
  refine sameChecked_seq (sameChecked_seq (sameChecked_seq (sameChecked_seq (sameChecked_seq
    (sameChecked_map ?_ (sameChecked_required ignoresOrder_readText r "name"))
    (sameChecked_optional htext rfl r "type")) (sameChecked_optional horNull rfl r "endpoint"))
    (sameChecked_optional hfloat rfl r "timeout"))
    (sameChecked_optional sameChecked_readTexts (.refl []) r "headers"))
    (sameChecked_optional sameChecked_readMap rfl r "parameters")
  intro _ _ hname _ _ htype _ _ hendpoint _ _ htimeout _ _ hheaders _ _ hparameters
  exact ⟨hname, htype, hendpoint, htimeout, hheaders, hparameters⟩

theorem coupled_bind {P : α → β → Prop} {Q : γ → δ → Prop} {E : Fault → Fault → Prop}
    {r : Except Fault α} {r' : Except Fault β} {f : α → Except Fault γ} {g : β → Except Fault δ}
    (h : Coupled P E r r') (hfg : ∀ x y, P x y → Coupled Q E (f x) (g y)) :
    Coupled Q E (r >>= f) (r' >>= g) := by
  cases h with
  | ok h => exact hfg _ _ h
  | error h => exact .error h

theorem coupled_configOf (entry : Data) :
    Coupled SameConfig Eq (configOf entry) (configOf entry.sorted) := by
  rw [configOf, configOf, ofEntry_sorted]
  cases Record.ofEntry entry with
  | error fault => exact .error rfl
  | ok r =>
      have hread := sameConfig_ofRecord r
      simp only [Except.map, bind, Except.bind]
      generalize Config.ofRecord r = c at hread
      generalize Config.ofRecord (sortedRecord r) = c' at hread
      cases hread with
      | valid h => exact .ok h
      | wrong ps qs => exact .error rfl

theorem coupled_build {c c' : Config} (h : SameConfig c c') :
    Coupled SameDetector Eq c.build c'.build := by
  rw [Config.build, Config.build, ← h.type, ← h.endpoint, ← h.name, ← h.timeout]
  split
  · split
    · exact .ok ⟨rfl, h.parameters, ⟨rfl, rfl, h.headers, rfl⟩⟩
    · exact .error rfl
  · exact .error rfl

theorem sameRegistry_put {r r' : Registry} (h : SameRegistry r r') (name : String)
    {d d' : RemoteDetector} (hd : SameDetector d d') :
    SameRegistry (r.put name d) (r'.put name d') := by
  induction h with
  | nil => exact .cons ⟨rfl, hd⟩ .nil
  | @cons entry entry' rest rest' hentry hrest ih =>
      obtain ⟨hname, hdetector⟩ := hentry
      rw [Registry.put, Registry.put, Keyed.put, Keyed.put, ← hname]
      split
      · exact .cons ⟨rfl, hd⟩ hrest
      · exact .cons ⟨hname, hdetector⟩ ih

theorem coupled_ofEntries (entries : List Data) :
    Coupled SameRegistry Eq (Registry.ofEntries entries)
      (Registry.ofEntries (entries.map Data.sorted)) := by
  suffices h : ∀ r r', SameRegistry r r' → Coupled SameRegistry Eq (entries.foldlM Registry.add r)
      ((entries.map Data.sorted).foldlM Registry.add r') from h [] [] .nil
  induction entries with
  | nil => exact fun r r' h => .ok h
  | cons entry rest ih =>
      intro r r' h
      rw [List.map_cons, List.foldlM_cons, List.foldlM_cons]
      refine coupled_bind (coupled_bind (coupled_configOf entry) fun c c' hc => ?_) ih
      refine coupled_bind (coupled_build hc) fun d d' hd => .ok ?_
      rw [hc.name]
      exact sameRegistry_put h _ hd

theorem names_of_sameRegistry {r r' : Registry} (h : SameRegistry r r') : r.names = r'.names := by
  induction h with
  | nil => rfl
  | cons hentry _ ih => exact congrArg₂ List.cons hentry.1 ih

theorem rel_find?_of_sameRegistry {r r' : Registry} (h : SameRegistry r r') (name : String) :
    Option.Rel SameDetector (r.find? name) (r'.find? name) := by
  induction h with
  | nil => exact .none
  | @cons entry entry' rest rest' hentry hrest ih =>
      simp only [Registry.find?, Keyed.find?, List.find?_cons, ← hentry.1] at ih ⊢
      split
      · exact .some hentry.2
      · exact ih

/-- Requests that are the same but for the order in the maps of their bodies, and of headers. -/
structure SameRequest (r r' : Request) : Prop where
  method : r.method = r'.method
  url : r.url = r'.url
  query : r.query = r'.query
  body : r.body.map Data.sorted = r'.body.map Data.sorted
  headers : r.headers.Perm r'.headers

inductive SameEvent : Traffic → Traffic → Prop
  | opened (peer : Peer) (timeout : Float) : SameEvent (.opened peer timeout) (.opened peer timeout)
  | sent (peer : Peer) {r r' : Request} (h : SameRequest r r') :
      SameEvent (.sent peer r) (.sent peer r')
  | closed (peer : Peer) : SameEvent (.closed peer) (.closed peer)

/-- Networks on which the same has happened, and that will answer the same. -/
structure SameTraffic (n n' : Network) : Prop where
  replies : n.replies = n'.replies
  traffic : List.Forall₂ SameEvent n.traffic n'.traffic

theorem sameRequest_refl (r : Request) : SameRequest r r :=
  ⟨rfl, rfl, rfl, rfl, .refl r.headers⟩

theorem sameEvent_refl (event : Traffic) : SameEvent event event := by
  cases event with
  | opened peer timeout => exact .opened peer timeout
  | sent peer r => exact .sent peer (sameRequest_refl r)
  | closed peer => exact .closed peer

theorem sameTraffic_refl (n : Network) : SameTraffic n n :=
  ⟨rfl, List.forall₂_same.mpr fun event _ => sameEvent_refl event⟩

theorem sameTraffic_note {n n' : Network} (h : SameTraffic n n') {event event' : Traffic}
    (hevent : SameEvent event event') : SameTraffic (n.note event) (n'.note event') := by
  refine ⟨h.replies, ?_⟩
  change List.Forall₂ SameEvent (event :: n.record).reverse (event' :: n'.record).reverse
  rw [List.reverse_cons, List.reverse_cons]
  exact List.rel_append h.traffic (.cons hevent .nil)

theorem sameTraffic_ready {c c' : Client} (hc : SameClient c c') {n n' : Network}
    (h : SameTraffic n n') :
    SameClient (c.ready n).1 (c'.ready n').1 ∧ SameTraffic (c.ready n).2 (c'.ready n').2 := by
  obtain ⟨hpeer, htimeout, hheaders, hisOpen⟩ := hc
  rw [Client.ready, Client.ready, ← hpeer, ← htimeout, ← hisOpen]
  refine ⟨⟨rfl, rfl, hheaders, rfl⟩, ?_⟩
  dsimp only
  split
  · exact h
  · exact sameTraffic_note h (.opened _ _)

theorem sameTraffic_closeClient {c c' : Client} (hc : SameClient c c') {n n' : Network}
    (h : SameTraffic n n') :
    SameClient (c.close n).1 (c'.close n').1 ∧ SameTraffic (c.close n).2 (c'.close n').2 := by
  obtain ⟨hpeer, htimeout, hheaders, hisOpen⟩ := hc
  rw [Client.close, Client.close, ← hpeer, ← htimeout, ← hisOpen]
  refine ⟨⟨rfl, rfl, hheaders, rfl⟩, ?_⟩
  dsimp only
  split
  · exact sameTraffic_note h (.closed _)
  · exact h

theorem sameTraffic_send {r r' : Request} (hr : SameRequest r r') (peer : Peer) {n n' : Network}
    (h : SameTraffic n n') :
    (n.send peer r).1 = (n'.send peer r').1 ∧
      SameTraffic (n.send peer r).2 (n'.send peer r').2 := by
  have hnoted := sameTraffic_note h (.sent peer hr)
  rw [Network.send, Network.send, ← hr.method, ← hr.url, ← h.replies]
  rcases Network.takeReply (r.method ++ " " ++ r.url) n.replies with ⟨reply, replies⟩
  cases reply with
  | answered response => exact ⟨rfl, rfl, hnoted.traffic⟩
  | broken fault => exact ⟨rfl, rfl, hnoted.traffic⟩

theorem then_eq_ok_iff {a b : Except Fault Unit} :
    (a >>= fun _ => b) = .ok () ↔ a = .ok () ∧ b = .ok () := by
  cases a <;> simp [bind, Except.bind]

theorem then_eq_error {a b : Except Fault Unit} {fault : Fault}
    (h : (a >>= fun _ => b) = .error fault) : a = .error fault ∨ b = .error fault := by
  cases a with
  | error _ => exact .inl h
  | ok _ => exact .inr h

theorem entriesEncodable_eq_ok_iff {entries : List (Data × Data)} :
    Json.entriesEncodable entries = .ok () ↔
      ∀ entry ∈ entries, Json.scalarEncodable entry.1 = .ok () ∧
        Json.encodable entry.2 = .ok () := by
  induction entries with
  | nil => exact iff_of_true rfl (List.forall_mem_nil _)
  | cons entry rest ih =>
      rw [Json.entriesEncodable, then_eq_ok_iff, then_eq_ok_iff, List.forall_mem_cons, ← ih,
        and_assoc]

mutual

theorem encodable_sorted_eq_ok_iff : (data : Data) →
    (Json.encodable data.sorted = .ok () ↔ Json.encodable data = .ok ())
  | .list items => by
      rw [sorted, Json.encodable, Json.encodable, itemsEncodable_sorted_eq_ok_iff items]
  | .pair key value => by
      rw [sorted, Json.encodable, Json.encodable, then_eq_ok_iff, then_eq_ok_iff,
        encodable_sorted_eq_ok_iff key, encodable_sorted_eq_ok_iff value]
  | .map entries => by
      rw [sorted, Json.encodable, Json.encodable, entriesEncodable_eq_ok_iff]
      simp only [(perm_inOrder (sortedValues entries)).mem_iff]
      rw [← entriesEncodable_eq_ok_iff, entriesEncodable_sorted_eq_ok_iff entries]
  | .null | .bool _ | .int _ | .float _ | .text _ | .date _ | .moment _ => Iff.rfl

theorem itemsEncodable_sorted_eq_ok_iff : (items : List Data) →
    (Json.itemsEncodable (sortedItems items) = .ok () ↔ Json.itemsEncodable items = .ok ())
  | [] => Iff.rfl
  | item :: rest => by
      rw [sortedItems, Json.itemsEncodable, Json.itemsEncodable, then_eq_ok_iff, then_eq_ok_iff,
        encodable_sorted_eq_ok_iff item, itemsEncodable_sorted_eq_ok_iff rest]

theorem entriesEncodable_sorted_eq_ok_iff : (entries : List (Data × Data)) →
    (Json.entriesEncodable (sortedValues entries) = .ok () ↔
      Json.entriesEncodable entries = .ok ())
  | [] => Iff.rfl
  | (key, value) :: rest => by
      simp only [sortedValues, Json.entriesEncodable, then_eq_ok_iff,
        encodable_sorted_eq_ok_iff value, entriesEncodable_sorted_eq_ok_iff rest]

end

theorem encodable_eq_ok_iff_of_sorted {data data' : Data} (h : data.sorted = data'.sorted) :
    Json.encodable data = .ok () ↔ Json.encodable data' = .ok () := by
  rw [← encodable_sorted_eq_ok_iff data, h, encodable_sorted_eq_ok_iff]

mutual

theorem exists_scalar_of_encodable {fault : Fault} : (data : Data) →
    Json.encodable data = .error fault → ∃ scalar, Json.scalarEncodable scalar = .error fault
  | .list items => fun h => exists_scalar_of_itemsEncodable items h
  | .pair key value => fun h => by
      rcases then_eq_error h with h | h
      · exact exists_scalar_of_encodable key h
      · exact exists_scalar_of_encodable value h
  | .map entries => fun h => exists_scalar_of_entriesEncodable entries h
  | .null | .bool _ | .int _ | .float _ | .text _ | .date _ | .moment _ => fun h => ⟨_, h⟩

theorem exists_scalar_of_itemsEncodable {fault : Fault} : (items : List Data) →
    Json.itemsEncodable items = .error fault → ∃ scalar, Json.scalarEncodable scalar = .error fault
  | [] => fun h => by cases h
  | item :: rest => fun h => by
      rcases then_eq_error h with h | h
      · exact exists_scalar_of_encodable item h
      · exact exists_scalar_of_itemsEncodable rest h

theorem exists_scalar_of_entriesEncodable {fault : Fault} : (entries : List (Data × Data)) →
    Json.entriesEncodable entries = .error fault →
      ∃ scalar, Json.scalarEncodable scalar = .error fault
  | [] => fun h => by cases h
  | (key, value) :: rest => fun h => by
      rcases then_eq_error h with h | h
      · exact ⟨key, h⟩
      · rcases then_eq_error h with h | h
        · exact exists_scalar_of_encodable value h
        · exact exists_scalar_of_entriesEncodable rest h

end

/-- Faults that leave the same in the log of a run. -/
def SameEntry (f g : Fault) : Prop :=
  ∀ w, outcomeEntry w (.error f) = outcomeEntry w (.error g)

theorem interchangeable_sameEntry : Interchangeable SameEntry :=
  ⟨fun _ _ => rfl, fun _ _ h => h⟩

theorem entry_of_encodable {data : Data} {fault : Fault} (h : Json.encodable data = .error fault)
    (w : WindowRun) : outcomeEntry w (.error fault) = .windowFailed w.detection w.window := by
  obtain ⟨scalar, hscalar⟩ := exists_scalar_of_encodable data h
  unfold Json.scalarEncodable at hscalar
  split at hscalar
  · cases hscalar
    rfl
  · cases hscalar
    rfl
  · split at hscalar
    · cases hscalar
    · cases hscalar
      rfl
  · split at hscalar
    · cases hscalar
      rfl
    · cases hscalar
  · cases hscalar

theorem sorted_question {d d' : RemoteDetector} (h : SameDetector d d') (w : Window)
    (urn : String) : (d.question w urn).sorted = (d'.question w urn).sorted := by
  have hparameters : (Data.map d.parameters).sorted = (Data.map d'.parameters).sorted :=
    h.parameters
  simp only [RemoteDetector.question, ofFields, List.map, sorted, sortedValues] at hparameters ⊢
  rw [hparameters]

/-- Detectors that are the same are told the same and answer the same. What stands in the way of a
question depends on the order of its entries, but not that something does. -/
theorem coupled_ask {d d' : RemoteDetector} (hd : SameDetector d d') {n n' : Network}
    (hn : SameTraffic n n') (w : Window) (urn : String) :
    Coupled Eq SameEntry (d.ask w urn n).1 (d'.ask w urn n').1 ∧
      SameDetector (d.ask w urn n).2.1 (d'.ask w urn n').2.1 ∧
      SameTraffic (d.ask w urn n).2.2 (d'.ask w urn n').2.2 := by
  obtain ⟨hclient, hready⟩ := sameTraffic_ready hd.client hn
  have hquestion := sorted_question hd w urn
  have hencodable := encodable_eq_ok_iff_of_sorted hquestion
  rw [RemoteDetector.ask, RemoteDetector.ask]
  dsimp only
  cases hasked : Json.encodable (d.question w urn) with
  | error fault =>
      cases hasked' : Json.encodable (d'.question w urn) with
      | error fault' =>
          refine ⟨.error fun w => ?_, ⟨hd.endpoint, hd.parameters, hclient⟩, hready⟩
          rw [entry_of_encodable hasked, entry_of_encodable hasked']
      | ok _ => cases hasked.symm.trans (hencodable.mpr hasked')
  | ok _ =>
      rw [hencodable.mp hasked]
      have hrequest : SameRequest
          { Request.ofAddress "POST" d.endpoint (some (d.question w urn)) with
            headers := (d.client.ready n).1.headers }
          { Request.ofAddress "POST" d'.endpoint (some (d'.question w urn)) with
            headers := (d'.client.ready n').1.headers } := by
        rw [Request.ofAddress, Request.ofAddress, ← hd.endpoint]
        exact ⟨rfl, rfl, rfl, congrArg some hquestion, hclient.headers⟩
      obtain ⟨hanswer, hsent⟩ := sameTraffic_send hrequest (d.client.ready n).1.peer hready
      dsimp only [Client.send]
      rw [← hclient.peer, ← hanswer]
      exact ⟨coupled_of_imp (fun _ _ h => h ▸ fun _ => rfl) (coupled_eq_iff.mpr rfl),
        ⟨hd.endpoint, hd.parameters, hclient⟩, hsent⟩

theorem sameRegistry_close {r r' : Registry} (h : SameRegistry r r') {n n' : Network}
    (hn : SameTraffic n n') :
    SameRegistry (r.close n).1 (r'.close n').1 ∧ SameTraffic (r.close n).2 (r'.close n').2 := by
  induction h generalizing n n' with
  | nil => exact ⟨.nil, hn⟩
  | @cons entry entry' rest rest' hentry hrest ih =>
      obtain ⟨hname, hd⟩ := hentry
      obtain ⟨hclient, hclosed⟩ := sameTraffic_closeClient hd.client hn
      obtain ⟨hregistry, hall⟩ := ih hclosed
      exact ⟨.cons ⟨hname, hd.endpoint, hd.parameters, hclient⟩ hregistry, hall⟩

end AnomalyWindows.Proofs.ReorderedDetectors
