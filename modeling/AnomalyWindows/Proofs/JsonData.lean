import AnomalyWindows.Proofs.CatalogRoundTrip
import AnomalyWindows.Proofs.WrittenIntegers
import AnomalyWindows.Service.Basic

namespace AnomalyWindows.Proofs.JsonData

open Data hiding isWritable
open Text Number
open AnomalyWindows.Proofs.CatalogRoundTrip
open AnomalyWindows.Proofs.WrittenMoments AnomalyWindows.Proofs.WrittenIntegers

theorem isWritable_iff {n : Int} : isWritable n = true ↔ n.natAbs < 10 ^ maxDigits := by
  rw [isWritable, decide_eq_true_eq]
  exact Nat.length_toDigits_le_iff (by decide) (by decide)

theorem isWritable_signed_ofDigits (negative : Bool) {digits : List Nat}
    (hdigits : ∀ d ∈ digits, d < 10) (hlength : digits.length ≤ maxDigits) :
    isWritable (signed negative (ofDigits digits)) = true := by
  rw [isWritable_iff, natAbs_signed]
  exact (ofDigits_lt hdigits).trans_le (Nat.pow_le_pow_right (by decide) hlength)

/-- Data as JSON has it: no dates, moments or pairs, no integers of too many digits, and maps have
texts as keys. -/
inductive IsJson : Data → Prop
  | null : IsJson .null
  | bool (b : Bool) : IsJson (.bool b)
  | int {n : Int} (h : Text.isWritable n = true) : IsJson (.int n)
  | float (x : Float) : IsJson (.float x)
  | text (s : String) : IsJson (.text s)
  | list {items : List Data} (h : ∀ item ∈ items, IsJson item) : IsJson (.list items)
  | map {entries : List (Data × Data)} (hkeys : ∀ entry ∈ entries, ∃ name, entry.1 = .text name)
      (hvalues : ∀ entry ∈ entries, IsJson entry.2) : IsJson (.map entries)

def AreEntries (entries : List (Data × Data)) : Prop :=
  ∀ entry ∈ entries, (∃ name, entry.1 = .text name) ∧ IsJson entry.2

theorem isJson_map {entries : List (Data × Data)} (h : AreEntries entries) :
    IsJson (.map entries) :=
  .map (fun entry hentry => (h entry hentry).1) fun entry hentry => (h entry hentry).2

theorem areEntries_put {entries : List (Data × Data)} (h : AreEntries entries) {key value : Data}
    (hkey : ∃ name, key = .text name) (hvalue : IsJson value) :
    AreEntries (Data.put key value entries) := by
  induction entries with
  | nil => exact List.forall_mem_singleton.mpr ⟨hkey, hvalue⟩
  | cons entry rest ih =>
      obtain ⟨hentry, hrest⟩ := List.forall_mem_cons.mp h
      rw [Data.put]
      split
      · exact List.forall_mem_cons.mpr ⟨⟨hentry.1, hvalue⟩, hrest⟩
      · exact List.forall_mem_cons.mpr ⟨hentry, ih hrest⟩

theorem areEntries_foldl {more : List (Data × Data)} (hmore : AreEntries more)
    {entries : List (Data × Data)} (h : AreEntries entries) :
    AreEntries (more.foldl (fun entries (k, v) => Data.put k v entries) entries) := by
  induction more generalizing entries with
  | nil => exact h
  | cons entry rest ih =>
      obtain ⟨⟨hkey, hvalue⟩, hrest⟩ := List.forall_mem_cons.mp hmore
      exact ih hrest (areEntries_put h hkey hvalue)

def Gives {α : Type} (P : α → Prop) : Except Json.Stop (α × List Char) → Prop
  | .ok (x, _) => P x
  | .error _ => True

theorem of_gives {α : Type} {P : α → Prop} {result : Except Json.Stop (α × List Char)}
    (h : Gives P result) {x : α} {rest : List Char} (hresult : result = .ok (x, rest)) : P x := by
  rw [hresult] at h
  exact h

theorem gives_number (opening cs : List Char) (negative : Bool) :
    Gives IsJson (Json.number opening negative cs) := by
  unfold Json.number
  split
  next whole rest hwhole =>
    have hdigits : ∀ d ∈ whole, d < 10 := by
      split at hwhole
      · cases hwhole
        decide
      · exact lt_of_takeDigits hwhole
    split
    · exact trivial
    · split
      split
      split
      · split
        · next hlength => exact .int (isWritable_signed_ofDigits negative hdigits hlength)
        · exact trivial
      · exact .float _

theorem gives_scalar (cs : List Char) : Gives IsJson (Json.scalar cs) := by
  unfold Json.scalar
  split
  · exact .null
  · exact .bool true
  · exact .bool false
  · exact .float _
  · exact .float _
  · exact .float _
  · exact gives_number _ _ _
  · exact gives_number _ _ _

/-- What readers with some fuel give, on top of what they were given. -/
structure GivesJson (fuel : Nat) : Prop where
  value : ∀ cs, Gives IsJson (Json.value fuel cs)
  items : ∀ cs done, (∀ item ∈ done, IsJson item) →
    Gives (fun all => ∀ item ∈ all, IsJson item) (Json.items fuel cs done)
  members : ∀ cs done, AreEntries done → Gives AreEntries (Json.members fuel cs done)

theorem gives_value_succ {fuel : Nat} (h : GivesJson fuel) (cs : List Char) :
    Gives IsJson (Json.value (fuel + 1) cs) := by
  rw [Json.value.eq_def]
  dsimp only
  split
  · split
    · exact .text _
    · exact trivial
  · split
    · exact .list nofun
    · split
      · next hread =>
        have hitems := of_gives (h.items _ [] nofun) hread
        exact .list fun item hitem => hitems item (List.mem_reverse.mp hitem)
      · exact trivial
  · split
    · exact .map nofun nofun
    · split
      · next hread =>
        have hmembers := of_gives (h.members _ [] nofun) hread
        exact isJson_map (areEntries_foldl (fun entry hentry =>
          hmembers entry (List.mem_reverse.mp hentry)) nofun)
      · exact trivial
  · exact gives_scalar cs

theorem gives_items_succ {fuel : Nat} (h : GivesJson fuel) (cs : List Char) {done : List Data}
    (hdone : ∀ item ∈ done, IsJson item) :
    Gives (fun all => ∀ item ∈ all, IsJson item) (Json.items (fuel + 1) cs done) := by
  rw [Json.items.eq_def]
  dsimp only
  split
  · next item _ hread =>
    have hall : ∀ item' ∈ item :: done, IsJson item' :=
      List.forall_mem_cons.mpr ⟨of_gives (h.value cs) hread, hdone⟩
    split
    · exact hall
    · exact h.items _ _ hall
    · exact trivial
  · exact trivial

theorem gives_members_succ {fuel : Nat} (h : GivesJson fuel) (cs : List Char)
    {done : List (Data × Data)} (hdone : AreEntries done) :
    Gives AreEntries (Json.members (fuel + 1) cs done) := by
  rw [Json.members.eq_def]
  dsimp only
  split
  · split
    · split
      · split
        · next name _ _ _ _ _ _ value _ hread =>
          have hall : AreEntries ((.text name, value) :: done) :=
            List.forall_mem_cons.mpr ⟨⟨⟨name, rfl⟩, of_gives (h.value _) hread⟩, hdone⟩
          split
          · exact hall
          · exact h.members _ _ hall
          · exact trivial
        · exact trivial
      · exact trivial
    · exact trivial
  · exact trivial

theorem givesJson (fuel : Nat) : GivesJson fuel := by
  -- The three readers call one another with less fuel, so one induction carries all of them.
  induction fuel with
  | zero => exact ⟨fun _ => trivial, fun _ _ _ => trivial, fun _ _ _ => trivial⟩
  | succ fuel ih =>
      exact ⟨gives_value_succ ih, fun cs _ => gives_items_succ ih cs,
        fun cs _ => gives_members_succ ih cs⟩

theorem isJson_of_read {cs : List Char} {data : Data} (h : Json.read cs = .ok data) :
    IsJson data := by
  rw [Json.read] at h
  split at h
  · next hread =>
    split at h
    · exact Except.ok.inj h ▸ of_gives ((givesJson _).value _) hread
    · cases h
  · cases h
  · cases h

theorem isJson_of_ofText {text : String} {data : Data} (h : Json.ofText text = .ok data) :
    IsJson data := by
  rw [Json.ofText] at h
  split at h
  · exact isJson_of_read h
  · exact isJson_of_read h

theorem length_digitGroups?_le {digitOf : Char → Option Nat} {cs : List Char} {digits : List Nat}
    (h : digitGroups? digitOf cs = some digits) : digits.length ≤ cs.length := by
  induction cs using digitGroups?.induct generalizing digits with
  | case1 => cases h
  | case2 c =>
      obtain ⟨d, -, rfl⟩ := Option.map_eq_some_iff.mp h
      exact Nat.le_refl 1
  | case3 c rest ih =>
      simp only [digitGroups?, Option.bind_eq_bind, Option.bind_eq_some_iff] at h
      obtain ⟨d, -, rest, hrest, h⟩ := h
      cases h
      have hlength := ih hrest
      simp only [List.length_cons]
      omega
  | case4 c rest hsingle hgroup ih =>
      simp only [digitGroups?, Option.bind_eq_bind, Option.bind_eq_some_iff] at h
      obtain ⟨d, -, rest, hrest, h⟩ := h
      cases h
      have hlength := ih hrest
      simp only [List.length_cons]
      omega

theorem length_takeSign_le (cs : List Char) : (takeSign cs).2.length ≤ cs.length := by
  unfold takeSign
  split <;> simp

theorem length_beforePoint?_le {cs whole : List Char} (h : beforePoint? cs = some whole) :
    whole.length ≤ cs.length := by
  have hspan : (cs.span (· != '.')).1.length ≤ cs.length := by
    rw [List.span_eq_takeWhile_dropWhile]
    exact (List.takeWhile_prefix _).length_le
  unfold beforePoint? at h
  split at h
  · next heq =>
      rw [heq] at hspan
      exact Option.some.inj h ▸ hspan
  · next heq =>
      rw [heq] at hspan
      split at h
      · exact Option.some.inj h ▸ hspan
      · cases h

theorem isWritable_of_integerText? {cs : List Char} {n : Int} (hlength : cs.length ≤ maxDigits)
    (h : integerText? cs = some n) : isWritable n = true := by
  unfold integerText? at h
  dsimp only at h
  split at h
  · next whole hwhole =>
      obtain ⟨digits, hdigits, rfl⟩ := Option.map_eq_some_iff.mp h
      have hsigned := length_takeSign_le cs
      have hbefore := length_beforePoint?_le hwhole
      have hgroups := length_digitGroups?_le hdigits
      exact isWritable_signed_ofDigits _
        (digits_lt_of_digitGroups? (fun _ _ => asciiDigit?_lt) hdigits) (by omega)
  · cases h

theorem isWritable_of_fitsWord {n : Int} (hlow : -wordLimit < n) (hhigh : n < wordLimit) :
    isWritable n = true := by
  have hword : n.natAbs < 10 ^ 19 := by
    simp only [wordLimit] at hlow hhigh
    omega
  exact isWritable_iff.mpr (hword.trans_le (Nat.pow_le_pow_right (by decide) (by decide)))

theorem isWritable_of_readInt {data : Data} (hjson : IsJson data) {n : Int}
    (h : readInt data = .valid n) : isWritable n = true := by
  cases hjson with
  | int hwritable =>
      cases h
      exact hwritable
  | bool b =>
      cases h
      cases b <;> exact isWritable_of_fitsWord (by decide) (by decide)
  | float x =>
      rw [readInt, integerOfFloat] at h
      split at h
      · cases h
      · split at h
        · cases h
        · split at h
          · next hrange =>
              cases h
              exact isWritable_of_fitsWord hrange.1 hrange.2
          · cases h
  | text s =>
      simp only [readInt] at h
      split at h
      · cases h
      · next hlength =>
          split at h
          · next hread =>
              cases h
              exact isWritable_of_integerText? (Nat.not_lt.mp hlength) hread
          · cases h
  | _ => cases h

/-- What stands under names in a record is JSON. -/
def HasJson (r : Record) : Prop :=
  ∀ name value, named? name r = some value → IsJson value

theorem hasJson_of_isJson {entries : Record} (h : IsJson (.map entries)) : HasJson entries := by
  intro name value hvalue
  obtain ⟨entry, hentry, rfl⟩ := Option.map_eq_some_iff.mp hvalue
  cases h with
  | map hkeys hvalues => exact hvalues entry (List.mem_of_find?_eq_some hentry)

variable {α : Type}

theorem of_optional {r : Record} (hjson : HasJson r) {name : String} {read : Data → Checked α}
    {default a : α} {P : α → Prop} (h : r.optional name read default = .valid a)
    (hdefault : P default) (hread : ∀ value, IsJson value → read value = .valid a → P a) : P a := by
  rw [Record.optional] at h
  split at h
  · next value hvalue =>
      exact hread value (hjson name value hvalue) (Checked.inField_valid_iff.mp h)
  · cases h
    exact hdefault

theorem isWritable_of_orNull {data : Data} (hjson : IsJson data) {n : Option Int}
    (h : orNull readInt data = .valid n) : n.all isWritable = true := by
  unfold orNull at h
  split at h
  · cases h
    rfl
  · cases hread : readInt data with
    | valid value =>
        rw [hread] at h
        cases h
        rw [Option.all_some]
        exact isWritable_of_readInt hjson hread
    | wrong problems =>
        rw [hread] at h
        cases h

theorem isWritable_of_optional {r : Record} (hjson : HasJson r) {name : String} {default n : Int}
    (h : r.optional name readInt default = .valid n) (hdefault : isWritable default = true) :
    isWritable n = true :=
  of_optional (P := fun n => isWritable n = true) hjson h hdefault
    fun _ hjson hread => isWritable_of_readInt hjson hread

theorem isWritable_of_optional_orNull {r : Record} (hjson : HasJson r) {name : String}
    {n : Option Int} (h : r.optional name (orNull readInt) none = .valid n) :
    n.all isWritable = true :=
  of_optional (P := fun n => n.all isWritable = true) hjson h rfl
    fun _ hjson hread => isWritable_of_orNull hjson hread

theorem isWritable_of_granularity {otherwise : ProblemKind} {data : Data} (hjson : IsJson data)
    {g : Granularity} (h : Granularity.ofData otherwise data = .valid g) :
    isWritable g.size = true := by
  cases hjson with
  | text s =>
      simp only [Granularity.ofData, Granularity.ofText] at h
      split at h
      · cases h
      · next size hsize =>
          obtain ⟨unit, -, rfl⟩ := Checked.map_valid_iff.mp h
          exact isWritable_iff.mpr (natAbs_lt_of_integer? hsize)
  | map hkeys hvalues =>
      obtain ⟨_, unit, hmade, -, rfl⟩ := Checked.seq_valid_iff.mp h
      obtain ⟨size, hsize, rfl⟩ := Checked.map_valid_iff.mp hmade
      exact isWritable_of_optional (hasJson_of_isJson (.map hkeys hvalues)) hsize
        (isWritable_of_fitsWord (by decide) (by decide))
  | _ => cases h

theorem isWritable_of_ofData {otherwise : ProblemKind} {data : Data} (hjson : IsJson data)
    {d : Detection} (h : Detection.ofData otherwise data = .valid d) :
    d.toData.isWritable = true := by
  cases hjson with
  | map hkeys hvalues =>
      have hfields := hasJson_of_isJson (.map hkeys hvalues)
      obtain ⟨_, lookback, h₁, hlookback, rfl⟩ := Checked.seq_valid_iff.mp h
      obtain ⟨_, bucket, h₂, -, rfl⟩ := Checked.seq_valid_iff.mp h₁
      obtain ⟨_, timezone, h₃, -, rfl⟩ := Checked.seq_valid_iff.mp h₂
      obtain ⟨_, frequency, h₄, hfrequency, rfl⟩ := Checked.seq_valid_iff.mp h₃
      obtain ⟨_, windowUnit, h₅, -, rfl⟩ := Checked.seq_valid_iff.mp h₄
      obtain ⟨_, windowSize, h₆, hwindowSize, rfl⟩ := Checked.seq_valid_iff.mp h₅
      obtain ⟨_, delayUnit, h₇, -, rfl⟩ := Checked.seq_valid_iff.mp h₆
      obtain ⟨_, delay, h₈, hdelay, rfl⟩ := Checked.seq_valid_iff.mp h₇
      obtain ⟨_, moving, h₉, -, rfl⟩ := Checked.seq_valid_iff.mp h₈
      obtain ⟨_, detector, h₁₀, -, rfl⟩ := Checked.seq_valid_iff.mp h₉
      obtain ⟨_, urn, h₁₁, -, rfl⟩ := Checked.seq_valid_iff.mp h₁₀
      obtain ⟨_, description, h₁₂, -, rfl⟩ := Checked.seq_valid_iff.mp h₁₁
      obtain ⟨_, name, h₁₃, -, rfl⟩ := Checked.seq_valid_iff.mp h₁₂
      obtain ⟨id, hid, rfl⟩ := Checked.map_valid_iff.mp h₁₃
      have hid : id.all isWritable = true := isWritable_of_optional_orNull hfields hid
      have hlookback : lookback.all isWritable = true :=
        isWritable_of_optional_orNull hfields hlookback
      have hdelay : isWritable delay = true := isWritable_of_optional hfields hdelay
        (isWritable_of_fitsWord (by decide) (by decide))
      have hwindowSize : isWritable windowSize = true := isWritable_of_optional hfields hwindowSize
        (isWritable_of_fitsWord (by decide) (by decide))
      have hfrequency : isWritable frequency.size = true :=
        of_optional (P := fun g : Granularity => isWritable g.size = true) hfields hfrequency
          (isWritable_of_fitsWord (by decide) (by decide))
          fun _ hjson hread => isWritable_of_granularity hjson hread
      rw [Data.isWritable, all_detection_iff isMild_isShort]
      exact ⟨hid, hdelay, hwindowSize, hfrequency, hlookback⟩
  | _ => cases h

theorem isJson_of_data {call : Call} {data : Data}
    (h : call.data = .ok data) : IsJson data := by
  rw [Call.data] at h
  split at h
  · cases h
    exact .null
  · split at h
    · next hread =>
        cases h
        exact isJson_of_ofText hread
    · cases h
    · cases h

theorem isWritable_of_read {call : Call} {otherwise : ProblemKind}
    {d : Detection} (h : call.read (Detection.ofData otherwise) = .ok d) :
    d.toData.isWritable = true := by
  rw [Call.read] at h
  cases hdata : call.data with
  | error response =>
      rw [hdata] at h
      cases h
  | ok data =>
      simp only [hdata, bind, Except.bind] at h
      split at h
      · cases h
      · rw [Call.checked] at h
        split at h
        · next hvalid =>
            cases h
            exact isWritable_of_ofData (isJson_of_data hdata) (Checked.inField_valid_iff.mp hvalid)
        · cases h

end AnomalyWindows.Proofs.JsonData
