import AnomalyWindows.Calendar.ZoneTable
import AnomalyWindows.Proofs.DatabaseReplies
import AnomalyWindows.Proofs.AmountSums
import AnomalyWindows.Proofs.ReopenedStores
import AnomalyWindows.Proofs.WatermarkProgress
import Mathlib

/-!
The series that an answer of a database adds up to. The answer is an unordered heap of points: its
series overlap, and their points come in any order. Main result: the totals stand at exactly the
instants that occur in the answer, in ascending order, each of them the sum of the values that are
known there, and a watermark goes by the latest one.
-/

namespace AnomalyWindows.Proofs.SummedSeries

open Calendar Series Number
open AnomalyWindows.Watermark
open AnomalyWindows.Proofs.CalendarMoves AnomalyWindows.Proofs.AnchorWalk
open AnomalyWindows.Proofs.ZoneReading AnomalyWindows.Proofs.ClockSteps
open AnomalyWindows.Proofs.WatermarkOrder AnomalyWindows.Proofs.WatermarkProgress
open AnomalyWindows.Proofs.DatabaseReplies AnomalyWindows.Proofs.CatalogRoundTrip
open AnomalyWindows.Proofs.ReopenedStores AnomalyWindows.Proofs.AmountSums

/-- The points of one series, each of them a time and a value. -/
abbrev Line := List (Data × Data)

def row (point : Data × Data) : List Data := [point.1, point.2]

/-- A series of an answer, with labels and points. No value of a point is a truth value. -/
structure IsSeries (line : Line) (series : Data) : Prop where
  labels : ∃ labels, partOf "metric" (.map []) series = .ok (.map labels)
  points : partOf "values" (.list []) series = .ok (.list (line.map fun point => .list (row point)))
  numbers : ∀ point ∈ line, ∀ b, point.2 ≠ .bool b

/-- An answer that tells success, and its series. -/
structure IsAnswer (lines : List Line) (answer : Data) : Prop where
  succeeds : partOf "status" .null answer = .ok (.text "success")
  series : ∃ data all, partOf "data" (.map []) answer = .ok data ∧
    partOf "result" (.list []) data = .ok (.list all) ∧ List.Forall₂ IsSeries lines all

def toldBy (time : Data) : Option Int :=
  match (secondsOf time).bind instantOf with
  | .ok instant => instant
  | .error _ => none

/-- Every time tells an instant. -/
def Dated (lines : List Line) : Prop :=
  ∀ line ∈ lines, ∀ point ∈ line, ∃ t, toldBy point.1 = some t

/-- Some point of some series is at an instant. -/
def Occurs (t : Int) (lines : List Line) : Prop :=
  ∃ line ∈ lines, ∃ point ∈ line, toldBy point.1 = some t

def readings (line : Line) : List (Option Int × Amount) :=
  let column := (line.map Prod.snd).map readingOf
  line.map fun point => (toldBy point.1, holding column (readingOf point.2))

/-- What the points of an answer tell, with their values in one column. -/
def reading (lines : List Line) : List (Option Int × Amount) :=
  let all := lines.flatMap readings
  all.map fun point => (point.1, point.2.beside (all.map Prod.snd))

def knownAt (t : Int) (lines : List Line) : List Amount :=
  (((reading lines).filter fun point => point.1 = some t).map Prod.snd).filter isKnown

/-- Points in another order, in series in another order. -/
def Rearranged (lines lines' : List Line) : Prop :=
  ∃ middle, List.Forall₂ List.Perm lines middle ∧ middle.Perm lines'

theorem mem_reading_iff {lines : List Line} {t : Int} :
    (∃ point ∈ reading lines, point.1 = some t) ↔ Occurs t lines := by
  simp only [reading, List.mem_map, exists_exists_and_eq_and]
  simp [readings, Occurs]

theorem exists_point_iff {lines lines' : List Line} (h : Rearranged lines lines')
    (P : Data × Data → Prop) :
    (∃ line ∈ lines', ∃ point ∈ line, P point) ↔ ∃ line ∈ lines, ∃ point ∈ line, P point := by
  obtain ⟨middle, hpoints, hseries⟩ := h
  simp only [← hseries.mem_iff]
  clear hseries
  induction hpoints with
  | nil => rfl
  | cons hline _ ih => simp only [List.mem_cons, exists_eq_or_imp, hline.mem_iff, ih]

theorem occurs_rearranged {lines lines' : List Line} (h : Rearranged lines lines') (t : Int) :
    Occurs t lines' ↔ Occurs t lines :=
  exists_point_iff h fun point => toldBy point.1 = some t

theorem dated_iff {lines : List Line} :
    Dated lines ↔ ¬ ∃ line ∈ lines, ∃ point ∈ line, ∀ t, toldBy point.1 ≠ some t := by
  simp [Dated]

theorem dated_rearranged {lines lines' : List Line} (h : Rearranged lines lines')
    (hdated : Dated lines) : Dated lines' := by
  rw [dated_iff] at hdated ⊢
  rwa [exists_point_iff h]

theorem secondsOf_of_toldBy {time : Data} {t : Int} (h : toldBy time = some t) :
    ∃ x, secondsOf time = .ok x ∧ instantOf x = .ok (some t) := by
  rw [toldBy] at h
  split at h
  · next hinstant =>
      obtain ⟨x, hx, hinstant⟩ := bind_eq_ok_iff.mp hinstant
      exact ⟨x, hx, h ▸ hinstant⟩
  · cases h

theorem instants_of_dated {line : Line} (h : ∀ point ∈ line, ∃ t, toldBy point.1 = some t) :
    ∃ seconds, (line.mapM fun point => secondsOf point.1) = .ok seconds ∧
      seconds.mapM instantOf = .ok (line.map fun point => toldBy point.1) := by
  induction line with
  | nil => exact ⟨[], rfl, rfl⟩
  | cons point rest ih =>
      obtain ⟨t, ht⟩ := h point (by simp)
      obtain ⟨x, hx, hinstant⟩ := secondsOf_of_toldBy ht
      obtain ⟨seconds, hseconds, hinstants⟩ := ih fun p hp => h p (List.mem_cons_of_mem _ hp)
      refine ⟨x :: seconds, ?_, ?_⟩
      · rw [List.mapM_cons, hx, hseconds]
        rfl
      · rw [List.mapM_cons, hinstant, hinstants, List.map_cons, ht]
        rfl

theorem partsOf_rows (line : Line) :
    (line.map fun point => Data.list (row point)).mapM partsOf = .ok (line.map row) := by
  induction line with
  | nil => rfl
  | cons point rest ih =>
      rw [List.map_cons, List.mapM_cons, ih]
      rfl

theorem width_rows (line : Line) : ((line.map row).map List.length).foldl max 2 = 2 := by
  induction line with
  | nil => rfl
  | cons point rest ih => exact ih

theorem pairsOf_rows (point : Data × Data) (rest : Line) :
    pairsOf (.list ((point :: rest).map fun point => .list (row point))) =
      .ok (point :: rest) := by
  have hpairs : ((point :: rest).map row).map pairOf = point :: rest := by
    simp [pairOf, row, Function.comp_def]
  have hrows := partsOf_rows (point :: rest)
  rw [List.map_cons] at hrows ⊢
  rw [pairsOf, hrows]
  exact (if_pos (width_rows rest)).trans (congrArg Except.ok hpairs)

def told (s : Sample) : Option Int × Amount := (s.instant, s.value)

theorem labelsOf_eq {entries labels : List (Data × Data)}
    (h : partOf "metric" (.map []) (.map entries) = .ok (.map labels)) :
    labelsOf entries = .ok labels := by
  have h := Except.ok.inj h
  rw [labelsOf]
  cases hfound : Data.named? "metric" entries with
  | none => simpa [hfound] using h
  | some found =>
      obtain rfl : found = .map labels := by simpa [hfound] using h
      rfl

theorem told_zip (name : Data) (instants : List (Option Int)) (values : List Amount) :
    ((instants.zip values).map fun (instant, value) => Sample.mk name instant value).map told =
      instants.zip values := by
  simp [told, Function.comp_def]

theorem zip_readings (line : Line) :
    (line.map fun point => toldBy point.1).zip (valuesOf (line.map Prod.snd)) = readings line := by
  rw [valuesOf, List.map_map, List.map_map, List.zip_map', readings, List.map_map]
  rfl

theorem samplesOf_isSeries {line : Line} {series : Data} (hseries : IsSeries line series)
    (hdated : ∀ point ∈ line, ∃ t, toldBy point.1 = some t) :
    ∃ samples, samplesOf series = .ok samples ∧ samples.map told = readings line := by
  obtain ⟨⟨labels, hlabels⟩, hpoints, -⟩ := hseries
  cases series with
  | map entries =>
      have hpoints := Except.ok.inj hpoints
      rw [samplesOf, hpoints]
      cases line with
      | nil => exact ⟨[], bind_eq_ok_iff.mpr ⟨labels, labelsOf_eq hlabels, rfl⟩, rfl⟩
      | cons point rest =>
          obtain ⟨seconds, hseconds, hinstants⟩ := instants_of_dated hdated
          refine ⟨_, ?_, (told_zip (seriesName labels) _ _).trans (zip_readings (point :: rest))⟩
          exact bind_eq_ok_iff.mpr ⟨labels, labelsOf_eq hlabels,
            bind_eq_ok_iff.mpr ⟨_, pairsOf_rows point rest, bind_eq_ok_iff.mpr ⟨_, hseconds,
              bind_eq_ok_iff.mpr ⟨_, hinstants, rfl⟩⟩⟩⟩
  | _ => cases hlabels

theorem mapM_samplesOf {lines : List Line} {all : List Data} (h : List.Forall₂ IsSeries lines all)
    (hdated : Dated lines) :
    ∃ samples, all.mapM samplesOf = .ok samples ∧
      samples.flatten.map told = lines.flatMap readings := by
  induction h with
  | nil => exact ⟨[], rfl, rfl⟩
  | @cons line series lines all hline _ ih =>
      obtain ⟨samples, hsamples, htold⟩ := samplesOf_isSeries hline (hdated line (by simp))
      obtain ⟨more, hmore, htolds⟩ := ih fun l hl => hdated l (List.mem_cons_of_mem _ hl)
      refine ⟨samples :: more, ?_, ?_⟩
      · rw [List.mapM_cons, hsamples, hmore]
        rfl
      · rw [List.flatten_cons, List.map_append, htold, htolds, List.flatMap_cons]

theorem map_value_of_told {samples : List Sample} {all : List (Option Int × Amount)}
    (h : samples.map told = all) : samples.map Sample.value = all.map Prod.snd := by
  rw [← h, List.map_map]
  rfl

theorem told_together {samples : List Sample} {lines : List Line}
    (h : samples.map told = lines.flatMap readings) :
    (together samples).map told = reading lines := by
  rw [reading, ← h, ← map_value_of_told rfl, together, List.map_map, List.map_map]
  rfl

theorem ofAnswer_isAnswer {lines : List Line} {answer : Data} (hanswer : IsAnswer lines answer)
    (hdated : Dated lines) :
    ∃ samples, ofAnswer answer = .ok samples ∧ samples.map told = reading lines := by
  obtain ⟨hsucceeds, data, all, hdata, hresult, hseries⟩ := hanswer
  obtain ⟨samples, hsamples, htold⟩ := mapM_samplesOf hseries hdated
  refine ⟨together samples.flatten, ?_, told_together htold⟩
  exact bind_eq_ok_iff.mpr ⟨_, hsucceeds, bind_eq_ok_iff.mpr ⟨data, hdata,
    bind_eq_ok_iff.mpr ⟨_, hresult, bind_eq_ok_iff.mpr ⟨samples, hsamples, rfl⟩⟩⟩⟩

theorem mem_addAt {groups : List (Int × List Amount)}
    (hascending : (groups.map Prod.fst).Pairwise (· < ·)) {instant : Int} {value : Amount}
    {group : Int × List Amount} (h : group ∈ addAt instant value groups) :
    (group.1 ≠ instant ∧ group ∈ groups) ∨
      ∃ earlier, group = (instant, earlier ++ [value]) ∧
        ((instant, earlier) ∈ groups ∨ earlier = [] ∧ instant ∉ groups.map Prod.fst) := by
  induction groups with
  | nil => exact .inr ⟨[], by simpa [addAt] using h⟩
  | cons first rest ih =>
      obtain ⟨t, values⟩ := first
      simp only [List.map_cons, List.pairwise_cons] at hascending
      simp only [addAt] at h
      split at h
      · next hsame =>
          subst hsame
          rcases List.mem_cons.mp h with rfl | h
          · exact .inr ⟨values, rfl, .inl (by simp)⟩
          · have hlater := hascending.1 _ (List.mem_map_of_mem h)
            exact .inl ⟨by omega, List.mem_cons_of_mem _ h⟩
      split at h
      · next hbefore =>
          -- The groups ascend, so an instant before the first one has no group yet.
          have hlater : ∀ u ∈ ((t, values) :: rest).map Prod.fst, instant < u := by
            intro u hu
            rcases List.mem_cons.mp hu with rfl | hu
            · exact hbefore
            · exact hbefore.trans (hascending.1 u hu)
          rcases List.mem_cons.mp h with rfl | h
          · exact .inr ⟨[], rfl, .inr ⟨rfl, fun hmem => Int.lt_irrefl _ (hlater _ hmem)⟩⟩
          · exact .inl ⟨(hlater _ (List.mem_map_of_mem h)).ne', h⟩
      · next hdiffers hbefore =>
          rcases List.mem_cons.mp h with rfl | h
          · exact .inl ⟨hdiffers, by simp⟩
          · rcases ih hascending.2 h with ⟨hne, h⟩ | ⟨earlier, rfl, h | ⟨rfl, hnew⟩⟩
            · exact .inl ⟨hne, List.mem_cons_of_mem _ h⟩
            · exact .inr ⟨earlier, rfl, .inl (List.mem_cons_of_mem _ h)⟩
            · refine .inr ⟨[], rfl, .inr ⟨rfl, ?_⟩⟩
              simp only [List.map_cons, List.mem_cons, not_or]
              exact ⟨fun h => hdiffers h.symm, hnew⟩

def valuesAt (t : Int) (samples : List Sample) : List Amount :=
  (samples.filter fun s => s.instant = some t).map Sample.value

theorem byInstant_append (samples : List Sample) (s : Sample) :
    byInstant (samples ++ [s]) =
      match s.instant with
      | some instant => addAt instant s.value (byInstant samples)
      | none => byInstant samples := by
  rw [byInstant, List.foldl_append]
  rfl

theorem mem_instants_byInstant {samples : List Sample} {t : Int} :
    t ∈ (byInstant samples).map Prod.fst ↔ ∃ s ∈ samples, s.instant = some t := by
  induction samples using List.reverseRecOn with
  | nil => simp [byInstant]
  | append_singleton samples s ih =>
      rw [byInstant_append]
      simp only [List.mem_append, List.mem_singleton, or_and_right, exists_or, exists_eq_left, ← ih]
      cases hinstant : s.instant with
      | none => simp
      | some instant => rw [mem_instants_addAt, Option.some.injEq, or_comm, eq_comm]

theorem valuesAt_append (t : Int) (samples : List Sample) (s : Sample) :
    valuesAt t (samples ++ [s]) =
      if s.instant = some t then valuesAt t samples ++ [s.value] else valuesAt t samples := by
  split
  · next h => simp [valuesAt, h]
  · next h => simp [valuesAt, h]

theorem valuesAt_eq_nil {t : Int} {samples : List Sample}
    (h : t ∉ (byInstant samples).map Prod.fst) : valuesAt t samples = [] := by
  rw [mem_instants_byInstant] at h
  rw [valuesAt, List.map_eq_nil_iff, List.filter_eq_nil_iff]
  exact fun s hs hinstant => h ⟨s, hs, by simpa using hinstant⟩

theorem values_byInstant {samples : List Sample} {group : Int × List Amount}
    (h : group ∈ byInstant samples) : group.2 = valuesAt group.1 samples := by
  induction samples using List.reverseRecOn generalizing group with
  | nil => cases h
  | append_singleton samples s ih =>
      rw [byInstant_append] at h
      rw [valuesAt_append]
      cases hinstant : s.instant with
      | none =>
          rw [hinstant] at h
          exact ih h
      | some instant =>
          rw [hinstant] at h
          rcases mem_addAt (pairwise_instants_byInstant samples) h with
            ⟨hne, h⟩ | ⟨earlier, rfl, h | ⟨rfl, hnew⟩⟩
          · rw [if_neg (fun heq => hne (Option.some.inj heq).symm)]
            exact ih h
          · rw [if_pos rfl, ← ih h]
          · rw [if_pos rfl, valuesAt_eq_nil hnew]

/-- Totals of the points of an answer: one at each instant that occurs, in order, and at each of
them the sum of the values that are known there. -/
structure AddsUp (lines : List Line) (totals : List Total) : Prop where
  ascending : (totals.map Total.instant).Pairwise (· < ·)
  instants : ∀ t, t ∈ totals.map Total.instant ↔ Occurs t lines
  values : ∀ total ∈ totals, IsSum (knownAt total.instant lines) total.value
  unknown : ∀ total ∈ totals, knownAt total.instant lines = [] → total.value = .double 0.0

theorem knownAt_eq {lines : List Line} {samples : List Sample}
    (h : samples.map told = reading lines) (t : Int) :
    knownAt t lines = (valuesAt t samples).filter isKnown := by
  have hvalues : ((samples.map told).filter fun point => point.1 = some t).map Prod.snd =
      valuesAt t samples := by
    rw [List.filter_map, List.map_map]
    rfl
  rw [knownAt, ← h, hvalues]

theorem occurs_iff {lines : List Line} {samples : List Sample}
    (h : samples.map told = reading lines) (t : Int) :
    Occurs t lines ↔ ∃ s ∈ samples, s.instant = some t := by
  rw [← mem_reading_iff, ← h]
  simp [told]

theorem map_instant_totals (samples : List Sample) :
    (totals samples).map Total.instant = (byInstant samples).map Prod.fst := by
  rw [totals, List.map_map]
  rfl

theorem ofOneKind_valuesAt {lines : List Line} {samples : List Sample}
    (h : samples.map told = reading lines) (t : Int) : OfOneKind (valuesAt t samples) := by
  have hvalues : samples.map Sample.value =
      ((lines.flatMap readings).map Prod.snd).map
        (·.beside ((lines.flatMap readings).map Prod.snd)) := by
    rw [map_value_of_told h, reading, List.map_map, List.map_map]
    rfl
  have hall : OfOneKind (samples.map Sample.value) := hvalues ▸ ofOneKind_beside _
  exact hall.of_sublist (List.filter_sublist.map _)

theorem valuesAt_ne_nil {samples : List Sample} {t : Int}
    (h : t ∈ (byInstant samples).map Prod.fst) : valuesAt t samples ≠ [] := by
  obtain ⟨s, hs, hinstant⟩ := mem_instants_byInstant.mp h
  exact List.ne_nil_of_mem
    (List.mem_map_of_mem (List.mem_filter.mpr ⟨hs, decide_eq_true hinstant⟩))

theorem addsUp_totals {lines : List Line} {samples : List Sample}
    (h : samples.map told = reading lines) : AddsUp lines (totals samples) := by
  have hvalues : ∀ total ∈ totals samples,
      IsSum (knownAt total.instant lines) total.value := by
    intro total htotal
    obtain ⟨group, hgroup, rfl⟩ := List.mem_map.mp htotal
    change IsSum (knownAt group.1 lines) (sum group.2)
    rw [knownAt_eq h, values_byInstant hgroup]
    exact isSum_sum (ofOneKind_valuesAt h _) (valuesAt_ne_nil (List.mem_map_of_mem hgroup))
  refine ⟨?_, fun t => ?_, hvalues, fun total htotal hnone => ?_⟩
  · exact map_instant_totals samples ▸ pairwise_instants_byInstant samples
  · rw [map_instant_totals, mem_instants_byInstant, occurs_iff h]
  · exact eq_zero_of_isSum_nil (hnone ▸ hvalues total htotal)

theorem instants_of_rearranged {lines lines' : List Line} (h : Rearranged lines lines')
    {totals totals' : List Total} (htotals : AddsUp lines totals)
    (htotals' : AddsUp lines' totals') :
    totals'.map Total.instant = totals.map Total.instant :=
  htotals'.ascending.eq_of_mem_iff htotals.ascending fun t => by
    rw [htotals'.instants, htotals.instants, occurs_rearranged h]

theorem exists_latest {lines : List Line} {totals : List Total} (h : AddsUp lines totals)
    (hsome : ∃ t, Occurs t lines) :
    ∃ t value, Occurs t lines ∧ (∀ u, Occurs u lines → u ≤ t) ∧
      totals.getLast? = some ⟨t, value⟩ := by
  obtain ⟨t, ht⟩ := hsome
  have hmem := (h.instants t).mpr ht
  cases totals using List.reverseRecOn with
  | nil => cases hmem
  | append_singleton earlier last _ =>
      have hascending := h.ascending
      rw [List.map_append, List.pairwise_append] at hascending
      refine ⟨last.instant, last.value, (h.instants _).mp (by simp), fun u hu => ?_,
        List.getLast?_concat⟩
      have hu := (h.instants u).mpr hu
      rw [List.map_append, List.mem_append] at hu
      rcases hu with hu | hu
      · exact (hascending.2.2 u hu last.instant (by simp)).le
      · exact (List.mem_singleton.mp hu).le

theorem eq_nil_of_not_occurs {lines : List Line} {totals : List Total} (h : AddsUp lines totals)
    (hnone : ∀ t, ¬ Occurs t lines) : totals = [] :=
  List.eq_nil_iff_forall_not_mem.mpr fun _ htotal =>
    hnone _ ((h.instants _).mp (List.mem_map_of_mem htotal))

variable {e : Equipment} {c : Catalog}

def loaded (e : Equipment) (c : Catalog) : Equipment :=
  { e with store := ⟨e.store.file, c, true⟩ }

theorem knows_loaded_self (e : Equipment) (c : Catalog) : Knows (loaded e c).store c :=
  knows_loaded e.store.file c

theorem apply_metric (h : Knows e.store c) (id : Int) :
    (Equipment.onStore (Store.metric? id)).apply e = (.ok (c.metric? id), loaded e c) := by
  rw [Equipment.onStore, Act.apply_within, Store.metric?, apply_look h]
  rfl

theorem apply_dataset (h : Knows e.store c) (name : String) :
    (Equipment.onStore (Store.dataset? name)).apply e = (.ok (c.dataset? name), loaded e c) := by
  rw [Equipment.onStore, Act.apply_within, Store.dataset?, apply_look h]
  rfl

def nextOf (e : Equipment) : Reply :=
  (Network.takeReply (addressOf e.tsdb) e.network.replies).1

theorem apply_query_fst (e : Equipment) (q : RangeQuery) :
    ((Equipment.query q).apply e).1 = readReply (nextOf e) := by
  have hready : (e.tsdb.client.ready e.network).2.replies = e.network.replies := by
    unfold Client.ready
    split
    · rfl
    · rfl
  rw [Equipment.query, Act.apply_ofFunction, queryRange_eq, hready]
  rfl

theorem apply_totals (h : Knows e.store c) {slice : Slice} {q : RangeQuery}
    (hq : queryFor c slice = .ok q) :
    ((Equipment.totals slice).apply e).1 = (readReply (nextOf e)).map Series.totals := by
  rw [queryFor] at hq
  cases hmetric : c.metric? slice.metric with
  | none =>
      rw [hmetric] at hq
      cases hq
  | some metric =>
      have hq : (metric.selector slice.filters).map _ = .ok q := hmetric ▸ hq
      cases hselector : metric.selector slice.filters with
      | error fault =>
          rw [hselector] at hq
          cases hq
      | ok selector =>
          rw [hselector] at hq
          have hq : RangeQuery.mk selector slice.start slice.finish _ = q := Except.ok.inj hq
          have hreply : ((Equipment.query q).apply (loaded (loaded e c) c)).1 =
              readReply (nextOf e) := apply_query_fst _ q
          simp only [Equipment.totals, Act.apply_bind, apply_metric h, hmetric,
            apply_dataset (knows_loaded_self e c), Act.apply_ofResult, hselector]
          rw [hq, ← hreply]
          rcases (Equipment.query q).apply (loaded (loaded e c) c) with ⟨fault | samples, e'⟩
          · rfl
          · rfl

/-- The database answers the query for a slice. -/
structure IsAnswered (e : Equipment) (slice : Slice) (answer : Data) : Prop where
  asked : ∃ c q, Knows e.store c ∧ queryFor c slice = .ok q
  replied : ∃ response, nextOf e = .answered response ∧ response.isSuccess = true ∧
    response.data = .ok answer

theorem totals_of_answer {slice : Slice} {answer : Data} (hanswered : IsAnswered e slice answer)
    {lines : List Line} (hanswer : IsAnswer lines answer) (hdated : Dated lines) :
    ∃ totals, ((Equipment.totals slice).apply e).1 = .ok totals ∧ AddsUp lines totals := by
  obtain ⟨⟨c, q, hknows, hq⟩, response, hreply, hsuccess, hdata⟩ := hanswered
  obtain ⟨samples, hsamples, htold⟩ := ofAnswer_isAnswer hanswer hdated
  have hread : readReply (.answered response) = .ok samples := by
    change Tsdb.readResponse response = _
    rw [Tsdb.readResponse, Response.successful, if_pos hsuccess]
    exact bind_eq_ok_iff.mpr ⟨_, rfl, bind_eq_ok_iff.mpr ⟨answer, hdata, hsamples⟩⟩
  refine ⟨Series.totals samples, ?_, addsUp_totals htold⟩
  rw [apply_totals hknows hq, hreply, hread]
  rfl

theorem series_of_totals {slice : Slice} {totals : List Total}
    (h : ((Equipment.totals slice).apply e).1 = .ok totals) :
    (Equipment.series slice).apply e =
      (.ok (totals.map Total.toPoint), ((Equipment.totals slice).apply e).2) := by
  rw [Equipment.series, Act.apply_bind]
  rcases hasked : (Equipment.totals slice).apply e with ⟨fault | found, e'⟩
  · rw [hasked] at h
    cases h
  · rw [hasked] at h
    obtain rfl := Except.ok.inj h
    rfl

def watermark [ZoneDatabase] (names : List String) (slice : Slice) (dataset : Dataset)
    (e : Equipment) :
    Except Fault (Option Moment × List LogEntry) :=
  ((resolve (Equipment.surroundings names) ⟨slice.start, slice.finish⟩ slice.metric slice.filters
    (some dataset)).apply e).1

/-- A moment is one granularity behind an instant, or the end if that is earlier. Moments hold
microseconds, and what an instant has beyond them is cut off. On the clock of a regular zone units
other than days pass in real time. -/
structure IsBehind (g : Granularity) (z : Zone) (finish : Moment) (t : Int) (w : Moment) :
    Prop where
  onClock : w.instant =
    min (landing g.toPeriod 1 (shownOn z (.ofInstant (microsOf t)))).instant finish.instant
  exact : Regular z → g.unit ≠ .days →
    w.instant = microsOf (min (t + 1000 * g.toPeriod.exact) (1000 * finish.instant))

theorem isBehind_clamp [ZoneDatabase] {g : Granularity} {z : Zone} {name : String}
    (hzone : zoneNamed name = .ok z) (interval : Interval) (t : Int) :
    IsBehind g z interval.finish t
      (clamp interval (landing g.toPeriod 1 (shownOn z (.ofInstant (microsOf t))))) := by
  refine ⟨instant_clamp _ _, fun hz hunit => ?_⟩
  have honZone := onZone_shownOn hzone (m := .ofInstant (microsOf t)) (known_of_utc rfl)
  have hdays : g.toPeriod.calendarDays = 0 := calendarDays_of_ne_days hunit g.size
  have hshown : (shownOn z (.ofInstant (microsOf t))).instant = microsOf t :=
    (instant_shownOn hz _).trans (instant_of_utc rfl)
  rw [instant_clamp, instant_landing_of_exact hz hdays honZone, hshown]
  unfold microsOf
  omega

theorem watermark_of_last [ZoneDatabase] {names : List String} {slice : Slice} {dataset : Dataset}
    {totals : List Total} (htotals : ((Equipment.totals slice).apply e).1 = .ok totals) {t : Int}
    {value : Amount} (hlast : totals.getLast? = some ⟨t, value⟩) :
    watermark names slice dataset e =
      (ofLast ⟨slice.start, slice.finish⟩ dataset (.ofInstant (microsOf t))).map
        fun w => (some w, []) := by
  have hseries : (Equipment.surroundings names).series = Equipment.series := rfl
  have hlast : (totals.map Total.toPoint).getLast? =
      some ⟨.ofInstant (microsOf t), value.float⟩ := by
    rw [List.getLast?_map, hlast]
    rfl
  simp only [watermark, resolve, Act.apply_bind, hseries, series_of_totals htotals, hlast,
    Act.apply_ofResult]
  cases ofLast ⟨slice.start, slice.finish⟩ dataset (.ofInstant (microsOf t)) with
  | error fault => rfl
  | ok w => rfl

/-- However the series and points of an answer are ordered and overlap, its totals stand at exactly
the instants that occur in it, in ascending order, and each is the sum of the values that are known
there. A watermark is missing if nothing occurs. Else it is one granularity behind the latest
instant, or the end of the interval if this is earlier, unless the calendar ends before. -/
theorem series_of_answer [ZoneDatabase] {slice : Slice} {answer : Data}
    (hanswered : IsAnswered e slice answer)
    {lines : List Line} (hanswer : IsAnswer lines answer) (hdated : Dated lines) :
    (∃ totals, ((Equipment.totals slice).apply e).1 = .ok totals ∧ AddsUp lines totals ∧
      ∀ {e' : Equipment} {slice' : Slice} {answer' : Data} {lines' : List Line},
        IsAnswered e' slice' answer' → IsAnswer lines' answer' → Rearranged lines lines' →
        ∃ totals', ((Equipment.totals slice').apply e').1 = .ok totals' ∧
          totals'.map Total.instant = totals.map Total.instant) ∧
    ∀ (names : List String) (dataset : Dataset),
      ((∀ t, ¬ Occurs t lines) → watermark names slice dataset e =
        .ok (none, [.noData slice.metric ⟨slice.start, slice.finish⟩])) ∧
      ((∃ t, Occurs t lines) → ∃ t, Occurs t lines ∧ (∀ u, Occurs u lines → u ≤ t) ∧
        ∀ z, zoneNamed dataset.timezone = .ok z →
          (estimate dataset (.ofInstant (microsOf t)) = .error .outOfRange ∧
            watermark names slice dataset e = .error .outOfRange) ∨
          ∃ w, watermark names slice dataset e = .ok (some w, []) ∧
            IsBehind dataset.granularity z slice.finish t w) := by
  obtain ⟨totals, htotals, hadds⟩ := totals_of_answer hanswered hanswer hdated
  refine ⟨⟨totals, htotals, hadds, ?_⟩, fun names dataset => ⟨fun hnone => ?_, fun hsome => ?_⟩⟩
  · intro e' slice' answer' lines' hanswered' hanswer' hrearranged
    obtain ⟨totals', htotals', hadds'⟩ :=
      totals_of_answer hanswered' hanswer' (dated_rearranged hrearranged hdated)
    exact ⟨totals', htotals', instants_of_rearranged hrearranged hadds hadds'⟩
  · obtain rfl := eq_nil_of_not_occurs hadds hnone
    exact resolve_of_no_point (series_of_totals htotals) dataset
  · obtain ⟨t, value, ht, hlatest, hlast⟩ := exists_latest hadds hsome
    refine ⟨t, ht, hlatest, fun z hzone => ?_⟩
    rw [watermark_of_last htotals hlast, ofLast]
    by_cases hrange : estimate dataset (.ofInstant (microsOf t)) = .error .outOfRange
    · rw [hrange]
      exact .inl ⟨rfl, rfl⟩
    · rw [estimate_in_range hzone (known_of_utc rfl) hrange]
      exact .inr ⟨_, rfl, isBehind_clamp hzone ⟨slice.start, slice.finish⟩ t⟩

def oneMetric : Catalog where
  metrics := [⟨1, "visits", "web", none⟩]

def firstHour : Slice :=
  ⟨1, .ofInstant 0, .ofInstant 3600000000, []⟩

/-- Two series that overlap, the later point first. -/
def overlapping : List Line :=
  [[(.int 60, .text "1"), (.int 0, .text "3")], [(.int 0, .text "NaN")]]

def overlappingBody : String :=
  "\x7b\"status\": \"success\", \"data\": \x7b\"result\": [
\x7b\"values\": [[60, \"1\"], [0, \"3\"]]\x7d, \x7b\"values\": [[0, \"NaN\"]]\x7d]\x7d\x7d"

def overlappingAnswer : Data :=
  .ofFields [("status", .text "success"), ("data", .ofFields [("result", .list [
    .ofFields [("values", .list [.list [.int 60, .text "1"], .list [.int 0, .text "3"]])],
    .ofFields [("values", .list [.list [.int 0, .text "NaN"]])]])])]

def overlappingEquipment : Equipment where
  store := .onFile (.ofData oneMetric.toData)
  tsdb := .make "http://tsdb" 30.0 []
  detectors := []
  network := ⟨[("GET http://tsdb/api/v1/query_range", [.answered ⟨200, overlappingBody⟩])], []⟩

theorem isAnswered_overlapping : IsAnswered overlappingEquipment firstHour overlappingAnswer := by
  have hloads : Loads (.ofData oneMetric.toData) oneMetric :=
    loads_ofData ⟨by decide, by decide, by decide⟩ ⟨by decide, by decide +kernel⟩
  have haddress : addressOf overlappingEquipment.tsdb = "GET http://tsdb/api/v1/query_range" := by
    decide +kernel
  have hnext : nextOf overlappingEquipment = .answered ⟨200, overlappingBody⟩ := by
    rw [nextOf, haddress]
    exact congrArg Prod.fst (if_pos rfl)
  exact ⟨⟨oneMetric, _, knows_onFile hloads, rfl⟩, _, hnext, rfl, by cbv⟩

theorem isAnswer_overlapping : IsAnswer overlapping overlappingAnswer :=
  ⟨rfl, _, _, rfl, rfl, .cons ⟨⟨_, rfl⟩, rfl, by simp⟩ (.cons ⟨⟨_, rfl⟩, rfl, by simp⟩ .nil)⟩

theorem toldBy_zero : toldBy (.int 0) = some 0 := by decide +kernel

theorem toldBy_minute : toldBy (.int 60) = some 60000000000 := by decide +kernel

theorem dated_overlapping : Dated overlapping := by
  simp only [Dated, overlapping, List.forall_mem_cons, toldBy_zero, toldBy_minute]
  simp

theorem occurs_overlapping_iff (t : Int) :
    Occurs t overlapping ↔ t = 0 ∨ t = 60000000000 := by
  simp only [Occurs, overlapping, List.exists_mem_cons_iff, toldBy_zero, toldBy_minute,
    Option.some.injEq]
  simp
  omega

theorem knownAt_overlapping : knownAt 0 overlapping = [.double 3.0] := by
  decide +kernel

def fiveMinutes : Dataset where
  name := "web"
  granularity := ⟨5, .minutes⟩

open scoped ZoneTable

/-- The totals are in order, the first of them is the one value that is known there, and the
watermark is five minutes behind the later one. -/
theorem overlapping_in_order :
    IsAnswered overlappingEquipment firstHour overlappingAnswer ∧
    IsAnswer overlapping overlappingAnswer ∧ Dated overlapping ∧
    (∃ totals, ((Equipment.totals firstHour).apply overlappingEquipment).1 = .ok totals ∧
      totals.map Total.instant = [0, 60000000000] ∧
      ∀ total ∈ totals, total.instant = 0 → ∃ x, total.value = .double x ∧ (x == 3.0) = true) ∧
    ∃ w, watermark [] firstHour fiveMinutes overlappingEquipment = .ok (some w, []) ∧
      w.instant = 360000000 := by
  obtain ⟨⟨totals, htotals, hadds, -⟩, hwatermark⟩ :=
    series_of_answer isAnswered_overlapping isAnswer_overlapping dated_overlapping
  have hinstants : totals.map Total.instant = [0, 60000000000] :=
    hadds.ascending.eq_of_mem_iff (by decide) fun t => by
      rw [hadds.instants, occurs_overlapping_iff]
      simp
  have hfirst : ∀ total ∈ totals, total.instant = 0 →
      ∃ x, total.value = .double x ∧ (x == 3.0) = true := by
    intro total htotal hinstant
    have hsum := hadds.values total htotal
    rw [hinstant, knownAt_overlapping] at hsum
    exact single_of_isSum hsum
  obtain ⟨t, ht, hlatest, hresolved⟩ :=
    (hwatermark [] fiveMinutes).2 ⟨0, (occurs_overlapping_iff 0).mpr (.inl rfl)⟩
  obtain rfl : t = 60000000000 := by
    have hlater := hlatest 60000000000 ((occurs_overlapping_iff _).mpr (.inr rfl))
    have hsome := (occurs_overlapping_iff t).mp ht
    omega
  have hestimate : estimate fiveMinutes (.ofInstant (microsOf 60000000000)) =
      .ok ⟨360000000, false, .zone Zone.utc⟩ := rfl
  rcases hresolved Zone.utc rfl with ⟨hrange, -⟩ | ⟨w, hw, hbehind⟩
  · cases hestimate.symm.trans hrange
  exact ⟨isAnswered_overlapping, isAnswer_overlapping, dated_overlapping,
    ⟨totals, htotals, hinstants, hfirst⟩, w, hw, hbehind.exact regular_utc (by decide)⟩

end AnomalyWindows.Proofs.SummedSeries
