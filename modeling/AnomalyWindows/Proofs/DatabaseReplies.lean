import AnomalyWindows.Proofs.ClientSessions
import AnomalyWindows.Proofs.RunViews
import AnomalyWindows.Service.Basic

/-!
Runs over databases that answer differently. A run reads its database at most twice, and nothing
else that it asks depends on the database. Main result: a run ends in a fault for which its caller
is blamed exactly when it does so over a database that has nothing, or when a reply that it reads
makes it do so.
-/

namespace AnomalyWindows.Proofs.DatabaseReplies

open AnomalyWindows.Calendar AnomalyWindows.Run
open AnomalyWindows.Proofs.WindowAnswers AnomalyWindows.Proofs.RunVerdict
open AnomalyWindows.Proofs.RunSetup AnomalyWindows.Proofs.RunFaults
open AnomalyWindows.Proofs.RunViews AnomalyWindows.Proofs.RunStages
open AnomalyWindows.Proofs.ClientSessions

variable {α : Type}

/-- A fault that is answered as a bad request. -/
def Blames (fault : Fault) : Prop :=
  (Response.ofFault? fault).map Response.status = some 400

/-- A result that is answered as a bad request. -/
def IsRefused (result : Except Fault α) : Prop :=
  ∃ fault, result = .error fault ∧ Blames fault

theorem isRefused_error_iff {fault : Fault} :
    IsRefused (.error fault : Except Fault α) ↔ Blames fault :=
  ⟨fun ⟨_, hfault, hblames⟩ => Except.error.inj hfault ▸ hblames, fun h => ⟨fault, rfl, h⟩⟩

theorem not_isRefused_ok (x : α) : ¬ IsRefused (.ok x : Except Fault α) := by
  rintro ⟨_, h, -⟩
  cases h

theorem not_blames_outOfRange : ¬ Blames .outOfRange :=
  nofun

theorem not_blames_status (code : Int) : ¬ Blames (.status code) :=
  nofun

theorem not_blames_judgement [ZoneDatabase] {r : Run} {given : List (Except Fault (List Finding))}
    {fault : Fault}
    (h : judgement r given = .error fault) : ¬ Blames fault := by
  rcases judgement_eq_error h with ⟨cause, rfl⟩ | ⟨cause, rfl⟩
  · exact fun hblames => absurd (Option.some.inj hblames : (502 : Int) = 400) (by decide)
  · exact fun hblames => absurd (Option.some.inj hblames : (502 : Int) = 400) (by decide)

def received : Reply → Except Fault Response
  | .answered response => .ok response
  | .broken fault => .error (.transport fault)

def readReply (reply : Reply) : Except Fault (List Series.Sample) :=
  (received reply).bind Tsdb.readResponse

/-- A reply that cannot be read, where the caller is blamed for it. -/
def Misleads (reply : Reply) : Prop :=
  IsRefused (readReply reply)

def handedOut : Nat → List Reply → List Reply
  | 0, _ => []
  | k + 1, replies =>
      (Network.nextReply replies).1 :: handedOut k (Network.nextReply replies).2

/-- Some of the replies that come first mislead. -/
def Misled (count : Nat) (replies : List Reply) : Prop :=
  ∃ reply ∈ handedOut count replies, Misleads reply

@[simp] theorem not_misled_zero (replies : List Reply) : ¬ Misled 0 replies :=
  nofun

theorem misled_succ_iff (count : Nat) (replies : List Reply) :
    Misled (count + 1) replies ↔
      Misleads (Network.nextReply replies).1 ∨
        Misled count (Network.nextReply replies).2 := by
  simp [Misled, handedOut]

theorem not_misled_nil (count : Nat) : ¬ Misled count [] := by
  induction count with
  | zero => exact not_misled_zero []
  | succ count ih =>
    rw [misled_succ_iff]
    rintro (⟨fault, hfault, hblames⟩ | hlater)
    · obtain rfl : .status 404 = fault := Except.error.inj hfault
      exact not_blames_status 404 hblames
    · exact ih hlater

def addressOf (t : Tsdb) : String :=
  "GET" ++ " " ++ (Request.ofAddress "GET" (t.readUrl ++ "/api/v1/query_range") none).url

def facing (address : String) (replies : List Reply) (n : Network) : Network :=
  { n with replies := (address, replies) :: n.replies }

def isQuery : Traffic → Bool
  | .sent .database _ => true
  | _ => false

def queries (n : Network) : Nat :=
  n.record.countP isQuery

variable {address : String} {replies : List Reply}

theorem send_eq (peer : Peer) (request : Request) (n : Network) :
    n.send peer request =
      let taken := Network.takeReply (request.method ++ " " ++ request.url) n.replies
      (received taken.1, ⟨taken.2, .sent peer request :: n.record⟩) := by
  unfold Network.send
  rcases Network.takeReply _ _ with ⟨response | fault, later⟩
  · rfl
  · rfl

theorem replies_ready (c : Client) (n : Network) : (c.ready n).2.replies = n.replies := by
  unfold Client.ready
  split <;> rfl

theorem ready_facing (c : Client) (n : Network) :
    c.ready (facing address replies n) = ((c.ready n).1, facing address replies (c.ready n).2) := by
  cases hopen : c.isOpen <;> simp [Client.ready, hopen, facing, Network.note]

theorem send_facing {request : Request} (h : request.method ++ " " ++ request.url ≠ address)
    (peer : Peer) (n : Network) :
    (facing address replies n).send peer request =
      ((n.send peer request).1, facing address replies (n.send peer request).2) := by
  simp only [send_eq, facing, Network.takeReply, if_neg (Ne.symm h)]

theorem post_ne_addressOf (t : Tsdb) (url : String) : "POST" ++ " " ++ url ≠ addressOf t := by
  intro h
  have hchars := congrArg String.toList h
  simp [addressOf] at hchars

theorem ask_facing (hget : ∀ url, "POST" ++ " " ++ url ≠ address) (d : RemoteDetector)
    (w : Window) (urn : String) (n : Network) :
    d.ask w urn (facing address replies n) =
      ((d.ask w urn n).1, (d.ask w urn n).2.1, facing address replies (d.ask w urn n).2.2) := by
  simp only [RemoteDetector.ask, ready_facing]
  cases Json.encodable (d.question w urn) with
  | error fault => rfl
  | ok _ =>
      simp only [Client.send]
      rw [send_facing (hget _)]

theorem queries_note {t : Traffic} (h : isQuery t = false) (n : Network) :
    queries (n.note t) = queries n := by
  simp [queries, Network.note, h]

theorem queries_ready (c : Client) (n : Network) : queries (c.ready n).2 = queries n := by
  unfold Client.ready
  split
  · rfl
  · exact queries_note rfl n

theorem queries_ask {d : RemoteDetector} {name : String} (h : d.client.peer = .detector name)
    (w : Window) (urn : String) (n : Network) :
    queries (d.ask w urn n).2.2 = queries n := by
  unfold RemoteDetector.ask
  cases hencodable : Json.encodable (d.question w urn) with
  | error fault =>
      simp only [hencodable]
      exact queries_ready d.client n
  | ok _ =>
      simp only [hencodable]
      rw [queries, Client.send, send_eq, List.countP_cons_of_neg]
      · exact queries_ready d.client n
      · change ¬ isQuery (.sent d.client.peer _) = true
        rw [h]
        exact Bool.false_ne_true

theorem queries_close (c : Client) (n : Network) : queries (c.close n).2 = queries n := by
  unfold Client.close
  split
  · exact queries_note rfl n
  · rfl

theorem queries_closeAll (r : Detector.Registry) (n : Network) :
    queries (r.close n).2 = queries n := by
  induction r generalizing n with
  | nil => rfl
  | cons entry rest ih => exact (ih (entry.2.client.close n).2).trans (queries_close _ n)

theorem queries_behind (e : Equipment) :
    queries (Equipment.close.apply e).2.network = queries e.network :=
  (queries_close e.tsdb.client (e.detectors.close e.network).2).trans
    (queries_closeAll e.detectors e.network)

/-- Equipment that has read a catalog, ready for a run over the database of an address. -/
structure Poised (address : String) (c : Catalog) (e : Equipment) : Prop where
  store : ∃ file, e.store = ⟨file, c, true⟩
  address : addressOf e.tsdb = address
  database : e.tsdb.client.peer = .database
  distinct : (e.detectors.map Prod.fst).Nodup
  named : ∀ entry ∈ e.detectors, entry.2.client.peer = .detector entry.1

/-- Equipment over a database that is still to give replies, and has been asked some times. -/
structure Faces (address : String) (c : Catalog) (replies : List Reply) (asked : Nat)
    (e : Equipment) : Prop where
  poised : Poised address c e
  script : ∃ rest, e.network.replies = (address, replies) :: rest
  asked : queries e.network = asked

def withReplies (address : String) (replies : List Reply) (e : Equipment) : Equipment :=
  { e with network := facing address replies e.network }

variable {c : Catalog} {e : Equipment} {asked : Nat}

theorem faces_withReplies (h : Poised address c e) (replies : List Reply) :
    Faces address c replies (queries e.network) (withReplies address replies e) where
  poised := ⟨h.store, h.address, h.database, h.distinct, h.named⟩
  script := ⟨e.network.replies, rfl⟩
  asked := rfl

theorem apply_onStore_look (h : Poised address c e) (f : Catalog → α) :
    (Equipment.onStore (Store.look f)).apply e = (.ok (f c), e) := by
  obtain ⟨file, hstore⟩ := h.store
  rw [Equipment.onStore, Act.apply_within, hstore]
  change (Except.ok (f c), ({ e with store := ⟨file, c, true⟩ } : Equipment)) = _
  rw [← hstore]

def queryFor (c : Catalog) (slice : Slice) : Except Fault RangeQuery :=
  match c.metric? slice.metric with
  | none => .error (.unknownMetric slice.metric)
  | some metric => (metric.selector slice.filters).map fun selector =>
      ⟨selector, slice.start, slice.finish,
        (((c.dataset? metric.dataset).map Dataset.granularity).getD .hourly).step⟩

theorem exists_queryFor {slice slice' : Slice} (hmetric : slice'.metric = slice.metric)
    (hfilters : slice'.filters = slice.filters) {q : RangeQuery} (h : queryFor c slice = .ok q) :
    ∃ q', queryFor c slice' = .ok q' := by
  rw [queryFor] at h
  rw [queryFor, hmetric, hfilters]
  cases hfound : c.metric? slice.metric with
  | none =>
      rw [hfound] at h
      cases h
  | some metric =>
      rw [hfound] at h
      cases hselector : metric.selector slice.filters with
      | error fault =>
          simp only [hselector] at h
          cases h
      | ok selector => exact ⟨_, congrArg (Except.map _) hselector⟩

def pointsOf (samples : List Series.Sample) : List Point :=
  (Series.totals samples).map Series.Total.toPoint

theorem apply_series (h : Poised address c e) (slice : Slice) :
    (Equipment.series slice).apply e =
      match queryFor c slice with
      | .error fault => (.error fault, e)
      | .ok q =>
          (((Equipment.query q).apply e).1.map pointsOf, ((Equipment.query q).apply e).2) := by
  have hmetric := apply_onStore_look h (Catalog.metric? slice.metric)
  change (Equipment.onStore (Store.metric? slice.metric)).apply e = _ at hmetric
  simp only [Equipment.series, Equipment.totals, Act.apply_bind, hmetric, queryFor]
  cases c.metric? slice.metric with
  | none => rfl
  | some metric =>
      have hdataset := apply_onStore_look h (Catalog.dataset? metric.dataset)
      change (Equipment.onStore (Store.dataset? metric.dataset)).apply e = _ at hdataset
      simp only [Act.apply_bind, hdataset, Act.apply_ofResult]
      cases metric.selector slice.filters with
      | error fault => rfl
      | ok selector =>
          simp only [Except.map]
          rcases (Equipment.query _).apply e with ⟨fault | samples, e'⟩
          · rfl
          · rfl

theorem queryRange_eq (t : Tsdb) (q : RangeQuery) (n : Network) :
    t.queryRange q n =
      let taken := Network.takeReply (addressOf t) (t.client.ready n).2.replies
      (readReply taken.1, { t with client := (t.client.ready n).1 },
        ⟨taken.2, .sent t.client.peer { t.request q with headers := t.client.headers } ::
          (t.client.ready n).2.record⟩) := by
  simp only [Tsdb.queryRange, Client.send, send_eq]
  rfl

theorem apply_query (h : Faces address c replies asked e) (q : RangeQuery) :
    ((Equipment.query q).apply e).1 = readReply (Network.nextReply replies).1 ∧
      Faces address c (Network.nextReply replies).2 (asked + 1)
        ((Equipment.query q).apply e).2 := by
  obtain ⟨⟨hstore, haddress, hdatabase, hdistinct, hnamed⟩, ⟨rest, hscript⟩, hasked⟩ := h
  have hready : (e.tsdb.client.ready e.network).2.replies = (address, replies) :: rest :=
    (replies_ready e.tsdb.client e.network).trans hscript
  have htake : Network.takeReply (addressOf e.tsdb) (e.tsdb.client.ready e.network).2.replies =
      ((Network.nextReply replies).1, (address, (Network.nextReply replies).2) :: rest) := by
    rw [hready, haddress, Network.takeReply, if_pos rfl]
  simp only [Equipment.query, Act.apply_ofFunction, queryRange_eq, htake]
  refine ⟨trivial, ⟨hstore, haddress, hdatabase, hdistinct, hnamed⟩, ⟨rest, rfl⟩, ?_⟩
  rw [queries, List.countP_cons_of_pos (by rw [hdatabase]; rfl)]
  exact congrArg (· + 1) ((queries_ready e.tsdb.client e.network).trans hasked)

theorem read_of_query (h : Faces address c replies asked e) {slice : Slice} {q : RangeQuery}
    (hq : queryFor c slice = .ok q) :
    let read := (Equipment.series slice).apply e
    read.1 = (readReply (Network.nextReply replies).1).map pointsOf ∧
      Faces address c (Network.nextReply replies).2 (asked + 1) read.2 := by
  obtain ⟨hreply, hfaces⟩ := apply_query h q
  simp only [apply_series h.poised, hq]
  exact ⟨congrArg (Except.map pointsOf) hreply, hfaces⟩

theorem read_of_no_query (h : Poised address c e) {slice : Slice} {fault : Fault}
    (hq : queryFor c slice = .error fault) :
    (Equipment.series slice).apply e = (.error fault, e) := by
  rw [apply_series h, hq]

theorem exists_withReplies (h : Faces address c replies asked e) :
    ∃ e₀, e = withReplies address replies e₀ ∧ Poised address c e₀ ∧
      queries e₀.network = asked := by
  obtain ⟨⟨hstore, haddress, hdatabase, hdistinct, hnamed⟩, ⟨rest, hscript⟩, hasked⟩ := h
  refine ⟨{ e with network := { e.network with replies := rest } }, ?_,
    ⟨hstore, haddress, hdatabase, hdistinct, hnamed⟩, hasked⟩
  rw [withReplies, facing, ← hscript]

theorem detect_poised (h : Poised address c e) (name : String) (w : Window) (urn : String) :
    Poised address c ((Equipment.detect name w urn).apply e).2 ∧
      queries ((Equipment.detect name w urn).apply e).2.network = queries e.network := by
  rw [Equipment.detect, Act.apply_ofFunction]
  cases hfound : e.detectors.find? name with
  | none => exact ⟨h, rfl⟩
  | some d =>
      have hd := find?_eq_some hfound
      obtain ⟨more, huses⟩ := exists_uses_ask d w urn e.network
      refine ⟨⟨h.store, h.address, h.database, ?_, fun entry hentry => ?_⟩,
        queries_ask (h.named _ hd) w urn e.network⟩
      · exact Keyed.nodup_put _ _ h.distinct
      · rcases mem_put h.distinct hentry with rfl | ⟨hother, -⟩
        · exact huses.peer.trans (h.named _ hd)
        · exact h.named entry hother

theorem givesRecords_of_detect {around : Surroundings Equipment}
    (hdetect : around.detect = Equipment.detect) (r : Run) : GivesRecords around r := by
  intro w e found h
  rw [hdetect, Equipment.detect, Act.apply_ofFunction] at h
  split at h
  · next d _ =>
      rcases hasked : d.ask w r.detection.metricUrn e.network with ⟨fault | records, d', n⟩
      · rw [hasked] at h
        cases h
      · rw [hasked] at h
        cases h
        exact ⟨records, rfl⟩
  · cases h

theorem follows_detect (hget : ∀ url, "POST" ++ " " ++ url ≠ address) (name : String)
    (w : Window) (urn : String) :
    Follows (withReplies address replies) (Equipment.detect name w urn)
      (Equipment.detect name w urn) := by
  intro e
  simp only [Equipment.detect, Act.apply_ofFunction, withReplies]
  cases e.detectors.find? name with
  | none => rfl
  | some d => simp only [ask_facing hget]

theorem keeps_detect_faces (hget : ∀ url, "POST" ++ " " ++ url ≠ address) (name : String)
    (w : Window) (urn : String) :
    Keeps (Faces address c replies asked) (Equipment.detect name w urn) := by
  intro e h
  obtain ⟨e₀, rfl, hpoised, hasked⟩ := exists_withReplies h
  obtain ⟨hpoised', hasked'⟩ := detect_poised hpoised name w urn
  rw [follows_detect hget name w urn e₀]
  exact hasked ▸ hasked' ▸ faces_withReplies hpoised' replies

theorem answers_of_follows {σ τ : Type} {view : τ → σ} {around' : Surroundings τ}
    {around : Surroundings σ} {r : Run}
    (hdetect : ∀ w urn, Follows view (around'.detect r.detector w urn)
      (around.detect r.detector w urn)) (ws : List Window) (s : τ) :
    answers around r ws (view s) = answers around' r ws s ∧
      worldBehind around r ws (view s) = view (worldBehind around' r ws s) := by
  induction ws generalizing s with
  | nil => exact ⟨rfl, rfl⟩
  | cons w rest ih =>
    have hfirst := hdetect w r.detection.metricUrn s
    obtain ⟨hanswers, hworld⟩ := ih (answerTo around' r w s).2
    simp only [answers, worldBehind, answerTo, hfirst]
    exact ⟨congrArg _ hanswers, hworld⟩

/-- Runs over databases that answer differently, all of which have been asked the same number of
times before. A run is refused if it would be without a database, or if a reply misleads it. -/
def BlamedByReplies (before : Nat) (ran : List Reply → Except Fault α × Network) : Prop :=
  ∀ replies, IsRefused (ran replies).1 ↔
    IsRefused (ran []).1 ∨ Misled (queries (ran replies).2 - before) replies

theorem blamed_of_blind {before : Nat} {ran : List Reply → Except Fault α × Network}
    (result : Except Fault α)
    (h : ∀ replies, (ran replies).1 = result ∧ queries (ran replies).2 = before) :
    BlamedByReplies before ran := by
  intro replies
  rw [(h replies).1, (h replies).2, (h []).1, Nat.sub_self]
  exact ⟨.inl, fun hrefused => hrefused.resolve_right (not_misled_zero replies)⟩

theorem blamed_of_read {before : Nat} {ran : List Reply → Except Fault α × Network}
    (h : ∀ replies, ∃ count, queries (ran replies).2 = before + count ∧
      (IsRefused (ran replies).1 ↔ Misled count replies)) : BlamedByReplies before ran := by
  intro replies
  obtain ⟨count, hcount, hrefused⟩ := h replies
  obtain ⟨count', -, hnothing⟩ := h []
  rw [hcount, Nat.add_sub_cancel_left, hrefused, hnothing]
  exact ⟨.inr, fun hmisled => hmisled.resolve_left (not_misled_nil count')⟩

section Run

variable {r : Run} {z : Zone} {around : Surroundings Equipment}

theorem isRefused_watermark_iff [ZoneDatabase] {β : Type}
    (hzone : zoneNamed r.dataset.timezone = .ok z)
    (f : Option Moment → β) (samples : Except Fault (List Series.Sample)) :
    IsRefused (((samples.map pointsOf).bind (watermarkOf r)).map f) ↔ IsRefused samples := by
  cases samples with
  | error fault =>
      change IsRefused (Except.error fault) ↔ _
      rw [isRefused_error_iff, isRefused_error_iff]
  | ok samples =>
      change IsRefused ((watermarkOf r (pointsOf samples)).map f) ↔ _
      cases hwatermark : watermarkOf r (pointsOf samples) with
      | ok watermark => exact iff_of_false (not_isRefused_ok _) (not_isRefused_ok _)
      | error fault =>
          obtain ⟨rfl, -⟩ := (watermarkOf_eq_error_iff hzone).mp hwatermark
          refine iff_of_false ?_ (not_isRefused_ok _)
          exact fun h => not_blames_outOfRange (isRefused_error_iff.mp h)

/-- The result of a run behind its windows, where a read gives nothing. -/
def resultWithout (fault : Fault) (judged : Except Fault Progress) : Except Fault Outcome :=
  judged.bind fun _ => .error fault

variable (hseries : around.series = Equipment.series) (hdetect : around.detect = Equipment.detect)
  (hget : ∀ url, "POST" ++ " " ++ url ≠ address)
include hseries hdetect hget

theorem run_of_faces [ZoneDatabase] (hzone : zoneNamed r.dataset.timezone = .ok z) {q : RangeQuery}
    (hq : queryFor c (watermarkSlice r) = .ok q) {l l₁ : Logged Equipment}
    (hwarm : (r.warmUp around).apply l = (.ok (), l₁))
    (h : Faces address c replies asked l₁.world) :
    let ran := (r.run around).apply l
    ∃ count, queries ran.2.world.network = asked + count ∧
      (IsRefused ran.1 ↔ Misled count replies) := by
  intro ran
  obtain ⟨log, hrun⟩ := run_of_warm around r hwarm
  have hbehind : Faces address c replies asked (worldBehind around r
      (reached r (answers around r (windowsOf r) l₁.world)) l₁.world) :=
    worldBehind_keeps (fun w urn => hdetect ▸ keeps_detect_faces hget r.detector w urn) _ h
  simp only [ran, hrun]
  obtain ⟨records, hfound⟩ := exists_records_of_answers (givesRecords_of_detect hdetect r)
    (windowsOf r) l₁.world
  cases hjudged : judgement r _ with
  | error fault =>
      refine ⟨0, hbehind.asked, iff_of_false (fun hrefused => ?_) (not_misled_zero replies)⟩
      exact not_blames_judgement hjudged (isRefused_error_iff.mp hrefused)
  | ok p =>
      obtain ⟨hread, hfaces⟩ := read_of_query hbehind hq
      obtain ⟨log', hconcluded⟩ := conclude_apply around r
        ((findings_of_judgement_ok hjudged).trans hfound) ⟨_, log⟩
      dsimp only
      rw [hconcluded]
      refine ⟨1, ?_, ?_⟩
      · rw [hseries]
        exact hfaces.asked
      · rw [misled_succ_iff, or_iff_left (not_misled_zero _), hseries, hread]
        exact isRefused_watermark_iff hzone _ _

theorem run_of_blind [ZoneDatabase] {fault : Fault}
    (hq : queryFor c (watermarkSlice r) = .error fault)
    (hoff : r.policy.cachingLookback < 0) (h : Poised address c e) (log : List LogEntry)
    (replies : List Reply) :
    let ran := (r.run around).apply ⟨withReplies address replies e, log⟩
    ran.1 = resultWithout fault (judgement r (answers around r (windowsOf r) e)) ∧
      queries ran.2.world.network = queries e.network := by
  intro ran
  obtain ⟨log', hrun⟩ := run_of_warm around r (warmUp_off around hoff
    ⟨withReplies address replies e, log⟩)
  have hview : ∀ w urn, Follows (withReplies address replies) (around.detect r.detector w urn)
      (around.detect r.detector w urn) :=
    fun w urn => hdetect ▸ follows_detect hget r.detector w urn
  have hfollows := answers_of_follows hview
  have hbehind : ∀ ws, Poised address c (worldBehind around r ws e) ∧
      queries (worldBehind around r ws e).network = queries e.network :=
    fun ws => worldBehind_keeps
      (I := fun e' => Poised address c e' ∧ queries e'.network = queries e.network)
      (fun w urn e' he' => hdetect ▸ (detect_poised he'.1 r.detector w urn).imp_right fun hsame =>
        hsame.trans he'.2) ws ⟨h, rfl⟩
  simp only [ran, hrun, (hfollows _ _).1, (hfollows _ _).2]
  obtain ⟨records, hfound⟩ := exists_records_of_answers (givesRecords_of_detect hdetect r)
    (windowsOf r) e
  cases hjudged : judgement r (answers around r (windowsOf r) e) with
  | error fault' => exact ⟨rfl, (hbehind _).2⟩
  | ok p =>
      obtain ⟨log'', hconcluded⟩ := conclude_apply around r
        ((findings_of_judgement_ok hjudged).trans hfound) ⟨_, log'⟩
      dsimp only
      rw [hconcluded, hseries, read_of_no_query (faces_withReplies (hbehind _).1 replies).poised hq]
      exact ⟨rfl, (hbehind _).2⟩

theorem blamedByReplies_run [ZoneDatabase] (hzone : zoneNamed r.dataset.timezone = .ok z)
    (h : Poised address c e) (log : List LogEntry) :
    BlamedByReplies (queries e.network) fun replies =>
      let ran := (r.run around).apply ⟨withReplies address replies e, log⟩
      (ran.1, ran.2.world.network) := by
  by_cases hoff : r.policy.cachingLookback < 0
  · cases hq : queryFor c (watermarkSlice r) with
    | error fault => exact blamed_of_blind _ (run_of_blind hseries hdetect hget hq hoff h log)
    | ok q =>
        exact blamed_of_read fun replies => run_of_faces hseries hdetect hget hzone hq
          (warmUp_off around hoff _) (faces_withReplies h replies)
  by_cases hfar : LooksTooFarBack r
  · refine blamed_of_blind (.error .outOfRange) fun replies => ?_
    rw [run_of_cold around r (warmUp_of_far around hfar _)]
    exact ⟨rfl, rfl⟩
  have hwarm := fun replies => warmUp_on around (Int.not_lt.mp hoff) hfar
    ⟨withReplies address replies e, log⟩
  rw [hseries] at hwarm
  cases hq : queryFor c (lookbackSlice r) with
  | error fault =>
      refine blamed_of_blind (.error fault) fun replies => ?_
      have hcold := hwarm replies
      simp only [read_of_no_query (faces_withReplies h replies).poised hq] at hcold
      rw [run_of_cold around r hcold]
      exact ⟨rfl, rfl⟩
  | ok q =>
      refine blamed_of_read fun replies => ?_
      have hmetric : (watermarkSlice r).metric = (lookbackSlice r).metric := rfl
      have hfilters : (watermarkSlice r).filters = (lookbackSlice r).filters := rfl
      obtain ⟨q', hq'⟩ := exists_queryFor hmetric hfilters hq
      obtain ⟨hread, hfaces⟩ := read_of_query (faces_withReplies h replies) hq
      have hcome := hwarm replies
      simp only [hread] at hcome
      cases hreply : readReply (Network.nextReply replies).1 with
      | error fault =>
          rw [hreply] at hcome
          rw [run_of_cold around r hcome]
          refine ⟨1, hfaces.asked, ?_⟩
          rw [misled_succ_iff, or_iff_left (not_misled_zero _), Misleads, hreply,
            isRefused_error_iff, isRefused_error_iff]
      | ok samples =>
          rw [hreply] at hcome
          obtain ⟨count, hcount, hrefused⟩ :=
            run_of_faces hseries hdetect hget hzone hq' hcome hfaces
          refine ⟨count + 1, by rw [hcount]; omega, ?_⟩
          rw [misled_succ_iff, or_iff_right, hrefused]
          rw [Misleads, hreply]
          exact not_isRefused_ok samples

end Run

variable {names : List String}

theorem prepare_withReplies [ZoneDatabase] (names : List String) (h : Poised address c e)
    (d : Detection)
    (interval : Interval) (s : Scheduling) :
    ∃ result log, ∀ replies,
      (prepare (Equipment.surroundings names) d interval s).apply
        { world := withReplies address replies e } =
        (result, ⟨withReplies address replies e, log⟩) := by
  -- Neither series nor detectors are asked yet, so that any will do.
  let around : Surroundings Equipment :=
    { Equipment.surroundings names with
      series := fun _ => pure []
      detect := fun _ _ _ => pure none }
  have hkept : Keeps (fun l : Logged Equipment => l.world = e)
      (lookUp around d >>= settle d interval s) := by
    refine keeps_bind (keeps_lookUp (I := (· = e)) d (fun id => ?_) fun name => ?_) fun parts =>
      keeps_settle (I := (· = e)) d interval s parts
    · rintro _ rfl
      exact congrArg Prod.snd (apply_onStore_look h (Catalog.metric? id))
    · rintro _ rfl
      exact congrArg Prod.snd (apply_onStore_look h (Catalog.dataset? name))
  have hworld := hkept { world := e } rfl
  rw [← prepare_eq] at hworld
  let prepared := (prepare around d interval s).apply { world := e }
  refine ⟨prepared.1, prepared.2.log, fun replies => ?_⟩
  have hshadows : Shadows (withReplies address replies) around around :=
    ⟨fun _ _ => rfl, fun _ _ => rfl, fun _ => follows_pure _, rfl, fun _ _ _ => follows_pure _⟩
  have hprepared := follows_prepare hshadows d interval s { world := e }
  rw [logged, logged, hworld] at hprepared
  exact hprepared

theorem blamedByReplies_whole [ZoneDatabase] (names : List String)
    (hget : ∀ url, "POST" ++ " " ++ url ≠ address) (h : Poised address c e) (s : Scheduling)
    (d : Detection) (interval : Interval) :
    BlamedByReplies (queries e.network) fun replies =>
      let ran := (Logged.unlogged (Run.whole (Equipment.surroundings names) s d interval)).apply
        (withReplies address replies e)
      (ran.1, ran.2.network) := by
  obtain ⟨result, log, hprepared⟩ := prepare_withReplies names h d interval s
  simp only [Logged.unlogged, Act.apply_within, Run.whole, Act.apply_bind, hprepared]
  cases result with
  | error fault => exact blamed_of_blind _ fun replies => ⟨rfl, rfl⟩
  | ok r =>
      obtain ⟨z, hzone⟩ := (ready_of_prepare (hprepared [])).datasetZone
      exact blamedByReplies_run rfl rfl hget hzone h log

theorem poised_setUp {address : String} {settings : Settings} {site : Site} {e : Equipment}
    (haddress : addressOf (Equipment.forSite settings site).tsdb = address)
    (hset : SetUp (.forSite settings site) e) (hloaded : e.store.isLoaded = true) :
    Poised address e.store.catalog e where
  store := ⟨e.store.file, by rw [← hloaded]⟩
  address := hset.tsdb ▸ haddress
  database := by
    rw [hset.tsdb]
    rfl
  distinct := hset.fresh.distinct
  named := hset.fresh.named

theorem follows_setUp : Follows (withReplies address replies) Equipment.setUp Equipment.setUp :=
  follows_bind (fun _ => rfl) fun _ => follows_bind (follows_ofResult _) fun _ _ => rfl

def databaseAddress (settings : Settings) : String :=
  addressOf (Tsdb.make settings.prometheusUrl settings.tsdbTimeout [])

def overDatabase (settings : Settings) (replies : List Reply) (site : Site) : Site :=
  { site with network := facing (databaseAddress settings) replies site.network }

theorem blamedByReplies_detectOver [ZoneDatabase] (settings : Settings) (s : Scheduling)
    (d : Detection)
    (interval : Interval) (site : Site) :
    BlamedByReplies (queries site.network) fun replies =>
      let ran := (Equipment.detectOver s d interval).apply
        (.forSite settings (overDatabase settings replies site))
      (ran.1, ran.2.network) := by
  have hstart : ∀ replies, Equipment.forSite settings (overDatabase settings replies site) =
      withReplies (databaseAddress settings) replies (.forSite settings site) := fun _ => rfl
  obtain ⟨hset, hloaded⟩ := setUp_apply (fresh_forSite settings site)
  simp only [Equipment.detectOver, Act.apply_bind, hstart, follows_setUp (.forSite settings site)]
  rcases hresult : Equipment.setUp.apply (.forSite settings site) with ⟨result, e⟩
  rw [hresult] at hset hloaded
  have hqueries : queries e.network = queries site.network := congrArg queries hset.network
  rw [← hqueries]
  cases result with
  | error fault => exact blamed_of_blind _ fun replies => ⟨rfl, rfl⟩
  | ok _ =>
      have hget : ∀ url, "POST" ++ " " ++ url ≠ databaseAddress settings := post_ne_addressOf _
      have haddress : addressOf (Equipment.forSite settings site).tsdb = databaseAddress settings :=
        rfl
      have hpoised := poised_setUp haddress hset (hloaded rfl)
      have hblamed := blamedByReplies_whole e.detectors.names hget hpoised s d interval
      exact hblamed

/-- A run is refused exactly when it would be without a database, or when one of the replies that it
reads misleads it. -/
theorem blamedByReplies_execute [ZoneDatabase] (settings : Settings) (d : Detection)
    (start finish : Moment)
    (site : Site) :
    BlamedByReplies (queries site.network) fun replies =>
      let ran := (Site.execute settings d start finish).apply (overDatabase settings replies site)
      (ran.1, ran.2.network) := by
  cases hinterval : Interval.ofMoments start finish with
  | error fault =>
      refine blamed_of_blind (.error fault) fun replies => ?_
      rw [Site.execute, hinterval]
      exact ⟨rfl, rfl⟩
  | ok interval =>
      intro replies
      have hblamed :=
        blamedByReplies_detectOver settings settings.scheduling d interval site replies
      simp only [execute_apply hinterval]
      rw [queries_behind]
      exact hblamed

end AnomalyWindows.Proofs.DatabaseReplies
