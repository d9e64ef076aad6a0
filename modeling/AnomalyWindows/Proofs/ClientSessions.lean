import AnomalyWindows.Proofs.RunStages

namespace AnomalyWindows.Proofs.ClientSessions

open AnomalyWindows.Calendar AnomalyWindows.Detector
open AnomalyWindows.Proofs.RunStages

def peerOf : Traffic → Peer
  | .opened peer _ | .sent peer _ | .closed peer => peer

def about (peer : Peer) (events : List Traffic) : List Traffic :=
  events.filter fun t => peerOf t = peer

/-- A client is opened, and then it carries requests. -/
def IsOpenSession (peer : Peer) (events : List Traffic) : Prop :=
  ∃ timeout, ∃ requests : List Request,
    events = .opened peer timeout :: requests.map (.sent peer)

/-- A client is opened, carries requests, and is closed. -/
def IsSession (peer : Peer) (events : List Traffic) : Prop :=
  ∃ timeout, ∃ requests : List Request,
    events = .opened peer timeout :: requests.map (.sent peer) ++ [.closed peer]

/-- Events that a client has its part in: none as long as it has not been opened. -/
structure Serves (c : Client) (events : List Traffic) : Prop where
  whenOpen : c.isOpen = true → IsOpenSession c.peer (about c.peer events)
  whenClosed : c.isOpen = false → about c.peer events = []

/-- Events of which each is about the database or the detector of a name, in one session each. -/
structure InSessions (name : String) (events : List Traffic) : Prop where
  peers : ∀ t ∈ events, peerOf t = .database ∨ peerOf t = .detector name
  sessions : ∀ peer, about peer events = [] ∨ IsSession peer (about peer events)

@[simp] theorem about_append (peer : Peer) (events more : List Traffic) :
    about peer (events ++ more) = about peer events ++ about peer more :=
  List.filter_append ..

theorem about_eq_self {peer : Peer} {events : List Traffic} (h : ∀ t ∈ events, peerOf t = peer) :
    about peer events = events :=
  List.filter_eq_self.mpr fun t ht => decide_eq_true (h t ht)

theorem about_eq_nil {peer : Peer} {events : List Traffic} (h : ∀ t ∈ events, peerOf t ≠ peer) :
    about peer events = [] :=
  List.filter_eq_nil_iff.mpr fun t ht => by simpa using h t ht

theorem serves_append {c : Client} {events more : List Traffic} (h : Serves c events)
    (hmore : ∀ t ∈ more, peerOf t ≠ c.peer) : Serves c (events ++ more) := by
  have hsame : about c.peer (events ++ more) = about c.peer events := by
    rw [about_append, about_eq_nil hmore, List.append_nil]
  exact ⟨fun hopen => hsame ▸ h.whenOpen hopen, fun hclosed => hsame ▸ h.whenClosed hclosed⟩

/-- A client is used: some events are new, all of them its own. -/
structure Uses (c c' : Client) (n n' : Network) (more : List Traffic) : Prop where
  traffic : n'.traffic = n.traffic ++ more
  own : ∀ t ∈ more, peerOf t = c.peer
  peer : c'.peer = c.peer
  serves : ∀ events, Serves c events → Serves c' (events ++ more)

theorem exists_uses {c : Client} {n n' : Network} (requests : List Request)
    (h : n'.traffic = (c.ready n).2.traffic ++ requests.map (.sent c.peer)) :
    ∃ more, Uses c (c.ready n).1 n n' more := by
  have hsent : ∀ t ∈ requests.map (Traffic.sent c.peer), peerOf t = c.peer := by
    intro t ht
    obtain ⟨request, -, rfl⟩ := List.mem_map.mp ht
    rfl
  cases hopen : c.isOpen with
  | true =>
      refine ⟨requests.map (.sent c.peer), ?_, hsent, rfl, fun events hserves => ?_⟩
      · simpa [Client.ready, hopen] using h
      · obtain ⟨timeout, before, hbefore⟩ := hserves.whenOpen hopen
        refine ⟨fun _ => ⟨timeout, before ++ requests, ?_⟩, fun hclosed => nomatch hclosed⟩
        change about c.peer _ = _
        rw [about_append, hbefore, about_eq_self hsent, List.map_append, List.cons_append]
        rfl
  | false =>
      have hown : ∀ t ∈ Traffic.opened c.peer c.timeout :: requests.map (.sent c.peer),
          peerOf t = c.peer := by
        intro t ht
        rcases List.mem_cons.mp ht with rfl | ht
        · rfl
        · exact hsent t ht
      refine ⟨.opened c.peer c.timeout :: requests.map (.sent c.peer), ?_, hown, rfl,
        fun events hserves => ?_⟩
      · rw [h]
        simp [Client.ready, hopen, Network.note, Network.traffic]
      · refine ⟨fun _ => ⟨c.timeout, requests, ?_⟩, fun hclosed => nomatch hclosed⟩
        change about c.peer _ = _
        rw [about_append, hserves.whenClosed hopen, about_eq_self hown]
        rfl

theorem traffic_send (request : Request) (c : Client) (n : Network) :
    (c.send request n).2.traffic =
      n.traffic ++ [.sent c.peer { request with headers := c.headers }] := by
  unfold Client.send Network.send
  rcases Network.takeReply _ _ with ⟨response | fault, later⟩
  · simp [Network.traffic]
  · simp [Network.traffic]

theorem exists_uses_queryRange (t : Tsdb) (q : RangeQuery) (n : Network) :
    ∃ more, Uses t.client (t.queryRange q n).2.1.client n (t.queryRange q n).2.2 more :=
  exists_uses [_] (traffic_send _ (t.client.ready n).1 (t.client.ready n).2)

theorem exists_uses_ask (d : RemoteDetector) (w : Window) (urn : String) (n : Network) :
    ∃ more, Uses d.client (d.ask w urn n).2.1.client n (d.ask w urn n).2.2 more := by
  unfold RemoteDetector.ask
  cases hencodable : Json.encodable (d.question w urn) with
  | error fault =>
      simp only [hencodable]
      exact exists_uses [] (List.append_nil _).symm
  | ok _ =>
      simp only [hencodable]
      exact exists_uses [_] (traffic_send _ (d.client.ready n).1 (d.client.ready n).2)

def clients (e : Equipment) : List Client :=
  e.detectors.map (·.2.client) ++ [e.tsdb.client]

/-- The equipment of a run: its clients talk to different peers, the database among them. -/
structure Equipped (e : Equipment) : Prop where
  distinct : (e.detectors.map Prod.fst).Nodup
  named : ∀ entry ∈ e.detectors, entry.2.client.peer = .detector entry.1
  database : e.tsdb.client.peer = .database

/-- The equipment behind events of a run: who they are about, and which client serves them. -/
structure Tended (name : String) (events : List Traffic) (e : Equipment) : Prop where
  equipped : Equipped e
  serves : ∀ c ∈ clients e, Serves c events
  peers : ∀ t ∈ events, peerOf t = .database ∨ peerOf t = .detector name
  served : ∀ t ∈ events, peerOf t ∈ (clients e).map Client.peer

variable {name : String} {events more : List Traffic} {e e' : Equipment}

theorem Equipped.peers_eq (h : Equipped e) :
    (clients e).map Client.peer = (e.detectors.map Prod.fst).map .detector ++ [.database] := by
  have hdetectors : e.detectors.map (Client.peer ∘ fun entry => entry.2.client) =
      e.detectors.map (Peer.detector ∘ Prod.fst) :=
    List.map_congr_left h.named
  rw [clients, List.map_append, List.map_map, hdetectors, List.map_singleton, h.database,
    List.map_map]

theorem Equipped.distinct_peers (h : Equipped e) : ((clients e).map Client.peer).Nodup := by
  rw [h.peers_eq, List.nodup_append]
  refine ⟨List.Pairwise.map _ (fun _ _ hne => hne ∘ Peer.detector.inj) h.distinct,
    List.pairwise_singleton _ _, ?_⟩
  intro peer hpeer other hother
  obtain ⟨name, -, rfl⟩ := List.mem_map.mp hpeer
  rw [List.mem_singleton.mp hother]
  exact Peer.noConfusion

theorem tended_of_uses (h : Tended name events e) (hequipped : Equipped e')
    (hnames : e'.detectors.map Prod.fst = e.detectors.map Prod.fst) {c c' : Client}
    (hc : c ∈ clients e) (hpeer : c.peer = .database ∨ c.peer = .detector name)
    (huses : Uses c c' e.network e'.network more)
    (hothers : ∀ b ∈ clients e', b = c' ∨ b ∈ clients e ∧ b.peer ≠ c.peer) :
    Tended name (events ++ more) e' where
  equipped := hequipped
  serves := by
    intro b hb
    rcases hothers b hb with rfl | ⟨hold, hne⟩
    · exact huses.serves events (h.serves c hc)
    · exact serves_append (h.serves b hold) fun t ht heq => hne (heq.symm.trans (huses.own t ht))
  peers := by
    intro t ht
    rcases List.mem_append.mp ht with hold | hnew
    · exact h.peers t hold
    · exact huses.own t hnew ▸ hpeer
  served := by
    intro t ht
    rw [hequipped.peers_eq, hnames, ← h.equipped.peers_eq]
    rcases List.mem_append.mp ht with hold | hnew
    · exact h.served t hold
    · exact huses.own t hnew ▸ List.mem_map_of_mem hc

theorem mem_clients_iff {c : Client} :
    c ∈ clients e ↔ (∃ entry ∈ e.detectors, entry.2.client = c) ∨ c = e.tsdb.client := by
  rw [clients, List.mem_append, List.mem_map, List.mem_singleton]

theorem tended_query (h : Tended name events e) {t : Tsdb} {n : Network}
    (huses : Uses e.tsdb.client t.client e.network n more) :
    Tended name (events ++ more) { e with tsdb := t, network := n } := by
  have hdatabase := h.equipped.database
  refine tended_of_uses h ⟨h.equipped.distinct, h.equipped.named, huses.peer.trans hdatabase⟩ rfl
    (mem_clients_iff.mpr (.inr rfl)) (.inl hdatabase) huses fun b hb => ?_
  rcases mem_clients_iff.mp hb with ⟨entry, hentry, rfl⟩ | hb
  · refine .inr ⟨mem_clients_iff.mpr (.inl ⟨entry, hentry, rfl⟩), ?_⟩
    rw [h.equipped.named entry hentry, hdatabase]
    exact Peer.noConfusion
  · exact .inl hb

theorem mem_put {α κ : Type} [DecidableEq κ] {key : α → κ} {a b : α} {items : List α}
    (hdistinct : (items.map key).Nodup) (h : b ∈ Keyed.put key a items) :
    b = a ∨ b ∈ items ∧ key b ≠ key a := by
  induction items with
  | nil => exact .inl (List.mem_singleton.mp h)
  | cons c rest ih =>
    rw [List.map_cons, List.nodup_cons] at hdistinct
    by_cases hkey : key c = key a
    · rw [Keyed.put, if_pos hkey, List.mem_cons] at h
      refine h.imp_right fun hrest => ⟨List.mem_cons_of_mem c hrest, fun hb => ?_⟩
      exact hdistinct.1 (hkey ▸ hb ▸ List.mem_map_of_mem hrest)
    · rw [Keyed.put, if_neg hkey, List.mem_cons] at h
      rcases h with rfl | hrest
      · exact .inr ⟨List.mem_cons_self .., hkey⟩
      · exact (ih hdistinct.2 hrest).imp_right fun hb => ⟨List.mem_cons_of_mem c hb.1, hb.2⟩

theorem find?_eq_some {r : Registry} {d : RemoteDetector} (h : r.find? name = some d) :
    (name, d) ∈ r := by
  obtain ⟨entry, hentry, rfl⟩ := Option.map_eq_some_iff.mp h
  have hname : entry.1 = name := by simpa using List.find?_some hentry
  exact hname ▸ List.mem_of_find?_eq_some hentry

theorem tended_ask (h : Tended name events e) {d d' : RemoteDetector} {n : Network}
    (hfound : e.detectors.find? name = some d)
    (huses : Uses d.client d'.client e.network n more) :
    Tended name (events ++ more)
      { e with detectors := e.detectors.put name d', network := n } := by
  obtain ⟨hdistinct, hnamed, hdatabase⟩ := h.equipped
  have hd := find?_eq_some hfound
  have hpeer : d.client.peer = .detector name := hnamed _ hd
  have hnames : (e.detectors.put name d').map Prod.fst = e.detectors.map Prod.fst := by
    rw [Registry.put, Keyed.map_key_put, if_pos (List.mem_map_of_mem hd)]
  have hnamed' : ∀ entry ∈ e.detectors.put name d', entry.2.client.peer = .detector entry.1 := by
    intro entry hentry
    rcases mem_put hdistinct hentry with rfl | ⟨hother, -⟩
    · exact huses.peer.trans hpeer
    · exact hnamed entry hother
  refine tended_of_uses h ⟨hnames ▸ hdistinct, hnamed', hdatabase⟩ hnames
    (mem_clients_iff.mpr (.inl ⟨_, hd, rfl⟩)) (.inr hpeer) huses fun b hb => ?_
  rcases mem_clients_iff.mp hb with ⟨entry, hentry, rfl⟩ | rfl
  · rcases mem_put hdistinct hentry with rfl | ⟨hother, hne⟩
    · exact .inl rfl
    · refine .inr ⟨mem_clients_iff.mpr (.inl ⟨entry, hother, rfl⟩), ?_⟩
      rw [hnamed entry hother, hpeer]
      exact hne ∘ Peer.detector.inj
  · refine .inr ⟨mem_clients_iff.mpr (.inr rfl), ?_⟩
    rw [hpeer, hdatabase]
    exact Peer.noConfusion

def closings (cs : List Client) : List Traffic :=
  (cs.filter (·.isOpen)).map fun c => .closed c.peer

theorem traffic_close (c : Client) (n : Network) :
    (c.close n).2.traffic = n.traffic ++ closings [c] := by
  cases hopen : c.isOpen with
  | true => simp [Client.close, closings, hopen, Network.note, Network.traffic]
  | false => simp [Client.close, closings, hopen]

theorem closings_cons (c : Client) (cs : List Client) :
    closings (c :: cs) = closings [c] ++ closings cs := by
  cases hopen : c.isOpen with
  | true => simp [closings, hopen]
  | false => simp [closings, hopen]

theorem traffic_closeAll (r : Registry) (n : Network) :
    (r.close n).2.traffic = n.traffic ++ closings (r.map (·.2.client)) := by
  induction r generalizing n with
  | nil => exact (List.append_nil _).symm
  | cons entry rest ih =>
    rw [List.map_cons, closings_cons, ← List.append_assoc, ← traffic_close]
    exact ih (entry.2.client.close n).2

theorem traffic_behind (e : Equipment) :
    (Equipment.close.apply e).2.network.traffic = e.network.traffic ++ closings (clients e) := by
  have hdatabase := traffic_close e.tsdb.client (e.detectors.close e.network).2
  rw [traffic_closeAll, List.append_assoc] at hdatabase
  refine hdatabase.trans (congrArg _ ?_)
  simp [closings, clients]

theorem about_closings_of_not_mem {cs : List Client} {peer : Peer}
    (h : peer ∉ cs.map Client.peer) : about peer (closings cs) = [] := by
  refine about_eq_nil fun t ht hpeer => h ?_
  obtain ⟨c, hc, rfl⟩ := List.mem_map.mp ht
  exact hpeer ▸ List.mem_map_of_mem (List.mem_of_mem_filter hc)

theorem about_closings {cs : List Client} (hdistinct : (cs.map Client.peer).Nodup) {c : Client}
    (hc : c ∈ cs) : about c.peer (closings cs) = closings [c] := by
  induction cs with
  | nil => cases hc
  | cons b rest ih =>
    rw [List.map_cons, List.nodup_cons] at hdistinct
    rw [closings_cons, about_append]
    rcases List.mem_cons.mp hc with rfl | hrest
    · rw [about_closings_of_not_mem hdistinct.1, List.append_nil]
      refine about_eq_self fun t ht => ?_
      obtain ⟨d, hd, rfl⟩ := List.mem_map.mp ht
      rw [List.mem_singleton.mp (List.mem_of_mem_filter hd)]
      rfl
    · rw [ih hdistinct.2 hrest]
      have hne : c.peer ∉ [b].map Client.peer := by
        rw [List.map_singleton, List.mem_singleton]
        exact fun heq => hdistinct.1 (heq ▸ List.mem_map_of_mem hrest)
      rw [about_closings_of_not_mem hne, List.nil_append]

theorem inSessions_closed (h : Tended name events e) :
    InSessions name (events ++ closings (clients e)) := by
  have hsessions : ∀ peer, about peer (events ++ closings (clients e)) = [] ∨
      IsSession peer (about peer (events ++ closings (clients e))) := by
    intro peer
    rw [about_append]
    by_cases hpeer : peer ∈ (clients e).map Client.peer
    · obtain ⟨c, hc, rfl⟩ := List.mem_map.mp hpeer
      rw [about_closings h.equipped.distinct_peers hc]
      cases hopen : c.isOpen with
      | true =>
          obtain ⟨timeout, requests, hsession⟩ := (h.serves c hc).whenOpen hopen
          refine .inr ⟨timeout, requests, ?_⟩
          rw [hsession]
          simp [closings, hopen]
      | false =>
          refine .inl ?_
          rw [(h.serves c hc).whenClosed hopen]
          simp [closings, hopen]
    · refine .inl ?_
      rw [about_closings_of_not_mem hpeer, List.append_nil]
      exact about_eq_nil fun t ht heq => hpeer (heq ▸ h.served t ht)
  refine ⟨fun t ht => ?_, hsessions⟩
  rcases List.mem_append.mp ht with hevent | hclosing
  · exact h.peers t hevent
  -- A client that is closed here was opened before, so that its peer is known already.
  · obtain ⟨c, hc, rfl⟩ := List.mem_map.mp hclosing
    obtain ⟨hclient, hopen⟩ := List.mem_filter.mp hc
    obtain ⟨timeout, requests, hsession⟩ := (h.serves c hclient).whenOpen hopen
    have hopened : Traffic.opened c.peer timeout ∈ about c.peer events := by
      rw [hsession]
      exact List.mem_cons_self ..
    exact h.peers (.opened c.peer timeout) (List.mem_of_mem_filter hopened)

/-- Equipment that has been in use since the network was in a state. -/
def InUse (name : String) (start : Network) (e : Equipment) : Prop :=
  ∃ events, e.network.traffic = start.traffic ++ events ∧ Tended name events e

variable {start : Network}

theorem keeps_onStore {α : Type} (a : Act Store α) :
    Keeps (InUse name start) (Equipment.onStore a) :=
  fun _ ⟨events, htraffic, htended⟩ =>
    ⟨events, htraffic, ⟨htended.equipped.distinct, htended.equipped.named,
      htended.equipped.database⟩, htended.serves, htended.peers, htended.served⟩

theorem keeps_query (q : RangeQuery) : Keeps (InUse name start) (Equipment.query q) := by
  rintro e ⟨events, htraffic, htended⟩
  obtain ⟨more, huses⟩ := exists_uses_queryRange e.tsdb q e.network
  refine ⟨events ++ more, ?_, tended_query htended huses⟩
  rw [← List.append_assoc, ← htraffic]
  exact huses.traffic

theorem keeps_series_of_query {I : Equipment → Prop}
    (hstore : ∀ {α : Type} (a : Act Store α), Keeps I (Equipment.onStore a))
    (hquery : ∀ q, Keeps I (Equipment.query q)) (slice : Slice) :
    Keeps I (Equipment.series slice) := by
  refine keeps_bind ?_ fun totals => keeps_pure _
  refine keeps_bind (hstore _) fun metric => ?_
  cases metric with
  | none => exact fun _ h => h
  | some metric =>
      refine keeps_bind (hstore _) fun dataset => ?_
      refine keeps_bind (keeps_ofResult _) fun selector => ?_
      exact keeps_bind (hquery _) fun samples => keeps_pure _

theorem keeps_series (slice : Slice) : Keeps (InUse name start) (Equipment.series slice) :=
  keeps_series_of_query keeps_onStore keeps_query slice

theorem keeps_detect (w : Window) (urn : String) :
    Keeps (InUse name start) (Equipment.detect name w urn) := by
  rintro e ⟨events, htraffic, htended⟩
  rw [Equipment.detect, Act.apply_ofFunction]
  cases hfound : e.detectors.find? name with
  | none => exact ⟨events, htraffic, htended⟩
  | some d =>
      obtain ⟨more, huses⟩ := exists_uses_ask d w urn e.network
      refine ⟨events ++ more, ?_, tended_ask htended hfound huses⟩
      rw [← List.append_assoc, ← htraffic]
      exact huses.traffic

/-- Detectors that nobody has asked yet. -/
structure Fresh (r : Registry) : Prop where
  distinct : (r.map Prod.fst).Nodup
  named : ∀ entry ∈ r, entry.2.client.peer = .detector entry.1
  closed : ∀ entry ∈ r, entry.2.client.isOpen = false

theorem fresh_add {r r' : Registry} {entry : Data} (h : Fresh r) (hadd : r.add entry = .ok r') :
    Fresh r' := by
  obtain ⟨config, -, hadd⟩ := CalendarMoves.bind_eq_ok_iff.mp hadd
  obtain ⟨detector, hbuild, hadd⟩ := CalendarMoves.bind_eq_ok_iff.mp hadd
  obtain rfl := Except.ok.inj hadd
  have hmade : ∃ endpoint, detector =
      .make config.name endpoint config.timeout config.headers config.parameters := by
    rw [Config.build] at hbuild
    split at hbuild
    · split at hbuild
      · exact ⟨_, (Except.ok.inj hbuild).symm⟩
      · cases hbuild
    · cases hbuild
  obtain ⟨endpoint, rfl⟩ := hmade
  refine ⟨Keyed.nodup_put _ _ h.distinct, fun entry hentry => ?_, fun entry hentry => ?_⟩
  · rcases mem_put h.distinct hentry with rfl | ⟨hother, -⟩
    · rfl
    · exact h.named entry hother
  · rcases mem_put h.distinct hentry with rfl | ⟨hother, -⟩
    · rfl
    · exact h.closed entry hother

theorem fresh_ofEntries {entries : List Data} {r : Registry}
    (h : Registry.ofEntries entries = .ok r) : Fresh r := by
  suffices hfold : ∀ done, Fresh done → entries.foldlM Registry.add done = .ok r → Fresh r from
    hfold [] ⟨List.nodup_nil, nofun, nofun⟩ h
  clear h
  intro done hdone hfold
  induction entries generalizing done with
  | nil => exact Except.ok.inj hfold ▸ hdone
  | cons entry rest ih =>
    rw [List.foldlM_cons] at hfold
    obtain ⟨next, hadd, hrest⟩ := CalendarMoves.bind_eq_ok_iff.mp hfold
    exact ih next (fresh_add hdone hadd) hrest

/-- What setting up the detectors makes of equipment that has not been used. -/
structure SetUp (e e' : Equipment) : Prop where
  tsdb : e'.tsdb = e.tsdb
  network : e'.network = e.network
  fresh : Fresh e'.detectors

theorem isLoaded_of_look {α : Type} {f : Catalog → α} {s s' : Store} {x : α}
    (h : (Store.look f).apply s = (.ok x, s')) : s'.isLoaded = true := by
  obtain ⟨_, s₁, hready, h⟩ := RunSetup.apply_bind_eq_ok_iff.mp h
  obtain rfl := congrArg Prod.snd h
  obtain ⟨loaded, s₀, hlook, hready⟩ := RunSetup.apply_bind_eq_ok_iff.mp hready
  obtain ⟨hvalue, rfl⟩ := Prod.mk.inj hlook
  obtain rfl := Except.ok.inj hvalue
  cases hloaded : s.isLoaded with
  | true =>
      rw [hloaded] at hready
      obtain rfl := congrArg Prod.snd hready
      exact hloaded
  | false =>
      rw [hloaded] at hready
      obtain ⟨file, s₂, -, hread⟩ := RunSetup.apply_bind_eq_ok_iff.mp hready
      obtain ⟨data, s₃, -, hread⟩ := RunSetup.apply_bind_eq_ok_iff.mp hread
      cases data with
      | none =>
          obtain rfl := congrArg Prod.snd hread
          rfl
      | some data =>
          obtain ⟨_, s₄, -, hread⟩ := RunSetup.apply_bind_eq_ok_iff.mp hread
          obtain rfl := congrArg Prod.snd hread
          rfl

theorem setUp_apply (hfresh : Fresh e.detectors) :
    SetUp e (Equipment.setUp.apply e).2 ∧
      ((Equipment.setUp.apply e).1 = .ok () →
        (Equipment.setUp.apply e).2.store.isLoaded = true) := by
  rw [Equipment.setUp, Act.apply_bind]
  rcases hentries : (Equipment.onStore Store.detectors).apply e with ⟨fault | entries, e₁⟩
  · obtain rfl : _ = e₁ := congrArg Prod.snd hentries
    exact ⟨⟨rfl, rfl, hfresh⟩, nofun⟩
  have hloaded : e₁.store.isLoaded = true := by
    obtain rfl : _ = e₁ := congrArg Prod.snd hentries
    have hlook : ((Store.look Catalog.detectors).apply e.store).1 = .ok entries :=
      congrArg Prod.fst hentries
    exact isLoaded_of_look (Prod.ext hlook rfl)
  obtain rfl : _ = e₁ := congrArg Prod.snd hentries
  simp only [Act.apply_bind, Act.apply_ofResult]
  cases hbuilt : Registry.ofEntries entries with
  | error fault => exact ⟨⟨rfl, rfl, hfresh⟩, nofun⟩
  | ok detectors => exact ⟨⟨rfl, rfl, fresh_ofEntries hbuilt⟩, fun _ => hloaded⟩

theorem tended_fresh (hfresh : Fresh e.detectors) (hpeer : e.tsdb.client.peer = .database)
    (hclosed : e.tsdb.client.isOpen = false) : Tended name [] e where
  equipped := ⟨hfresh.distinct, hfresh.named, hpeer⟩
  serves := by
    intro c hc
    have hcold : c.isOpen = false := by
      rcases mem_clients_iff.mp hc with ⟨entry, hentry, rfl⟩ | rfl
      · exact hfresh.closed entry hentry
      · exact hclosed
    exact ⟨fun hopen => absurd (hcold.symm.trans hopen) Bool.noConfusion, fun _ => rfl⟩
  peers := nofun
  served := nofun

theorem fresh_forSite (settings : Settings) (site : Site) :
    Fresh (Equipment.forSite settings site).detectors :=
  ⟨List.nodup_nil, nofun, nofun⟩

theorem inUse_detectOver [ZoneDatabase] (settings : Settings) (s : Scheduling) (d : Detection)
    (interval : Interval) (site : Site) :
    InUse d.detectorName site.network
      ((Equipment.detectOver s d interval).apply (.forSite settings site)).2 := by
  obtain ⟨⟨htsdb, hnetwork, hfresh⟩, -⟩ := setUp_apply (fresh_forSite settings site)
  rw [Equipment.detectOver, Act.apply_bind]
  rcases hset : Equipment.setUp.apply (.forSite settings site) with ⟨result, e⟩
  rw [hset] at htsdb hnetwork hfresh
  have hready : InUse d.detectorName site.network e := by
    refine ⟨[], ?_, tended_fresh hfresh ?_ ?_⟩
    · rw [hnetwork, List.append_nil]
      rfl
    · rw [htsdb]
      rfl
    · rw [htsdb]
      rfl
  cases result with
  | error fault => exact hready
  | ok _ =>
      exact keeps_whole d interval s (fun _ => keeps_onStore _) (fun _ => keeps_onStore _)
        keeps_series keeps_detect { world := e } hready

theorem execute_apply [ZoneDatabase] {start finish : Moment} {interval : Interval}
    (h : Interval.ofMoments start finish = .ok interval) (settings : Settings) (d : Detection)
    (site : Site) :
    let ran := (Equipment.detectOver settings.scheduling d interval).apply (.forSite settings site)
    let closed := (Equipment.close.apply ran.2).2
    (Site.execute settings d start finish).apply site =
      (ran.1, ⟨closed.store, closed.network⟩) := by
  rw [Site.execute, h, Act.apply_bind, Act.apply_ofResult]
  dsimp only [Site.withEquipment, Act.apply_within, Act.andFinally, Act.apply_ofFunction]
  cases ((Equipment.detectOver settings.scheduling d interval).apply
    (.forSite settings site)).1 with
  | error fault => rfl
  | ok outcome => rfl

/-- A run over the network uses one client of the database at most, and one of the detector of its
detection. Each of them is opened once, carries requests, and is closed behind the run. -/
theorem execute_in_sessions [ZoneDatabase] (settings : Settings) (d : Detection)
    (start finish : Moment)
    (site : Site) :
    ∃ events,
      ((Site.execute settings d start finish).apply site).2.network.traffic =
        site.network.traffic ++ events ∧
      InSessions d.detectorName events := by
  cases hinterval : Interval.ofMoments start finish with
  | error fault =>
      rw [Site.execute, hinterval]
      exact ⟨[], (List.append_nil _).symm, nofun, fun _ => .inl rfl⟩
  | ok interval =>
      obtain ⟨events, htraffic, htended⟩ :=
        inUse_detectOver settings settings.scheduling d interval site
      refine ⟨_, ?_, inSessions_closed htended⟩
      rw [execute_apply hinterval, ← List.append_assoc, ← htraffic]
      exact traffic_behind _

end AnomalyWindows.Proofs.ClientSessions
