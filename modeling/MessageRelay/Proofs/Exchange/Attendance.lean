import MessageRelay.Proofs.Exchange.Roster

/-!
# Who is subscribed

After every run the broker counts as many consumers of a queue as there are relays that have joined it and are
neither closed nor dropped (`relays_and_broker_agree`), and as many open sessions as there are such relays
(`openSessions_eq`).  The counts follow from the roster: on both sides nobody is listed twice, and the same
sessions are listed.
-/

namespace MessageRelay

/-- Whether a relay is neither closed nor dropped. -/
def Member.isUp (m : Member) : Bool :=
  !m.dropped && !m.station.relay.closed

/-- Whether a node has not let go of its relay. -/
def Node.holdsRelay (node : Node) : Bool :=
  !node.station.relay.closed

namespace Exchange

variable {x x' : Exchange} {d d' : Doorway} {seat : Seat} {s s' : Station} {b : Broker} {name : String}
  {n : Nat} {log : List (Nat × Entry)}

/-! ## Everybody at a seat -/

/-- The stations of all relays and nodes. -/
def stations (x : Exchange) : List Station :=
  x.relays.map (·.station) ++ x.nodes.map (·.station)

lemma mem_stations : s ∈ x.stations ↔ ∃ seat, x.station? seat = some s := by
  rw [stations, List.mem_append]
  constructor
  · rintro (h | h)
    · obtain ⟨m, hm, rfl⟩ := List.mem_map.1 h
      obtain ⟨n, hn⟩ := List.mem_iff_getElem?.1 hm
      exact ⟨.relay n, by rw [station?, hn, Option.map_some]⟩
    · obtain ⟨node, hnode, rfl⟩ := List.mem_map.1 h
      obtain ⟨n, hn⟩ := List.mem_iff_getElem?.1 hnode
      exact ⟨.node n, by rw [station?, hn, Option.map_some]⟩
  · rintro ⟨seat, hs⟩
    cases seat with
    | relay n =>
      obtain ⟨m, hm, rfl⟩ := Option.map_eq_some_iff.1 hs
      exact Or.inl (List.mem_map_of_mem (List.mem_of_getElem? hm))
    | node n =>
      obtain ⟨node, hn, rfl⟩ := Option.map_eq_some_iff.1 hs
      exact Or.inr (List.mem_map_of_mem (List.mem_of_getElem? hn))

lemma nodup_map_of_getElem? {α β : Type} {l : List α} {f : α → β}
    (h : ∀ (i j : Nat) (a b : α), l[i]? = some a → l[j]? = some b → f a = f b → i = j) : (l.map f).Nodup := by
  rw [List.nodup_iff_getElem?_ne_getElem?]
  intro i j hij hj heq
  rw [List.length_map] at hj
  rw [List.getElem?_map, List.getElem?_map, List.getElem?_eq_getElem (Nat.lt_trans hij hj),
    List.getElem?_eq_getElem hj, Option.map_some, Option.map_some, Option.some.injEq] at heq
  exact Nat.ne_of_lt hij (h i j _ _ (List.getElem?_eq_getElem _) (List.getElem?_eq_getElem _) heq)

/-- No session is that of two relays. -/
lemma Roster.nodup_sessions (hr : Roster d x.station? b) : (x.stations.map (·.relay.session)).Nodup := by
  rw [stations, List.map_append, List.map_map, List.map_map, List.nodup_append]
  refine ⟨nodup_map_of_getElem? ?_, nodup_map_of_getElem? ?_, ?_⟩
  · intro i j m m' hm hm' heq
    have hs : x.station? (.relay i) = some m.station := by rw [station?, hm, Option.map_some]
    have hs' : x.station? (.relay j) = some m'.station := by rw [station?, hm', Option.map_some]
    exact Seat.relay.inj (hr.apart hs hs' heq)
  · intro i j node node' hn hn' heq
    have hs : x.station? (.node i) = some node.station := by rw [station?, hn, Option.map_some]
    have hs' : x.station? (.node j) = some node'.station := by rw [station?, hn', Option.map_some]
    exact Seat.node.inj (hr.apart hs hs' heq)
  · rintro session hsession session' hsession' rfl
    obtain ⟨m, hm, heq⟩ := List.mem_map.1 hsession
    obtain ⟨node, hnode, heq'⟩ := List.mem_map.1 hsession'
    obtain ⟨i, hi⟩ := List.mem_iff_getElem?.1 hm
    obtain ⟨j, hj⟩ := List.mem_iff_getElem?.1 hnode
    have hs : x.station? (.relay i) = some m.station := by rw [station?, hi, Option.map_some]
    have hs' : x.station? (.node j) = some node.station := by rw [station?, hj, Option.map_some]
    cases hr.apart hs hs' (heq.trans heq'.symm)

/-! ## Dropped relays -/

/-- Relays that were dropped are closed. -/
def DroppedClosed (x : Exchange) : Prop :=
  ∀ ⦃n : Nat⦄ ⦃m : Member⦄, x.relays[n]? = some m → m.dropped = true → m.station.relay.closed = true

lemma DroppedClosed.place (hx : x.DroppedClosed) (hs : x.station? seat = some s)
    (hclosed : s.relay.closed = true → s'.relay.closed = true) : (x.place seat s' b).DroppedClosed := by
  cases seat with
  | node n => exact hx
  | relay n =>
    obtain ⟨m₀, hm₀, rfl⟩ := Option.map_eq_some_iff.1 hs
    intro k m hm hdropped
    have hput : (x.put n s' b).relays[k]? = some m := hm
    obtain ⟨m₁, hm₁, ⟨rfl, rfl⟩ | ⟨-, rfl⟩⟩ := put_relays_cases hput
    · rw [hm₀, Option.some.injEq] at hm₁
      subst hm₁
      exact hclosed (hx hm₀ hdropped)
    · exact hx hm₁ hdropped

lemma DroppedClosed.deed {entries : List (Nat × Entry)} (hx : x.DroppedClosed)
    (h : Deed d x entries d' x') : x'.DroppedClosed := by
  cases h with
  | turn hs h => exact hx.place hs fun hclosed => h.steady.closed_eq.trans hclosed
  | grant hs h => exact hx.place hs id
  | tick => exact hx
  | node => exact hx
  | take hs => exact hx.place hs id
  | discard hs => exact hx.place hs fun hclosed => (discardMailbox_closed _ _).trans hclosed
  | breakStream hs => exact hx.place hs id
  | listen hs => exact hx.place hs id
  | decline => exact hx
  | retire hs => exact hx.place hs fun _ => rfl
  | leave hs hclosed => exact hx.place hs fun _ => by rw [Station.finishClose_eq]; exact hclosed
  | @drop n h =>
    intro k m hm hdropped
    rw [List.getElem?_modify] at hm
    obtain ⟨m₀, hm₀, rfl⟩ := Option.map_eq_some_iff.1 hm
    by_cases heq : n = k
    · subst heq
      rw [if_pos rfl]
      exact h m₀ hm₀
    · rw [if_neg heq] at hdropped ⊢
      exact hx hm₀ hdropped
  | office => exact hx
  | welcome => exact hx
  | enrolRelay hmem config capacity =>
    intro k m hm hdropped
    rcases enroll_cases hm with hold | ⟨-, -, rfl⟩
    · exact hx hold hdropped
    · cases hdropped
  | enrolNode => exact hx
  | dismiss => exact hx

lemma DroppedClosed.diary (hx : x.DroppedClosed) (h : Diary d x log d' x') : x'.DroppedClosed := by
  induction h with
  | start => exact hx
  | step _ hdeed ih => exact ih.deed hdeed

/-! ## Closed relays -/

/-- A relay that is closed, and not on its way out, has no consumers. -/
lemma Roster.crew_of_closed (hr : Roster {} x.station? x.broker) (hs : x.station? seat = some s)
    (hclosed : s.relay.closed = true) : s.relay.crew = [] := by
  rw [List.eq_nil_iff_forall_not_mem]
  rintro ⟨name, i⟩ hmem
  obtain ⟨owner, hregular⟩ := hr.regular
  have hslot : ⟨s.relay.session, s.relay.config.ackMode, i⟩ ∈ x.broker.audience name :=
    hr.listens.2 ⟨seat, s, hs, rfl, rfl, hmem⟩
  obtain ⟨q, hq, hq', -⟩ := Broker.mem_audience.1 hslot
  -- only open sessions have consumers, and only relays that are not closed have open sessions
  have hopen : x.broker.isOpen s.relay.session = true := (hregular.attended name hq).slots _ hq'
  rcases (hr.isOpen _).1 hopen with h | h | ⟨seat', s', hs', hclosed', heq⟩
  · cases h
  · cases h
  · have hseat := hr.apart hs' hs heq
    subst hseat
    rw [hs, Option.some.injEq] at hs'
    rw [← hs', hclosed] at hclosed'
    cases hclosed'

/-! ## Counting consumers -/

/-- Of a relay one consumer at most listens to a queue. -/
lemma Roster.nodup_audience (hr : Roster d x.station? b) (name : String) :
    ((b.audience name).map (·.session)).Nodup := by
  refine List.Nodup.map_on (fun slot hslot slot' hslot' heq => ?_) (hr.nodup name)
  obtain ⟨seat, s, hs, hpost⟩ := hr.listens.1 hslot
  obtain ⟨seat', s', hs', hpost'⟩ := hr.listens.1 hslot'
  have hseat := hr.apart hs hs' (hpost.session_eq.symm.trans (heq.trans hpost'.session_eq))
  subst hseat
  rw [hs, Option.some.injEq] at hs'
  subst hs'
  -- it is the same relay, which has one consumer for the queue
  have hstream : (name, slot.stream) = (name, slot'.stream) :=
    List.inj_on_of_nodup_map (hr.queues hs) hpost.mem hpost'.mem rfl
  cases slot
  cases slot'
  simp only [Prod.mk.injEq, true_and] at hstream
  simp only [Slot.mk.injEq]
  exact ⟨heq, hpost.mode_eq.trans hpost'.mode_eq.symm, hstream⟩

lemma hasJoined_iff_joinedSorted {r : Relay} : r.hasJoined name = true ↔ name ∈ r.joinedSorted := by
  rw [Roster.hasJoined_iff, Relay.joinedSorted, List.mem_mergeSort, Relay.joined, Relay.crew, List.map_map]
  rfl

/-- The sessions whose consumers listen to a queue are those of the relays that have joined it. -/
lemma Roster.mem_sessions (hr : Roster d x.station? b) {session : Nat} :
    session ∈ (b.audience name).map (·.session) ↔
      ∃ seat s, x.station? seat = some s ∧ s.relay.hasJoined name = true ∧ s.relay.session = session := by
  rw [List.mem_map]
  constructor
  · rintro ⟨slot, hslot, rfl⟩
    obtain ⟨seat, s, hs, hpost⟩ := hr.listens.1 hslot
    exact ⟨seat, s, hs, Roster.hasJoined_iff.2 (List.mem_map.2 ⟨_, hpost.mem, rfl⟩), hpost.session_eq.symm⟩
  · rintro ⟨seat, s, hs, hjoined, rfl⟩
    obtain ⟨⟨_, stream⟩, hmem, rfl⟩ := List.mem_map.1 (Roster.hasJoined_iff.1 hjoined)
    exact ⟨⟨s.relay.session, s.relay.config.ackMode, stream⟩, hr.listens.2 ⟨seat, s, hs, rfl, rfl, hmem⟩, rfl⟩

/-- A list of sessions, each of them once, is as long as there are relays with one of them. -/
lemma Roster.length_eq_countP (hr : Roster d x.station? b) {l : List Nat} {p : Station → Bool}
    (hnodup : l.Nodup)
    (hmem : ∀ session, session ∈ l ↔ ∃ seat s, x.station? seat = some s ∧ p s = true ∧
      s.relay.session = session) : l.length = x.stations.countP p := by
  have hkept : ((x.stations.filter p).map (·.relay.session)).Nodup :=
    hr.nodup_sessions.sublist (List.filter_sublist.map _)
  have hperm : l.Perm ((x.stations.filter p).map (·.relay.session)) := by
    rw [List.perm_ext_iff_of_nodup hnodup hkept]
    intro session
    rw [hmem, List.mem_map]
    constructor
    · rintro ⟨seat, s, hs, hp, heq⟩
      exact ⟨s, List.mem_filter.2 ⟨mem_stations.2 ⟨seat, hs⟩, hp⟩, heq⟩
    · rintro ⟨s, hs, heq⟩
      obtain ⟨hin, hp⟩ := List.mem_filter.1 hs
      obtain ⟨seat, hseat⟩ := mem_stations.1 hin
      exact ⟨seat, s, hseat, hp, heq⟩
  rw [hperm.length_eq, List.length_map, List.countP_eq_length_filter]

/-- The number of relays that are up, and of nodes that hold one, of which something is true that is true of no
closed relay. -/
lemma countP_stations (hdropped : x.DroppedClosed) {p : Station → Bool}
    (hp : ∀ {seat s}, x.station? seat = some s → p s = true → s.relay.closed = false) :
    x.stations.countP p =
      x.relays.countP (fun m => m.isUp && p m.station) + x.nodes.countP fun n => n.holdsRelay && p n.station := by
  rw [stations, List.countP_append, List.countP_map, List.countP_map]
  congr 1
  · refine List.countP_congr fun m hm => ?_
    obtain ⟨n, hn⟩ := List.mem_iff_getElem?.1 hm
    have hs : x.station? (.relay n) = some m.station := by rw [station?, hn, Option.map_some]
    rw [Function.comp_apply, Bool.and_eq_true, Member.isUp]
    refine ⟨fun h => ⟨?_, h⟩, And.right⟩
    have hclosed := hp hs h
    have hkept : m.dropped = false := by
      by_contra hd
      rw [hdropped hn (by simpa using hd)] at hclosed
      cases hclosed
    rw [hkept, hclosed]
    rfl
  · refine List.countP_congr fun node hnode => ?_
    obtain ⟨n, hn⟩ := List.mem_iff_getElem?.1 hnode
    have hs : x.station? (.node n) = some node.station := by rw [station?, hn, Option.map_some]
    rw [Function.comp_apply, Bool.and_eq_true, Node.holdsRelay]
    refine ⟨fun h => ⟨?_, h⟩, And.right⟩
    rw [hp hs h]
    rfl

/-- Who has joined a queue is not closed. -/
lemma Roster.open_of_hasJoined (hr : Roster {} x.station? x.broker) (hs : x.station? seat = some s)
    (hjoined : s.relay.hasJoined name = true) : s.relay.closed = false := by
  by_contra hclosed
  rw [Bool.not_eq_false] at hclosed
  rw [Roster.hasJoined_iff, hr.crew_of_closed hs hclosed] at hjoined
  cases hjoined

/-- The audience of a queue is as large as there are relays that have joined it. -/
lemma Roster.length_audience (hr : Roster {} x.station? x.broker) (hdropped : x.DroppedClosed)
    (name : String) : (x.broker.audience name).length =
      x.relays.countP (fun m => m.isUp && m.station.relay.hasJoined name) +
        x.nodes.countP fun n => n.holdsRelay && n.station.relay.hasJoined name := by
  have hcount := hr.length_eq_countP (p := fun s => s.relay.hasJoined name) (hr.nodup_audience name)
    fun session => hr.mem_sessions
  rw [List.length_map] at hcount
  rw [hcount]
  exact countP_stations hdropped fun hs hjoined => hr.open_of_hasJoined hs hjoined

/-! ## Counting sessions -/

lemma length_open (b : Broker) :
    ((List.range b.sessions.length).filter b.isOpen).length = b.sessions.count true := by
  have hmap : b.sessions = (List.range b.sessions.length).map b.isOpen := by
    apply List.ext_getElem?
    intro i
    rw [List.getElem?_map]
    by_cases hi : i < b.sessions.length
    · rw [List.getElem?_range hi, Option.map_some, Broker.isOpen, List.getElem?_eq_getElem hi,
        Option.getD_some]
    · rw [List.getElem?_eq_none (by omega), List.getElem?_eq_none (by rw [List.length_range]; omega)]
      rfl
  calc ((List.range b.sessions.length).filter b.isOpen).length
      = (List.range b.sessions.length).countP b.isOpen := by rw [List.countP_eq_length_filter]
    _ = ((List.range b.sessions.length).map b.isOpen).count true := by
      rw [List.count, List.countP_map]
      refine List.countP_congr fun i _ => ?_
      rw [Function.comp_apply, beq_true]
    _ = b.sessions.count true := by rw [← hmap]

/-- As many sessions are open as there are relays that are neither closed nor dropped. -/
lemma Roster.openSessions_eq (hr : Roster {} x.station? x.broker) (hdropped : x.DroppedClosed) :
    x.broker.openSessions = x.relays.countP Member.isUp + x.nodes.countP Node.holdsRelay := by
  obtain ⟨owner, hregular⟩ := hr.regular
  have hcounted : x.broker.openSessions = x.broker.sessions.count true := hregular.counted
  have hcount := hr.length_eq_countP (p := fun s => !s.relay.closed)
    (List.nodup_range.filter x.broker.isOpen) fun session => by
      rw [List.mem_filter, List.mem_range, hr.isOpen session]
      constructor
      · rintro ⟨-, h | h | ⟨seat, s, hs, hclosed, heq⟩⟩
        · cases h
        · cases h
        · exact ⟨seat, s, hs, by rw [hclosed]; rfl, heq⟩
      · rintro ⟨seat, s, hs, hclosed, rfl⟩
        exact ⟨hr.known hs, Or.inr (Or.inr ⟨seat, s, hs, by simpa using hclosed, rfl⟩)⟩
  rw [hcounted, ← length_open, hcount, countP_stations hdropped fun _ h => by simpa using h]
  congr 1
  · refine List.countP_congr fun m _ => ?_
    rw [Member.isUp, Bool.and_assoc, Bool.and_self]
  · refine List.countP_congr fun node _ => ?_
    rw [Node.holdsRelay, Bool.and_self]

/-! ## Joining -/

/-- A relay that was told that it has joined a queue has a consumer for it. -/
lemma hasJoined_of_relay_finishJoin {r : Relay} {queue : String} (hok : (r.finishJoin queue b).1 = .ok ()) :
    (r.finishJoin queue b).2.1.hasJoined queue = true := by
  unfold Relay.finishJoin Relay.subscribe at hok ⊢
  by_cases hjoined : r.hasJoined queue = true
  · simp only [hjoined, if_true]
  · cases hclosed : r.closed with
    | true => simp [hjoined, hclosed] at hok
    | false =>
      rcases Broker.consume_cases b r.session queue r.config.ackMode with ⟨e, heq⟩ | ⟨q, -, -, heq⟩
      · simp [hjoined, hclosed, heq] at hok
      · simp only [hjoined, Bool.false_eq_true, if_false, heq, Relay.startConsumer_of_open hclosed]
        rw [Roster.hasJoined_iff, Roster.crew_withConsumer]
        simp

lemma hasJoined_of_join {queue : String} (hx : x.Shipshape) (hs : x.station? seat = some s)
    (hok : (x.join seat queue).1 = .ok ()) :
    ∃ s', (x.join seat queue).2.station? seat = some s' ∧ s'.relay.hasJoined queue = true := by
  have hshape := (beginJoin_onwards x s.relay queue).shipshape hx
  simp only [join, hs] at hok ⊢
  rcases hbegin : s.relay.beginJoin x.link queue x.broker with ⟨result, b⟩
  rw [hbegin] at hok hshape
  cases result with
  | error e => cases hok
  | ok =>
    by_cases hjoined : s.relay.hasJoined queue = true
    · simp only [hjoined, if_true]
      exact ⟨s, by rwa [withBroker_station?], hjoined⟩
    · simp only [hjoined, Bool.false_eq_true, if_false] at hok ⊢
      -- whoever was there is there when the broker has answered
      have hs' : ({ x with broker := b } : Exchange).station? seat = some s := by rwa [withBroker_station?]
      obtain ⟨s₁, hs₁, -⟩ := (pass_strides x.link.consumeMs hshape.allCrewed).ahead.after hs'
      simp only [finishJoin, hs₁] at hok ⊢
      exact ⟨_, place_station?_self hs₁ _ _, hasJoined_of_relay_finishJoin hok⟩

/-- What is left of the consumers of a relay after everything has gone on is what the broker has left of them. -/
lemma joined_iff_listens {x₁ x₂ : Exchange} {s₁ s₂ : Station} {queue : String} {stream : Nat}
    (hr₁ : Roster {} x₁.station? x₁.broker) (hr₂ : Roster {} x₂.station? x₂.broker) (hahead : Ahead x₁ x₂)
    (hs₁ : x₁.station? seat = some s₁) (hs₂ : x₂.station? seat = some s₂)
    (hmem : (queue, stream) ∈ s₁.relay.crew) :
    queue ∈ s₂.relay.joinedSorted ↔ ∃ slot ∈ x₂.broker.audience queue, slot.stream = stream := by
  have hcrew : ∀ {seat s s'}, x₁.station? seat = some s → x₂.station? seat = some s' →
      ∀ c ∈ s'.relay.crew, c ∈ s.relay.crew := by
    intro seat s s' hs hs' c hc
    obtain ⟨s₀, hs₀, hstation⟩ := hahead.before hs'
    rw [hs, Option.some.injEq] at hs₀
    subst hs₀
    exact (hstation.consumers.map _).subset hc
  rw [← hasJoined_iff_joinedSorted, Roster.hasJoined_iff]
  constructor
  · intro hjoined
    obtain ⟨⟨_, stream'⟩, hmem', rfl⟩ := List.mem_map.1 hjoined
    have hold := hcrew hs₁ hs₂ _ hmem'
    have hstream := List.inj_on_of_nodup_map (hr₁.queues hs₁) hold hmem rfl
    exact ⟨⟨s₂.relay.session, s₂.relay.config.ackMode, stream'⟩,
      hr₂.listens.2 ⟨seat, s₂, hs₂, rfl, rfl, hmem'⟩, congrArg Prod.snd hstream⟩
  · rintro ⟨slot, hslot, rfl⟩
    obtain ⟨other, s', hs', hpost⟩ := hr₂.listens.1 hslot
    obtain ⟨s, hs, -⟩ := hahead.before hs'
    have hseat := hr₁.eq_of_stream hs hs₁ (hcrew hs hs' _ hpost.mem) hmem
    subst hseat
    rw [hs₂, Option.some.injEq] at hs'
    subst hs'
    exact List.mem_map.2 ⟨_, hpost.mem, rfl⟩

/-! ## Nodes come up when they are asked to -/

lemma place_nodes_length (x : Exchange) (seat : Seat) (s : Station) (b : Broker) :
    (x.place seat s b).nodes.length = x.nodes.length := by
  cases seat with
  | relay n => rfl
  | node n => exact List.length_modify ..

lemma Deed.nodes_length {entries : List (Nat × Entry)} (h : Deed d x entries d' x')
    (hno : ∀ e ∈ entries, e.2 ≠ .enrolled) : x'.nodes.length = x.nodes.length := by
  cases h with
  | turn | grant | take | discard | breakStream | listen | retire | leave => exact place_nodes_length ..
  | node => exact List.length_set
  | enrolNode => exact absurd rfl (hno _ List.mem_cons_self)
  | tick | decline | drop | office | welcome | enrolRelay | dismiss => rfl

lemma Diary.nodes_length (h : Diary d x log d' x') (hno : ∀ e ∈ log, e.2 ≠ .enrolled) :
    x'.nodes.length = x.nodes.length := by
  induction h with
  | start => rfl
  | step _ hdeed ih =>
    rw [hdeed.nodes_length fun e he => hno e (List.mem_append_right _ he),
      ih fun e he => hno e (List.mem_append_left _ he)]

lemma prompts_ne_enrolled {a : Answer} {c : Command} (hc : ∀ config outlook, c ≠ .newNode config outlook) :
    ∀ e ∈ c.prompts x a, e.2 ≠ .enrolled := by
  have hentries : ∀ (n : Nat) (c : NodeCommand), ∀ e ∈ c.entries.map fun e => (n, e), e.2 ≠ .enrolled := by
    intro n c e he
    obtain ⟨e', he', rfl⟩ := List.mem_map.1 he
    obtain ⟨user, text, -, rfl⟩ := NodeCommand.of_mem_entries he'
    simp
  intro e he
  cases c with
  | newNode config outlook => exact absurd rfl (hc config outlook)
  | burst n calls =>
    simp only [Command.prompts] at he
    split at he
    · obtain ⟨e', he', rfl⟩ := List.mem_map.1 he
      obtain ⟨call, -, user, text, -, rfl⟩ := NodeCall.of_mem_entries he'
      simp
    · cases he
  | request n c | submit n c =>
    simp only [Command.prompts] at he
    split at he
    · exact hentries n c e he
    · cases he
  | takeEvents seat limit =>
    simp only [Command.prompts] at he
    split at he
    · cases seat <;> simp [Seat.emptied] at he
      simp [he]
    · cases he
  | _ => cases he

lemma mem_promptsOf {cs : List Command} {e : Nat × Entry} (h : e ∈ x.promptsOf cs) :
    ∃ c ∈ cs, ∃ y a, e ∈ c.prompts y a := by
  induction cs generalizing x with
  | nil => cases h
  | cons c rest ih =>
    rcases List.mem_append.1 h with hfirst | hrest
    · exact ⟨c, List.mem_cons_self, x, _, hfirst⟩
    · obtain ⟨c', hc', hmem⟩ := ih hrest
      exact ⟨c', List.mem_cons_of_mem _ hc', hmem⟩

/-- Where no node is brought up there is none. -/
lemma nodes_run (link : Link) (cs : List Command) (hcs : ∀ c ∈ cs, ∀ config outlook, c ≠ .newNode config outlook) :
    (({ link } : Exchange).run cs).2.nodes = [] := by
  obtain ⟨log, hdiary, hlog⟩ := run_proceeds cs (shipshape_empty link)
  have hno : ∀ e ∈ log, e.2 ≠ .enrolled := by
    intro e he heq
    have hmem : e ∈ prompted log := List.mem_filter.2 ⟨he, by rw [heq]; rfl⟩
    rw [hlog] at hmem
    obtain ⟨c, hc, y, a, hprompt⟩ := mem_promptsOf hmem
    exact prompts_ne_enrolled (hcs c hc) e hprompt heq
  exact List.length_eq_zero_iff.1 (hdiary.nodes_length hno)

/-! ## Relays and broker agree -/

lemma droppedClosed_run (link : Link) (cs : List Command) :
    (({ link } : Exchange).run cs).2.DroppedClosed := by
  obtain ⟨log, hdiary, -⟩ := run_proceeds cs (shipshape_empty link)
  have hempty : ({ link } : Exchange).DroppedClosed := by
    intro n m hm
    simp at hm
  exact hempty.diary hdiary

/-- The consumers that the broker counts for a queue. -/
lemma stats_consumers_eq {counts : QueueStats} (h : (b.stats name).1 = some counts) :
    counts.consumers = (b.audience name).length := by
  have hcount := Broker.stats_consumers b name
  rw [h, Option.map_some] at hcount
  cases hq : b.queue? name with
  | none =>
    rw [hq] at hcount
    cases hcount
  | some q =>
    rw [hq] at hcount
    exact Option.some.inj hcount

lemma audience_of_stats (h : (b.stats name).1 = none) : b.audience name = [] := by
  refine Broker.audience_of_none ?_
  have hcount := Broker.stats_consumers b name
  rw [h, Option.map_none] at hcount
  exact Option.map_eq_none_iff.1 hcount.symm

/-- What a relay adds to the consumers of a queue. -/
lemma Roster.count_session (hr : Roster {} x.station? x.broker) (hs : x.station? seat = some s)
    (name : String) : ((x.broker.audience name).map (·.session)).count s.relay.session =
      if name ∈ s.relay.joinedSorted then 1 else 0 := by
  have hmem : s.relay.session ∈ (x.broker.audience name).map (·.session) ↔ name ∈ s.relay.joinedSorted := by
    rw [hr.mem_sessions, ← hasJoined_iff_joinedSorted]
    constructor
    · rintro ⟨other, s', hs', hjoined, heq⟩
      have hseat := hr.apart hs' hs heq
      subst hseat
      rw [hs, Option.some.injEq] at hs'
      rwa [hs']
    · intro hjoined
      exact ⟨seat, s, hs, hjoined, rfl⟩
  rw [(hr.nodup_audience name).count]
  simp only [hmem]

/-- A join that succeeds leaves a consumer, and the queue stays joined just as long as it listens. -/
lemma Roster.join_step {queue : String} (hr : Roster {} x.station? x.broker) (hx : x.Shipshape)
    (hs : x.station? (.relay n) = some s) (hdone : (x.step (.join n queue)).1 = .done) :
    ∃ stream s₁ s₂, (x.act (.join n queue)).2.station? (.relay n) = some s₁ ∧
      (queue, stream) ∈ s₁.relay.crew ∧ queue ∈ s₁.relay.joinedSorted ∧
      (x.step (.join n queue)).2.2.station? (.relay n) = some s₂ ∧
      (queue ∈ s₂.relay.joinedSorted ↔
        ∃ slot ∈ (x.step (.join n queue)).2.2.broker.audience queue, slot.stream = stream) := by
  have hok : (x.join (.relay n) queue).1 = .ok () := by
    simp only [step, act] at hdone
    cases hresult : (x.join (.relay n) queue).1 with
    | ok => rfl
    | error e =>
      rw [hresult] at hdone
      cases hdone
  obtain ⟨s₁, hs₁, hjoined⟩ := hasJoined_of_join hx hs hok
  obtain ⟨⟨queue, stream⟩, hcrew, rfl⟩ := List.mem_map.1 (Roster.hasJoined_iff.1 hjoined)
  have hshape := (act_onwards_of_command (.join n queue) hx).shipshape hx
  obtain ⟨log, hacted, -⟩ := act_proceeds (.join n queue) hx
  obtain ⟨log', hrested, -⟩ := quiesce_proceeds (d := {}) hshape
  have hahead := (quiesce_strides hshape.allCrewed).ahead
  obtain ⟨s₂, hs₂, -⟩ := hahead.after hs₁
  have hr₁ := hr.diary hacted
  rw [step_eq]
  refine ⟨stream, s₁, s₂, hs₁, hcrew, hasJoined_iff_joinedSorted.1 hjoined, hs₂, ?_⟩
  exact joined_iff_listens hr₁ (hr₁.diary hrested) hahead hs₁ hs₂ hcrew

/-- **Relays and broker agree on who is subscribed.**  After every run:

* for a queue that was declared the broker counts as many consumers as there are relays, those of nodes
  included, that have joined it and are neither closed nor dropped, and a queue that was not declared is joined
  by nobody;
* each relay adds one consumer to a queue that it has joined, and none to any other;
* a relay that is closed has joined nothing;
* when a join succeeds the relay has a consumer on the queue, and after everything has gone on the queue is
  still joined just if that consumer still listens;
* where no node was brought up there are only relays to count. -/
theorem relays_and_broker_agree (link : Link) (cs : List Command) :
    let x := (({ link } : Exchange).run cs).2
    (∀ name counts, (x.broker.stats name).1 = some counts → counts.consumers =
      x.relays.countP (fun m => m.isUp && m.station.relay.joinedSorted.contains name) +
        x.nodes.countP fun n => n.holdsRelay && n.station.relay.joinedSorted.contains name) ∧
    (∀ name seat s, (x.broker.stats name).1 = none → x.station? seat = some s →
      name ∉ s.relay.joinedSorted) ∧
    (∀ name seat s, x.station? seat = some s →
      ((x.broker.audience name).map (·.session)).count s.relay.session =
        if name ∈ s.relay.joinedSorted then 1 else 0) ∧
    (∀ seat s, x.station? seat = some s → s.relay.closed = true → s.relay.joinedSorted = []) ∧
    (∀ n queue s, x.station? (.relay n) = some s → (x.step (.join n queue)).1 = .done →
      ∃ stream s₁ s₂, (x.act (.join n queue)).2.station? (.relay n) = some s₁ ∧
        (queue, stream) ∈ s₁.relay.crew ∧ queue ∈ s₁.relay.joinedSorted ∧
        (x.step (.join n queue)).2.2.station? (.relay n) = some s₂ ∧
        (queue ∈ s₂.relay.joinedSorted ↔
          ∃ slot ∈ (x.step (.join n queue)).2.2.broker.audience queue, slot.stream = stream)) ∧
    ((∀ c ∈ cs, ∀ config outlook, c ≠ .newNode config outlook) → x.nodes = []) := by
  have hr := roster_run link cs
  have hdropped := droppedClosed_run link cs
  have hshape := shipshape_run link cs
  have hnodes := nodes_run link cs
  generalize (({ link } : Exchange).run cs).2 = x at hr hdropped hshape hnodes
  have hcontains : ∀ (r : Relay) (name : String), r.joinedSorted.contains name = r.hasJoined name := by
    intro r name
    rw [Bool.eq_iff_iff, List.contains_iff_mem, hasJoined_iff_joinedSorted]
  refine ⟨fun name counts hcounts => ?_, fun name seat s hnone hs hmem => ?_,
    fun name seat s hs => hr.count_session hs name, fun seat s hs hclosed => ?_,
    fun n queue s hs hdone => hr.join_step hshape hs hdone, hnodes⟩
  · simp only [hcontains]
    rw [stats_consumers_eq hcounts]
    exact hr.length_audience hdropped name
  · have hcount := hr.count_session hs name
    rw [audience_of_stats hnone, if_pos hmem] at hcount
    cases hcount
  · rw [List.eq_nil_iff_forall_not_mem]
    intro name hmem
    have hopen := hr.open_of_hasJoined hs (hasJoined_iff_joinedSorted.2 hmem)
    rw [hclosed] at hopen
    cases hopen

end Exchange

end MessageRelay
