import MessageRelay.Proofs.Exchange.Room

/-!
# A message is received

A relay that is the only one to have joined a queue, and has room in its mailbox, gets every message that is brought
there while everything else is at rest: its consumer takes the message, settles it and posts one event, and nothing
else happens (`received_at_rest`).
-/

namespace MessageRelay

namespace Broker

variable {b : Broker} {name : String} {slot : Slot} {i j : Nat}

/-- A message for a queue to which one consumer listens goes to the stream of that consumer, which was empty. -/
lemma route_to_sole (h : b.audience name = [slot]) (hdry : b.Dry slot.stream) (payload : Bytes) :
    (∃ stream tag, (b.route name payload).streams[slot.stream]? = some stream ∧ stream.buffer = [(tag, payload)]) ∧
      ∀ j, slot.stream ≠ j → b.Dry j → (b.route name payload).Dry j := by
  obtain ⟨q, hq, hmem, hlistens⟩ := mem_audience.1 (h ▸ List.mem_singleton_self slot)
  rcases route_cases hq payload with ⟨taker, htaker, hlistening, heq⟩ | ⟨hnone, -⟩
  · obtain rfl : taker = slot := List.mem_singleton.1 (h ▸ mem_audience.2 ⟨q, hq, htaker, hlistening⟩)
    rw [heq]
    refine ⟨?_, fun j hj hdry' => ?_⟩
    · obtain ⟨stream, hstream, hbuffer⟩ := hdry
      refine ⟨_, q.nextTag, by rw [handOver_streams, getElem?_carry, hstream, Option.map_some, if_pos rfl], ?_⟩
      rw [hbuffer]
      rfl
    · obtain ⟨stream, hstream, hbuffer⟩ := hdry'
      refine ⟨stream, ?_, hbuffer⟩
      rw [handOver_streams, getElem?_carry, hstream, Option.map_some, if_neg hj]
  · rw [hnone slot hmem] at hlistens
    cases hlistens

/-- Whoever takes the only message of a stream leaves it empty. -/
lemma poll_of_single {stream : Stream} {tag : Nat} {payload : Bytes} (h : b.streams[i]? = some stream)
    (hbuffer : stream.buffer = [(tag, payload)]) :
    ∃ d b', b.poll i = (.delivery d, b') ∧ d.payload = payload ∧ b'.Dry i ∧ ∀ j, i ≠ j → b.Dry j → b'.Dry j := by
  have hpoll : b.poll i = (.delivery ⟨stream.queue, tag, payload, stream.mode = .manual⟩,
      { b with streams := b.streams.set i { stream with buffer := [] } }) := by
    simp only [poll, h, hbuffer]
  refine ⟨_, _, hpoll, rfl, ⟨{ stream with buffer := [] }, ?_, rfl⟩, fun j hj hdry => ?_⟩
  · exact List.getElem?_set_self (List.getElem?_eq_some_iff.1 h).1
  · have hkept := hdry.poll hj
    rwa [hpoll] at hkept

end Broker

namespace Station

variable {s s' : Station} {b b' : Broker} {c : Consumer} {stream : Stream} {tag : Nat} {payload : Bytes}

/-- **A consumer that finds one message, and room for its event, posts the event**; it has nothing to do then. -/
lemma runConsumer_of_single (hc : c ∈ s.relay.consumers) (hwhole : c.broken = false)
    (hfree : s.mailbox.holds (.consumer c.stream) = false) (hkept : s.mailbox.kept = true)
    (hroom : 0 < s.mailbox.room) (hstream : b.streams[c.stream]? = some stream)
    (hbuffer : stream.buffer = [(tag, payload)]) :
    ∃ b', Turn (s, b) ({ s with mailbox := s.mailbox.put (Relay.eventOf payload).1 }, b') ∧
      (∀ j, c.stream ≠ j → b.Dry j → b'.Dry j) ∧
      (b'.isFed c.stream = true →
        s.runConsumer b c = ({ s with mailbox := s.mailbox.put (Relay.eventOf payload).1 }, b')) := by
  obtain ⟨d, b₁, hpoll, rfl, hdry, hothers⟩ := Broker.poll_of_single hstream hbuffer
  have hoffer : s.mailbox.offer (.consumer c.stream) (Relay.eventOf d.payload).1 =
      .posted (s.mailbox.put (Relay.eventOf d.payload).1) := by
    simp [Mailbox.offer, hkept, hroom]
  refine ⟨(Relay.settle b₁ d).2, .post hc hwhole hfree hpoll hoffer,
    fun j hj hdry' => (hothers j hj hdry').settle d, fun hfed => ?_⟩
  have hbacklog : backlog b c.stream = 1 := by
    rw [backlog_of_some hstream, hbuffer]
    rfl
  have hevent : (Relay.settle b₁ d).1 = (Relay.eventOf d.payload).1 := rfl
  rw [runConsumer, hfree, hwhole, hbacklog]
  simp only [Bool.false_eq_true, if_false, consume, hpoll, hevent, hoffer,
    Broker.poll_of_dry (hdry.settle d) hfed]

/-- If only one consumer has something to do, then what it does is all that happens. -/
lemma runConsumers_of_one (hc : c ∈ s.relay.consumers) (hnodup : s.relay.consumers.Nodup)
    (hrun : s.runConsumer b c = (s', b'))
    (hbefore : ∀ c' ∈ s.relay.consumers, c' ≠ c → s.Idle b c' ∧ b.isFed c'.stream = true)
    (hafter : ∀ c' ∈ s.relay.consumers, c' ≠ c → s'.Idle b' c' ∧ b'.isFed c'.stream = true) :
    s.runConsumers b = (s', b') := by
  obtain ⟨first, rest, heq⟩ := List.append_of_mem hc
  rw [heq] at hnodup
  have hother : c ∉ first ++ rest := (List.nodup_cons.1 (List.nodup_middle.1 hnodup)).1
  have hfirst : ∀ c' ∈ first, c' ∈ s.relay.consumers ∧ c' ≠ c := fun c' hc' =>
    ⟨by rw [heq]; exact List.mem_append_left _ hc',
      ne_of_mem_of_not_mem (List.mem_append_left _ hc') hother⟩
  have hrest : ∀ c' ∈ rest, c' ∈ s.relay.consumers ∧ c' ≠ c := fun c' hc' =>
    ⟨by rw [heq]; exact List.mem_append_right _ (List.mem_cons_of_mem _ hc'),
      ne_of_mem_of_not_mem (List.mem_append_right _ hc') hother⟩
  rw [runConsumers, heq, List.foldl_append, foldl_runConsumer_of_idle fun c' hc' =>
    hbefore c' (hfirst c' hc').1 (hfirst c' hc').2, List.foldl_cons, hrun]
  exact foldl_runConsumer_of_idle fun c' hc' => hafter c' (hrest c' hc').1 (hrest c' hc').2

end Station

namespace Exchange

variable {x : Exchange} {seat : Seat} {s s' : Station} {b' : Broker} {c : Consumer} {name : String} {d : Doorway}

lemma nodup_seats (x : Exchange) : x.seats.Nodup := by
  refine List.nodup_append.2 ⟨List.nodup_range.map fun _ _ h => Seat.relay.inj h,
    List.nodup_range.map fun _ _ h => Seat.node.inj h, fun a ha a' ha' => ?_⟩
  obtain ⟨n, -, rfl⟩ := List.mem_map.1 ha
  obtain ⟨k, -, rfl⟩ := List.mem_map.1 ha'
  intro heq
  cases heq

/-- Where nobody at a list of seats has anything to do, nothing happens there. -/
lemma foldl_runConsumers_of_idle {l : List Seat} (h : ∀ seat ∈ l, ∀ s, x.station? seat = some s →
    s.runConsumers x.broker = (s, x.broker)) :
    l.foldl (fun x seat => x.onStation seat Station.runConsumers) x = x := by
  induction l with
  | nil => rfl
  | cons seat rest ih =>
    have hself : x.onStation seat Station.runConsumers = x := by
      cases hs : x.station? seat with
      | none => simp only [onStation, hs]
      | some s => rw [onStation_eq hs, h seat List.mem_cons_self s hs, place_self hs]
    rw [List.foldl_cons, hself]
    exact ih fun other hother => h other (List.mem_cons_of_mem _ hother)

/-- If only at one seat something is to be done, then what is done there is all that happens. -/
lemma runConsumers_of_one (hs : x.station? seat = some s) (hrun : s.runConsumers x.broker = (s', b'))
    (hbefore : ∀ other s₁, other ≠ seat → x.station? other = some s₁ →
      s₁.runConsumers x.broker = (s₁, x.broker))
    (hafter : ∀ other s₁, other ≠ seat → x.station? other = some s₁ → s₁.runConsumers b' = (s₁, b')) :
    x.runConsumers = x.place seat s' b' := by
  have hnodup := nodup_seats x
  obtain ⟨first, rest, heq⟩ := List.append_of_mem (mem_seats hs)
  rw [heq] at hnodup
  have hself : seat ∉ first ++ rest := (List.nodup_cons.1 (List.nodup_middle.1 hnodup)).1
  have hfirst := foldl_runConsumers_of_idle (l := first) fun other hother s₁ =>
    hbefore other s₁ (ne_of_mem_of_not_mem (List.mem_append_left _ hother) hself)
  rw [Exchange.runConsumers, heq, List.foldl_append, hfirst, List.foldl_cons, onStation_eq hs, hrun]
  refine foldl_runConsumers_of_idle fun other hother s₁ hs₁ => ?_
  have hne : other ≠ seat := ne_of_mem_of_not_mem (List.mem_append_right _ hother) hself
  rw [place_station?] at hs₁
  obtain ⟨s₀, hs₀, rfl⟩ := Option.map_eq_some_iff.1 hs₁
  rw [if_neg (Ne.symm hne), place_broker]
  exact hafter other s₀ hne hs₀

/-- If only one consumer has something to do, and what it does gives the others nothing to do, then that is all that
happens. -/
lemma runConsumers_of_turn (hr : Roster d x.station? x.broker) (hcrewed : x.AllCrewed) (hs : x.station? seat = some s)
    (hc : c ∈ s.relay.consumers)
    (hidle : ∀ other s₁ c₁, x.station? other = some s₁ → c₁ ∈ s₁.relay.consumers → c.stream ≠ c₁.stream →
      s₁.Idle x.broker c₁)
    (hturn : Station.Turn (s, x.broker) (s', b')) (hrelay : s'.relay = s.relay)
    (hholds : ∀ sender, s.mailbox.holds sender = true → s'.mailbox.holds sender = true)
    (hdry : ∀ j, c.stream ≠ j → x.broker.Dry j → b'.Dry j)
    (hrun : b'.isFed c.stream = true → s.runConsumer x.broker c = (s', b')) :
    x.runConsumers = x.place seat s' b' := by
  have hlater := hr.turn hs hturn
  rw [← place_reseat, ← place_broker x seat s' b'] at hlater
  have hfed : ∀ other {s₁ c₁}, (x.place seat s' b').station? other = some s₁ → c₁ ∈ s₁.relay.consumers →
      b'.isFed c₁.stream = true := by
    intro other s₁ c₁ hs₁ hc₁
    have hfed := Roster.isFed hlater hs₁ hc₁
    rwa [place_broker] at hfed
  have hself := place_station?_self hs s' b'
  have hkept : ∀ {s₁ : Station} {c₁ : Consumer}, c.stream ≠ c₁.stream → s₁.Idle x.broker c₁ → s₁.Idle b' c₁ :=
    fun hne hidle₁ => hidle₁.imp_right (And.imp_right (hdry _ hne))
  have hat : s.runConsumers x.broker = (s', b') := by
    refine Station.runConsumers_of_one hc (hcrewed hs).of_map (hrun (hfed seat hself (by rwa [hrelay])))
      (fun c' hc' hne => ?_) fun c' hc' hne => ?_
    all_goals
      have hstream : c.stream ≠ c'.stream := fun heq => hne (List.inj_on_of_nodup_map (hcrewed hs) hc' hc heq.symm)
      have hidle' := hidle seat s c' hs hc' hstream
    · exact ⟨hidle', hr.isFed hs hc'⟩
    · exact ⟨(hkept hstream hidle').imp_left (hholds _), hfed seat hself (by rwa [hrelay])⟩
  refine runConsumers_of_one hs hat (fun other s₁ hne hs₁ => ?_) fun other s₁ hne hs₁ => ?_
  all_goals
    refine Station.runConsumers_of_idle fun c₁ hc₁ => ?_
    have hstream : c.stream ≠ c₁.stream := fun heq => hne (hr.apart_consumers hs₁ hs hc₁ hc heq.symm)
    have hidle₁ := hidle other s₁ c₁ hs₁ hc₁ hstream
  · exact ⟨hidle₁, hr.isFed hs₁ hc₁⟩
  · refine ⟨hkept hstream hidle₁, hfed other ?_ hc₁⟩
    rw [place_station?, hs₁, Option.map_some, if_neg (Ne.symm hne)]

lemma station?_later (x : Exchange) (clock : Nat) (broker : Broker) :
    ({ x with clock, broker } : Exchange).station? = x.station? :=
  station?_congr rfl rfl

/-- Where everything is at rest and something new is at the broker, only consumers go on. -/
lemma Rested.quiesce_withBroker (h : x.Rested) (hnone : ∀ node ∈ x.nodes, node.publication = none) (clock : Nat)
    (broker : Broker) :
    ({ x with clock, broker } : Exchange).quiesce = ({ x with clock, broker } : Exchange).runConsumers := by
  have hidle : ∀ {n : Nat} {node : Node}, x.nodes[n]? = some node → node.publication = none := fun hn =>
    hnone _ (List.mem_of_getElem? hn)
  refine quiesce_of_loopRests (fun other s₁ hs₁ => ?_) (fun n node hn => h.loops hn) (fun n node hn => h.tasks hn)
    (fun n node p hn hp => ?_) fun n node hn hp => ?_
  · rw [station?_later] at hs₁
    exact h.granted hs₁
  · rw [hidle hn] at hp
    cases hp
  · rw [hidle hn] at hp
    cases hp

/-- Relays and broker agree as before when a message is brought to a queue. -/
lemma Roster.route {seats : Seat → Option Station} {b : Broker} (hr : Roster d seats b) (name : String)
    (payload : Bytes) : Roster d seats (b.route name payload) := by
  have hwork : Desk.Works (fun _ => True) ⟨b, []⟩ ⟨b.route name payload, []⟩ :=
    Desk.works_command (.control (.inject name payload)) trivial
  exact hr.broker hwork (Broker.route_sessions _ _ _) (Broker.audience_route _ _ _)

/-- A relay that is the only one to have joined a queue is all of the queue's audience. -/
lemma Roster.audience_of_sole (hr : Roster d x.station? x.broker) (hs : x.station? seat = some s)
    (hc : c ∈ s.relay.consumers)
    (hsole : ∀ other s', x.station? other = some s' → s'.relay.hasJoined c.queue = true → other = seat) :
    x.broker.audience c.queue = [⟨s.relay.session, s.relay.config.ackMode, c.stream⟩] := by
  have hcrew : (c.queue, c.stream) ∈ s.relay.crew := List.mem_map_of_mem hc
  refine List.perm_singleton.1 ((List.perm_ext_iff_of_nodup (hr.nodup _) (List.nodup_singleton _)).2 fun slot => ?_)
  rw [List.mem_singleton, hr.listens]
  constructor
  · rintro ⟨other, s', hs', hposts⟩
    have hjoined : s'.relay.hasJoined c.queue = true :=
      Roster.hasJoined_iff.2 (List.mem_map.2 ⟨_, hposts.mem, rfl⟩)
    obtain rfl := hsole other s' hs' hjoined
    rw [hs, Option.some.injEq] at hs'
    subst hs'
    have hstream := List.inj_on_of_nodup_map (hr.queues hs) hposts.mem hcrew rfl
    cases slot
    cases hposts.session_eq
    cases hposts.mode_eq
    cases hstream
    rfl
  · rintro rfl
    exact ⟨seat, s, hs, rfl, rfl, hcrew⟩

/-- **A relay attends to a queue**: it is open, it is the only one to have joined the queue, and there is room in its
mailbox. -/
structure Attends (x : Exchange) (seat : Seat) (name : String) (s : Station) : Prop where
  station : x.station? seat = some s
  opened : s.relay.closed = false
  joined : s.relay.hasJoined name = true
  sole : ∀ other s', x.station? other = some s' → s'.relay.hasJoined name = true → other = seat
  kept : s.mailbox.kept = true
  room : 0 < s.mailbox.room

lemma attends_iff : x.Attends seat name s ↔ x.station? seat = some s ∧ s.relay.closed = false ∧
    s.relay.hasJoined name = true ∧
    (∀ other ∈ x.seats, (x.station? other).any (·.relay.hasJoined name) = true → other = seat) ∧
    s.mailbox.kept = true ∧ 0 < s.mailbox.room := by
  constructor
  · intro h
    refine ⟨h.station, h.opened, h.joined, fun other _ hany => ?_, h.kept, h.room⟩
    obtain ⟨hsome, hjoined⟩ := (Option.any_eq_true_iff_get ..).1 hany
    exact h.sole other _ (Option.some_get hsome).symm hjoined
  · rintro ⟨hs, hopen, hjoined, hsole, hkept, hroom⟩
    exact ⟨hs, hopen, hjoined, fun other s' hs' h => hsole other (mem_seats hs') (by rw [hs']; exact h), hkept, hroom⟩

instance : Decidable (x.Attends seat name s) :=
  decidable_of_iff _ attends_iff.symm

/-- **A message that is brought to a queue to which a relay attends is received**, if everything is at rest: the event is
posted, and that is all that happens at any seat. -/
lemma received_at_rest (hx : x.Shipshape) (hr : Roster d x.station? x.broker) (hrest : x.Rested) (hfair : x.Fair)
    (hnone : ∀ node ∈ x.nodes, node.publication = none) (h : x.Attends seat name s) (payload : Bytes) (clock : Nat) :
    ∃ b', ({ x with clock, broker := x.broker.route name payload } : Exchange).quiesce =
      ({ x with clock } : Exchange).place seat
        { s with mailbox := s.mailbox.put (Relay.eventOf payload).1 } b' := by
  obtain ⟨hs, hopen, hjoined, hsole, hkept, hroom⟩ := h
  obtain ⟨c, hc, hqueue⟩ := List.any_eq_true.1 hjoined
  obtain rfl : c.queue = name := eq_of_beq hqueue
  -- nobody waits for a place, so the consumer is idle because its stream is empty
  have hfree : ∀ sender, s.mailbox.holds sender = false := by
    intro sender
    rw [Mailbox.holds, hrest.granted hs, (hfair hs hopen).resolve_right hroom.ne']
    rfl
  obtain ⟨hwhole, hdry⟩ := (hrest.consumers hs hc).1.resolve_left (by rw [hfree]; exact Bool.noConfusion)
  obtain ⟨⟨stream, tag, hstream, hbuffer⟩, hothers⟩ :=
    Broker.route_to_sole (hr.audience_of_sole hs hc hsole) hdry payload
  obtain ⟨b', hturn, hothers', hrun⟩ := Station.runConsumer_of_single hc hwhole (hfree _) hkept hroom hstream hbuffer
  have hstations := station?_later x clock (x.broker.route c.queue payload)
  have hroster := hr.route c.queue payload
  rw [← hstations] at hroster
  refine ⟨b', ?_⟩
  rw [hrest.quiesce_withBroker hnone, runConsumers_of_turn hroster (fun _ _ hs₁ => hx.allCrewed (by rwa [← hstations]))
    (by rw [hstations, hs]) hc (fun other s₁ c₁ hs₁ hc₁ hne => ?_) hturn rfl (fun _ => id) hothers' hrun]
  · cases seat <;> rfl
  · rw [hstations] at hs₁
    exact (hrest.consumers hs₁ hc₁).1.imp_right (And.imp_right (hothers _ hne))

end Exchange

end MessageRelay
