import MessageRelay.Proofs.Exchange.Rest
import MessageRelay.Proofs.Relay.Line

/-!
# Back-pressure

A relay joins a queue that nobody has ever listened to, and is its only consumer from then on.  Messages are brought
to the queue and events are taken from the mailbox, in any order.  The consumer takes messages as long as there is a
place for their events, and one more: this one is settled, but its event waits for a place.  So whenever everything
has come to rest, the number of events that were taken and the number of places say how far the consumer has come
(`consumer_keeps_pace`).
-/

namespace MessageRelay

/-- What making a connection keeps, trying to make one keeps. -/
lemma Link.retry_induction {P : Broker → Prop} (hconnect : ∀ b, P b → P b.connect.2) (link : Link)
    (config : QueueConfig) (left : Nat) (last : String) (spent : Nat) {b : Broker} (h : P b) :
    P (link.retry config left last spent b).2.2 := by
  have hattempt : ∀ {b a ms b'}, P b → link.attempt config.timeouts b = (a, ms, b') → P b' := by
    intro b a ms b' hb heq
    unfold attempt at heq
    simp only at heq
    split at heq
    · cases heq
      exact hb
    · have htried := hconnect b hb
      split at heq
      · next hc =>
        rw [hc] at htried
        cases heq
        exact htried
      · next hc =>
        rw [hc] at htried
        split at heq <;> cases heq <;> exact htried
  induction left generalizing last spent b with
  | zero => exact h
  | succ left ih =>
    unfold retry
    split
    · next heq => exact hattempt h heq
    · next heq => exact hattempt h heq
    · next heq => exact ih _ _ (hattempt h heq)

lemma Link.connect_induction {P : Broker → Prop} (hconnect : ∀ b, P b → P b.connect.2) (link : Link)
    (config : QueueConfig) {b : Broker} (h : P b) : P (link.connect config b).2.2 := by
  unfold connect
  split
  · exact h
  · exact retry_induction hconnect link config _ _ _ h

namespace Broker

variable {b : Broker} {name : String} {slot : Slot} {read : List Bytes} {left : List (Nat × Bytes)}

lemma Lane.of_eq {b' : Broker} (h : b.Lane name slot read left) (hq : b'.queue? = b.queue?)
    (hs : b'.streams = b.streams) : b'.Lane name slot read left :=
  h.congr (h.sound.congr hq hs) (by rw [hq]) (by rw [hs]) fun hi => ⟨_, by rwa [hs] at hi, rfl⟩

lemma Lane.connect (h : b.Lane name slot read left) : b.connect.2.Lane name slot read left :=
  h.of_eq (connect_queue? b) (connect_streams b)

/-- Whoever looks at the queue finds its consumer there. -/
lemma Lane.prune (h : b.Lane name slot read left) {q : Queue} (hq : b.queue? name = some q) :
    q.prune b.isListening = q := by
  obtain ⟨turn, nextTag, hq'⟩ := h.queue
  rw [hq, Option.some.injEq] at hq'
  subst hq'
  simp [Queue.prune, Queue.serving, h.isListening]

lemma Lane.stats (h : b.Lane name slot read left) (other : String) :
    (b.stats other).2.Lane name slot read left := by
  unfold Broker.stats
  cases hq : b.queue? other with
  | none => exact h
  | some q =>
    refine h.congr (h.sound.pruned hq) ?_ rfl fun hi => ⟨_, hi, rfl⟩
    show (b.setQueue other (q.prune b.isListening)).queue? name = _
    rw [queue?_setQueue hq]
    split
    · next heq =>
      rw [heq, hq, h.prune (by rw [heq]; exact hq)]
    · rfl

/-- What is counted of a queue with one consumer. -/
lemma Lane.stats_eq (h : b.Lane name slot read left) :
    (b.stats name).1 = some
      { ready := 0
        consumers := 1
        acked := if slot.mode = .manual then read.countP Envelope.reads else 0
        rejected := if slot.mode = .manual then read.countP (!Envelope.reads ·) else 0
        unacked := if slot.mode = .manual then left.length else 0 } := by
  obtain ⟨turn, nextTag, hq⟩ := h.queue
  have hprune := h.prune hq
  simp only [Broker.stats, hq, hprune, Option.some.injEq]
  by_cases hmode : slot.mode = .manual <;> simp [Queue.stats, Queue.serving, hmode]

end Broker

namespace Exchange

variable {x x' : Exchange} {n k : Nat} {m : Member} {s : Station} {b : Broker} {name : String} {slot : Slot}
  {capacity : Nat} {routed backlog : List Bytes} {taken : List Event}

/-! ## In line -/

/-- A relay is the only consumer that a queue ever had. -/
structure InLine (n : Nat) (name : String) (slot : Slot) (capacity : Nat) (routed : List Bytes)
    (taken : List Event) (x : Exchange) : Prop where
  nodes : x.nodes = []
  crewed : x.Crewed
  others : ∀ {k : Nat} {m : Member}, x.relays[k]? = some m → k ≠ n →
    ∀ c ∈ m.station.relay.consumers, c.stream ≠ slot.stream
  member : ∃ m, x.relays[n]? = some m ∧ m.station.InLine name slot capacity routed taken x.broker

/-- Something is done with the broker. -/
lemma InLine.withBroker {routed' : List Bytes} (h : x.InLine n name slot capacity routed taken)
    (hb : ∀ {s : Station}, s.InLine name slot capacity routed taken x.broker →
      s.InLine name slot capacity routed' taken b) :
    ({ x with broker := b } : Exchange).InLine n name slot capacity routed' taken where
  nodes := h.nodes
  crewed := h.crewed
  others := h.others
  member := by
    obtain ⟨m, hm, hline⟩ := h.member
    exact ⟨m, hm, hb hline⟩

/-- Something happens at the relay. -/
lemma InLine.put_self {taken' : List Event} (h : x.InLine n name slot capacity routed taken)
    (hs : s.InLine name slot capacity routed taken' b) :
    (x.put n s b).InLine n name slot capacity routed taken' where
  nodes := h.nodes
  crewed k m' hm' := by
    obtain ⟨m, hm, ⟨-, rfl⟩ | ⟨-, rfl⟩⟩ := put_relays_cases hm'
    · show (s.relay.consumers.map (·.stream)).Nodup
      rw [hs.consumers]
      exact List.nodup_singleton _
    · exact h.crewed hm
  others hm' hk c hc := by
    rw [put_relays_of_ne x n s b hk] at hm'
    exact h.others hm' hk c hc
  member := by
    obtain ⟨m, hm, -⟩ := h.member
    exact ⟨_, put_relays_self hm s b, hs⟩

/-- Something happens at another relay. -/
lemma InLine.put_of_ne (h : x.InLine n name slot capacity routed taken) (hm : x.relays[k]? = some m) (hk : k ≠ n)
    (hconsumers : s.relay.consumers.Sublist m.station.relay.consumers)
    (hb : ∀ {read left}, x.broker.Lane name slot read left → b.Lane name slot read left) :
    (x.put k s b).InLine n name slot capacity routed taken where
  nodes := h.nodes
  crewed k' m' hm' := by
    obtain ⟨m₀, hm₀, ⟨rfl, rfl⟩ | ⟨-, rfl⟩⟩ := put_relays_cases hm'
    · rw [hm, Option.some.injEq] at hm₀
      subst hm₀
      exact (h.crewed hm).sublist (hconsumers.map _)
    · exact h.crewed hm₀
  others {k' m'} hm' hk' c hc := by
    obtain ⟨m₀, hm₀, ⟨rfl, rfl⟩ | ⟨-, rfl⟩⟩ := put_relays_cases hm'
    · rw [hm, Option.some.injEq] at hm₀
      subst hm₀
      exact h.others hm hk' c (hconsumers.subset hc)
    · exact h.others hm₀ hk' c hc
  member := by
    obtain ⟨m', hm', hline⟩ := h.member
    exact ⟨m', by rwa [put_relays_of_ne x k s b (Ne.symm hk)], hline.congr hb⟩

/-! ## Everything goes on -/

/-- The consumer of another relay takes a turn. -/
lemma InLine.turn_of_ne (h : x.InLine n name slot capacity routed taken) (hm : x.relays[k]? = some m) (hk : k ≠ n)
    (ht : Station.Turn (m.station, x.broker) (s, b)) : (x.put k s b).InLine n name slot capacity routed taken := by
  refine h.put_of_ne hm hk ht.steady.consumers fun {read left} hlane => ?_
  cases ht with
  | post hc hwhole hfree hpoll hoffer => exact hlane.serve hpoll (h.others hm hk _ hc)
  | wait hc hwhole hfree hpoll hoffer => exact hlane.serve hpoll (h.others hm hk _ hc)
  | refuse hc hwhole hfree hpoll hoffer =>
    have hne := h.others hm hk _ hc
    exact (hlane.serve hpoll hne).dropStream hne
  | stop hc hfree => exact hlane.dropStream (h.others hm hk _ hc)

lemma InLine.onStation_of_ne (h : x.InLine n name slot capacity routed taken) (hk : k ≠ n)
    {f : Station → Broker → Station × Broker}
    (hf : ∀ m, x.relays[k]? = some m → Station.Turns (m.station, x.broker) (f m.station x.broker)) :
    (x.onStation (.relay k) f).InLine n name slot capacity routed taken := by
  cases hm : x.relays[k]? with
  | none => rwa [onStation_of_none hm]
  | some m =>
    rw [onStation_relay hm]
    have hturns := hf m hm
    generalize f m.station x.broker = p at hturns
    induction hturns with
    | refl => rwa [Exchange.put_self hm]
    | @tail p p' _ hlast ih =>
      rw [← put_put x k p.1 p.2 p'.1 p'.2]
      exact ih.turn_of_ne (put_relays_self hm p.1 p.2) hk hlast

lemma InLine.onStation_self (h : x.InLine n name slot capacity routed taken)
    {f : Station → Broker → Station × Broker}
    (hf : ∀ s, s.InLine name slot capacity routed taken x.broker →
      (f s x.broker).1.InLine name slot capacity routed taken (f s x.broker).2) :
    (x.onStation (.relay n) f).InLine n name slot capacity routed taken := by
  obtain ⟨m, hm, hline⟩ := h.member
  rw [onStation_relay hm]
  exact h.put_self (hf m.station hline)

/-- Whoever was given a place uses it, and goes on. -/
lemma InLine.useGrants (h : x.InLine n name slot capacity routed taken) (k count : Nat) :
    (x.useGrants (.relay k) count).InLine n name slot capacity routed taken := by
  induction count generalizing x with
  | zero => exact h
  | succ count ih =>
    unfold Exchange.useGrants
    cases hm : x.relays[k]? with
    | none => simp only [station?, hm, Option.map_none]; exact h
    | some m =>
      simp only [station?, hm, Option.map_some]
      cases hg : m.station.mailbox.useGrant with
      | none => exact h
      | some p =>
        obtain ⟨sender, mailbox⟩ := p
        obtain ⟨event, rest, hgranted, rfl⟩ := Mailbox.useGrant_eq_some hg
        refine ih ?_
        have hposted : (x.put k { m.station with
            mailbox := ({ m.station.mailbox with granted := rest } : Mailbox).put event }
            x.broker).InLine n name slot capacity routed taken := by
          by_cases hk : k = n
          · subst hk
            obtain ⟨m', hm', hline⟩ := h.member
            rw [hm, Option.some.injEq] at hm'
            subst hm'
            exact h.put_self (hline.grant hgranted)
          · exact h.put_of_ne hm hk (List.Sublist.refl _) id
        cases sender with
        | consumer stream =>
          by_cases hk : k = n
          · subst hk
            exact hposted.onStation_self fun s hs => hs.resume stream
          · exact hposted.onStation_of_ne hk fun m' _ => Station.resume_turns m'.station _ stream
        | loop | call | outgoing => exact hposted

lemma InLine.resumeSeat (h : x.InLine n name slot capacity routed taken) (k : Nat) :
    (x.resumeSeat (.relay k)).InLine n name slot capacity routed taken := by
  unfold Exchange.resumeSeat
  split
  · exact h
  · exact h.useGrants k _

lemma InLine.runConsumersAt (h : x.InLine n name slot capacity routed taken) (k : Nat) :
    (x.onStation (.relay k) Station.runConsumers).InLine n name slot capacity routed taken := by
  by_cases hk : k = n
  · subst hk
    exact h.onStation_self fun s hs => hs.runConsumers
  · exact h.onStation_of_ne hk fun m hm => Station.runConsumers_turns (h.crewed hm) x.broker

/-- **Nobody is out of line when everything has gone on.** -/
lemma InLine.quiesce (h : x.InLine n name slot capacity routed taken) :
    x.quiesce.InLine n name slot capacity routed taken := by
  have hfold : ∀ {f : Exchange → Seat → Exchange} (_ : ∀ {y : Exchange} (k : Nat),
      y.InLine n name slot capacity routed taken → (f y (.relay k)).InLine n name slot capacity routed taken)
      (ks : List Nat) {y : Exchange}, y.InLine n name slot capacity routed taken →
      ((ks.map Seat.relay).foldl f y).InLine n name slot capacity routed taken := by
    intro f hf ks
    induction ks with
    | nil => exact id
    | cons k rest ih => exact fun hy => ih (hf k hy)
  have hresumed := hfold (fun k hy => hy.resumeSeat k) (List.range x.relays.length) h
  rw [quiesce_eq h.nodes, Exchange.runConsumers, seats, hresumed.nodes, List.length_nil, List.range_zero,
    List.map_nil, List.append_nil]
  exact hfold (fun k hy => hy.runConsumersAt k) _ hresumed

lemma InLine.tick (h : x.InLine n name slot capacity routed taken) (time : Nat) :
    ({ x with clock := time } : Exchange).InLine n name slot capacity routed taken :=
  ⟨h.nodes, h.crewed, h.others, h.member⟩

lemma InLine.pass (h : x.InLine n name slot capacity routed taken) (ms : Nat) :
    (x.pass ms).InLine n name slot capacity routed taken := by
  by_cases hms : ms = 0
  · rwa [Exchange.pass, if_pos hms]
  · rw [pass_eq h.nodes h.crewed hms]
    exact h.quiesce.tick _

/-! ## What is asked for -/

/-- What brings messages and takes events: publishing, whatever needs no session, emptying mailboxes, and coming up to
do so. -/
def Command.isTraffic : Command → Bool
  | .connect .. | .publish .. | .control _ | .takeEvents .. => true
  | _ => false

lemma InLine.route (h : x.InLine n name slot capacity routed taken) (queue : String) (payload : Bytes) :
    ({ x with broker := x.broker.route queue payload } : Exchange).InLine n name slot capacity
      (routed ++ if queue = name ∧ (x.broker.queue? name).isSome then [payload] else []) taken := by
  refine h.withBroker fun {s} hs => ?_
  obtain ⟨read, left, hlane, -⟩ := hs.line
  obtain ⟨turn, nextTag, hq⟩ := hlane.queue
  by_cases hqueue : queue = name
  · subst hqueue
    rw [if_pos ⟨rfl, by rw [hq]; rfl⟩]
    exact hs.route payload
  · rw [if_neg fun hboth => hqueue hboth.1, List.append_nil]
    exact hs.congr fun hlane => hlane.route_of_ne hqueue payload

lemma InLine.control (h : x.InLine n name slot capacity routed taken) (c : Broker.Control) :
    ({ x with broker := (x.broker.control c).2 } : Exchange).InLine n name slot capacity
      (routed ++ routedBy name x (.control c)) taken := by
  cases c with
  | inject queue payload => exact h.route queue payload
  | stats queue =>
    rw [show routedBy name x (.control _) = [] from rfl, List.append_nil]
    exact h.withBroker fun hs => hs.congr fun hlane => hlane.stats queue
  | openSessions | refuseConnects | refuseChannel =>
    rw [show routedBy name x (.control _) = [] from rfl, List.append_nil]
    exact h.withBroker fun hs => hs.congr fun hlane => hlane.of_eq rfl rfl

lemma InLine.publish (h : x.InLine n name slot capacity routed taken) (k : Nat) (queue user text : String) :
    (x.publish k queue user text).2.InLine n name slot capacity
      (routed ++ sentBy name k queue user text x) taken := by
  cases hs : x.station? (.relay k) with
  | none => simpa [sentBy, Exchange.publish, hs] using h
  | some s =>
    cases hpayload : s.relay.payloadOf user text with
    | error e => simpa [sentBy, publish_of_error hs hpayload, hs, hpayload] using h
    | ok payload =>
      have hpassed := h.pass (s.relay.publishDelay x.link)
      generalize hx : x.pass (s.relay.publishDelay x.link) = passed at hpassed
      have hpublish := publish_of_ok queue hs hpayload hx
      rcases arrive_cases x.link s.relay queue payload passed.broker with ⟨e, heq⟩ | heq
      · rw [heq] at hpublish
        simpa only [sentBy, hs, hpayload, hpublish, List.append_nil] using hpassed
      · rw [heq] at hpublish
        simpa only [sentBy, hs, hpayload, hpublish, route_isSome_iff] using hpassed.route queue payload

lemma InLine.publishAll (h : x.InLine n name slot capacity routed taken) (k : Nat) (queue user : String)
    (texts : List String) (last : Option (Except RelayError Unit)) :
    (publishAll k queue user texts last x).2.InLine n name slot capacity
      (routed ++ sentAllBy name k queue user texts x) taken := by
  induction texts generalizing x routed last with
  | nil => rwa [sentAllBy, List.append_nil]
  | cons text rest ih =>
    rw [sentAllBy, ← List.append_assoc]
    exact ih (h.publish k queue user text) _

lemma InLine.takeEvents (h : x.InLine n name slot capacity routed taken) (seat : Seat) (limit : Option Nat) :
    (x.takeEvents seat limit).2.InLine n name slot capacity routed
      (taken ++ takenBy n x (.takeEvents seat limit)) := by
  cases seat with
  | node k => simpa [Exchange.takeEvents, station?, h.nodes, takenBy] using h
  | relay k =>
    cases hm : x.relays[k]? with
    | none => simpa [Exchange.takeEvents, station?, hm, takenBy] using h
    | some m =>
      have htake : x.takeEvents (.relay k) limit = ((m.station.mailbox.take limit).1,
          x.put k { m.station with mailbox := (m.station.mailbox.take limit).2 } x.broker) := by
        simp only [Exchange.takeEvents, station?, hm, Option.map_some]
        rfl
      rw [takenBy, htake]
      by_cases hk : k = n
      · subst hk
        obtain ⟨m', hm', hline⟩ := h.member
        rw [hm, Option.some.injEq] at hm'
        subst hm'
        rw [if_pos rfl]
        exact h.put_self (hline.take limit)
      · rw [if_neg (Ne.symm hk), List.append_nil]
        exact h.put_of_ne hm hk (List.Sublist.refl _) id

/-- A relay that comes up has no consumers. -/
lemma InLine.enroll {new : Member} (h : x.InLine n name slot capacity routed taken)
    (hnew : new.station.relay.consumers = []) : (x.enroll new).InLine n name slot capacity routed taken := by
  obtain ⟨m, hm, hline⟩ := h.member
  refine ⟨h.nodes, fun k m' hm' => ?_, fun {k m'} hm' hk c hc => ?_, m, enroll_of_some hm, hline⟩
  · rcases enroll_cases hm' with hold | ⟨-, -, rfl⟩
    · exact h.crewed hold
    · simp [hnew]
  · rcases enroll_cases hm' with hold | ⟨-, -, rfl⟩
    · exact h.others hold hk c hc
    · rw [hnew] at hc
      cases hc

lemma InLine.connect (h : x.InLine n name slot capacity routed taken) (config : QueueConfig) (capacity' : Nat) :
    (x.connect config capacity').2.InLine n name slot capacity routed taken := by
  have hopened : (x.openSession config).2.InLine n name slot capacity routed taken := by
    rw [openSession_eq]
    refine InLine.pass (h.withBroker fun hs => hs.congr fun {read left} hlane => ?_) _
    exact Link.connect_induction (P := fun b => b.Lane name slot read left) (fun _ hb => hb.connect) x.link config
      hlane
  unfold Exchange.connect
  split
  · next heq => rw [heq] at hopened; exact hopened
  · next session x' heq =>
    rw [heq] at hopened
    show (x'.enroll (newcomer session config capacity')).InLine n name slot capacity routed taken
    exact hopened.enroll rfl

/-- **What is brought and taken keeps the line.** -/
lemma InLine.step (h : x.InLine n name slot capacity routed taken) {c : Command} (hc : c.isTraffic = true) :
    (x.step c).2.2.InLine n name slot capacity (routed ++ routedBy name x c) (taken ++ takenBy n x c) := by
  rw [step_eq]
  refine InLine.quiesce ?_
  cases c with
  | connect config capacity' =>
    rw [show routedBy name x (.connect ..) = [] from rfl, show takenBy n x (.connect ..) = [] from rfl,
      List.append_nil, List.append_nil, show (x.act (.connect config capacity')).2 = (x.connect config capacity').2 by
      simp only [act]
      split <;> simp_all]
    exact h.connect config capacity'
  | publish k queue user texts =>
    rw [show takenBy n x (.publish ..) = [] from rfl, List.append_nil]
    exact h.publishAll k queue user texts none
  | control c =>
    rw [show takenBy n x (.control c) = [] from rfl, List.append_nil]
    exact h.control c
  | takeEvents seat limit =>
    rw [show routedBy name x (.takeEvents ..) = [] from rfl, List.append_nil]
    exact h.takeEvents seat limit
  | _ => cases hc

lemma InLine.run (h : x.InLine n name slot capacity routed taken) {cs : List Command}
    (hcs : ∀ c ∈ cs, c.isTraffic = true) :
    (x.run cs).2.InLine n name slot capacity (routed ++ history (routedBy name) x cs)
      (taken ++ history (takenBy n) x cs) := by
  induction cs generalizing x routed taken with
  | nil => simpa only [run_nil, history, List.append_nil] using h
  | cons c rest ih =>
    rw [List.forall_mem_cons] at hcs
    rw [run_cons, history, history, ← List.append_assoc, ← List.append_assoc]
    exact ih (h.step hcs.1) hcs.2

/-! ## The relay joins -/

lemma Shipshape.relay_manned (hx : x.Shipshape) (hm : x.relays[k]? = some m) : m.station.Manned x.broker := by
  have hs : x.station? (.relay k) = some m.station := by rw [station?, hm, Option.map_some]
  exact hx.manned hs

/-- A relay that has nothing to do yet, and a queue that nobody has ever listened to. -/
structure Waits (n : Nat) (s : Station) (name : String) (backlog : List Bytes) (x : Exchange) : Prop where
  nodes : x.nodes = []
  station : x.station? (.relay n) = some s
  unheard : x.broker.Unheard name backlog

lemma station?_put_of_ne (hk : k ≠ n) (s' : Station) (b : Broker) (h : x.station? (.relay n) = some s) :
    (x.put k s' b).station? (.relay n) = some s := by
  rw [station?, put_relays_of_ne x k s' b (Ne.symm hk)]
  exact h

/-- Others go on, and the relay waits. -/
lemma Waits.turn (h : x.Waits n s name backlog) (hconsumers : s.relay.consumers = [])
    (hgranted : s.mailbox.granted = []) (ht : Turn x x') : x'.Waits n s name backlog := by
  cases ht with
  | @station k m s' b hm ht =>
    have hk : k ≠ n := by
      rintro rfl
      have hs := h.station
      rw [station?, hm, Option.map_some, Option.some.injEq] at hs
      exact ht.consumers_ne (by rw [hs]; exact hconsumers)
    refine ⟨h.nodes, station?_put_of_ne hk s' b h.station, ?_⟩
    show b.Unheard name backlog
    cases ht with
    | post hc hwhole hfree hpoll hoffer => exact h.unheard.serve hpoll
    | wait hc hwhole hfree hpoll hoffer => exact h.unheard.serve hpoll
    | refuse hc hwhole hfree hpoll hoffer => exact (h.unheard.serve hpoll).dropStream _
    | stop hc hfree => exact h.unheard.dropStream _
  | @grant k m sender mailbox hm hg =>
    have hk : k ≠ n := by
      rintro rfl
      have hs := h.station
      rw [station?, hm, Option.map_some, Option.some.injEq] at hs
      obtain ⟨event, rest, hsome, -⟩ := Mailbox.useGrant_eq_some hg
      rw [hs, hgranted] at hsome
      cases hsome
    exact ⟨h.nodes, station?_put_of_ne hk _ _ h.station, h.unheard⟩
  | tick time => exact ⟨h.nodes, h.station, h.unheard⟩

lemma Waits.pass (h : x.Waits n s name backlog) (hconsumers : s.relay.consumers = [])
    (hgranted : s.mailbox.granted = []) (hx : x.Crewed) (ms : Nat) : (x.pass ms).Waits n s name backlog := by
  have hturns := pass_turns h.nodes hx ms
  generalize x.pass ms = y at hturns ⊢
  induction hturns with
  | refl => exact h
  | tail _ hlast ih => exact ih.turn hconsumers hgranted hlast

/-- Nobody has listened to the queue when it is there: it may have to be declared. -/
lemma unheard_declare {session : Nat} (hb : x.broker.Sound) (hfresh : x.broker.Untouched)
    (hsilent : ∀ stream ∈ x.broker.streams, stream.queue ≠ name)
    (hok : x.link.declare session name x.broker = (.ok (), b)) :
    b.Unheard name (x.broker.readyOf name) := by
  have hdeclare : x.broker.declare session name = (.ok (), b) := by
    unfold Link.declare at hok
    split at hok
    · cases hok
    · exact hok
  unfold Broker.declare at hdeclare
  split at hdeclare
  · cases hdeclare
  · cases hq : x.broker.queue? name with
    | none =>
      rw [hq] at hdeclare
      cases hdeclare
      refine ⟨hb.declared hq, hsilent, 0, 0, ?_⟩
      rw [Broker.readyOf, hq]
      exact (Broker.declared_queue? hq name).trans (if_pos rfl)
    | some q =>
      rw [hq] at hdeclare
      cases hdeclare
      refine ⟨hb, hsilent, q.turn, q.nextTag, ?_⟩
      obtain ⟨hunacked, hacked, hrejected⟩ := hfresh hq hsilent
      have hslots : q.slots = [] := by
        refine List.eq_nil_iff_forall_not_mem.2 fun slot hslot => ?_
        obtain ⟨stream, hstream, hqueue, -⟩ := hb.slot hq hslot
        exact hsilent stream (List.mem_iff_getElem?.2 ⟨_, hstream⟩) hqueue
      rw [Broker.readyOf_of_some hq, hq]
      cases q
      simp_all

/-- A join that succeeds and finds nothing joined has got a stream. -/
lemma relay_finishJoin_ok {r : Relay} (hnone : r.hasJoined name = false) (hok : (r.finishJoin name b).1 = .ok ()) :
    ∃ stream b', b.consume r.session name r.config.ackMode = (.ok stream, b') ∧
      r.finishJoin name b = (.ok (), r.withConsumer name stream, b') := by
  unfold Relay.finishJoin Relay.subscribe at hok ⊢
  cases hclosed : r.closed with
  | true => simp [hnone, hclosed] at hok
  | false =>
    rcases hconsume : b.consume r.session name r.config.ackMode with ⟨_ | stream, b'⟩
    · simp [hnone, hclosed, hconsume] at hok
    · simp [hnone, hclosed, Relay.startConsumer_of_open]

/-- A relay with one consumer, which has just begun. -/
lemma Waits.finishJoin (h : x.Waits n s name backlog) (hx : x.Shipshape) (hconsumers : s.relay.consumers = [])
    (hmailbox : s.mailbox = { capacity }) (hok : (x.finishJoin (.relay n) name).1 = .ok ()) :
    ∃ slot, slot.mode = s.relay.config.ackMode ∧
      (x.finishJoin (.relay n) name).2.InLine n name slot capacity backlog [] := by
  have hresult : (s.relay.finishJoin name x.broker).1 = .ok () := by
    unfold Exchange.finishJoin at hok
    rwa [h.station] at hok
  obtain ⟨stream, b, hconsume, heq⟩ := relay_finishJoin_ok (by simp [Relay.hasJoined, hconsumers]) hresult
  obtain ⟨left, hleft, hlane⟩ := h.unheard.consume hconsume
  obtain ⟨m, hm, rfl⟩ : ∃ m, x.relays[n]? = some m ∧ m.station = s := Option.map_eq_some_iff.1 h.station
  have hput : (x.finishJoin (.relay n) name).2 =
      x.put n { m.station with relay := m.station.relay.withConsumer name stream } b := by
    unfold Exchange.finishJoin
    rw [h.station]
    simp only [heq]
    rfl
  have hself : ({ m.station with relay := m.station.relay.withConsumer name stream } : Station).InLine name
      ⟨m.station.relay.session, m.station.relay.config.ackMode, stream⟩ capacity backlog [] b := by
    refine ⟨?_, ?_, ?_, [], left, hlane, by rw [List.nil_append, hleft], ?_⟩
    · show m.station.relay.consumers ++ _ = _
      rw [hconsumers, List.nil_append]
    · show m.station.mailbox.Single stream
      rw [hmailbox]
      exact Mailbox.single_new stream capacity
    · show m.station.mailbox.capacity = capacity
      rw [hmailbox]
    · show [] = [] ++ (m.station.mailbox.posted ++ m.station.mailbox.inHand)
      rw [hmailbox]
      rfl
  rw [hput]
  refine ⟨_, rfl, h.nodes, fun k m' hm' => ?_, fun {k m'} hm' hk c hc => ?_, _, put_relays_self hm _ b, hself⟩
  · obtain ⟨m₀, hm₀, ⟨-, rfl⟩ | ⟨-, rfl⟩⟩ := put_relays_cases hm'
    · rw [hself.consumers]
      exact List.nodup_singleton _
    · exact (hx.relay_manned hm₀).nodup
  · -- a stream that was there before is another one
    rw [put_relays_of_ne x n _ b hk] at hm'
    have hlt := (hx.relay_manned hm').lt c hc
    obtain ⟨hstream, -⟩ := Broker.consume_stream hconsume
    show c.stream ≠ stream
    omega

/-- **The relay that joins a queue that nobody has listened to is its only consumer**, and gets what has been
waiting. -/
lemma join_inLine (hx : x.Shipshape) (hsound : x.broker.Sound) (hfresh : x.broker.Untouched) (hnodes : x.nodes = [])
    (hs : x.station? (.relay n) = some s) (hconsumers : s.relay.consumers = [])
    (hmailbox : s.mailbox = { capacity })
    (hsilent : ∀ stream ∈ x.broker.streams, stream.queue ≠ name)
    (hok : (x.join (.relay n) name).1 = .ok ()) :
    ∃ slot, slot.mode = s.relay.config.ackMode ∧
      (x.join (.relay n) name).2.InLine n name slot capacity (x.broker.readyOf name) [] := by
  have honwards := beginJoin_onwards x s.relay name
  have hnone : s.relay.hasJoined name = false := by simp [Relay.hasJoined, hconsumers]
  unfold Exchange.join at hok ⊢
  rw [hs] at hok ⊢
  cases hbegin : s.relay.beginJoin x.link name x.broker with
  | mk result b =>
    rw [hbegin] at honwards
    simp only [hbegin, hnone] at hok ⊢
    cases result with
    | error e => cases hok
    | ok =>
      simp only [Bool.false_eq_true, if_false] at hok ⊢
      have hunheard : b.Unheard name (x.broker.readyOf name) := by
        unfold Relay.beginJoin at hbegin
        split at hbegin
        · cases hbegin
        · split at hbegin
          · cases hbegin
          · exact unheard_declare hsound hfresh hsilent hbegin
      have hshape := honwards.shipshape hx
      have hwaits : ({ x with broker := b } : Exchange).Waits n s name (x.broker.readyOf name) :=
        ⟨hnodes, hs, hunheard⟩
      have hcrewed : ({ x with broker := b } : Exchange).Crewed := fun k m' hm' =>
        (hshape.relay_manned hm').nodup
      exact (hwaits.pass hconsumers (by rw [hmailbox]) hcrewed x.link.consumeMs).finishJoin
        ((pass_onwards _ hshape).shipshape hshape) hconsumers hmailbox hok

/-! ## A broker that was used before -/

/-- An exchange that nobody has come to yet, at a broker that others have used before. -/
def reopened (link : Link) (earlier : List Desk.Command) : Exchange :=
  { link, broker := (({} : Desk).run earlier).2.broker }

lemma reopened_regular (link : Link) (earlier : List Desk.Command) :
    ∃ owner, (reopened link earlier).desk.Regular owner := by
  obtain ⟨owner, hregular⟩ := Desk.regular_run earlier
  exact ⟨owner,
    { sound := ⟨hregular.sound.broker, fun h => by simp [desk] at h⟩
      idle := hregular.idle
      owned := hregular.owned
      attended := hregular.attended
      counted := hregular.counted
      taken := fun h => by simp [desk] at h }⟩

/-- When the others have gone, none of their sessions is open. -/
lemma reopened_isOpen {link : Link} {earlier : List Desk.Command}
    (hgone : (reopened link earlier).broker.openSessions = 0) (session : Nat) :
    (reopened link earlier).broker.isOpen session = false := by
  obtain ⟨owner, hregular⟩ := reopened_regular link earlier
  have hcount : (reopened link earlier).broker.sessions.count true = 0 := hregular.counted.symm.trans hgone
  cases hopen : (reopened link earlier).broker.isOpen session with
  | false => rfl
  | true =>
    have hlt := Broker.lt_of_isOpen hopen
    rw [Broker.isOpen_eq_getElem hlt] at hopen
    exact absurd (hopen ▸ List.getElem_mem hlt) (List.count_eq_zero.1 hcount)

lemma reopened_untouched (link : Link) (earlier : List Desk.Command) :
    (reopened link earlier).broker.Untouched :=
  Desk.untouched_run earlier

/-! ## The main result -/

/-- **How far a consumer has come**, when `routed` is all that has come to its queue and `taken` are the events that
were taken from its mailbox, which has `capacity` places. -/
structure KeepsPace (x : Exchange) (n : Nat) (name : String) (mode : AckMode) (capacity : Nat) (routed : List Bytes)
    (taken : List Event) : Prop where
  /-- It has posted an event for each message, in order, as far as there are places. -/
  events : taken ++ x.postedAt n = (routed.take (taken.length + capacity)).map Relay.eventFor
  /-- It has settled one message more, if it settles messages at all. -/
  counts : (x.step (.control (.stats name))).1 = .control (.stats (some
    { ready := 0
      consumers := 1
      acked := if mode = .manual then (routed.take (taken.length + capacity + 1)).countP Envelope.reads else 0
      rejected := if mode = .manual then
        (routed.take (taken.length + capacity + 1)).countP (!Envelope.reads ·) else 0
      unacked := if mode = .manual then
        routed.length - min routed.length (taken.length + capacity + 1) else 0 }))

lemma InLine.keepsPace (h : x.InLine n name slot capacity routed taken) (hrested : x.Rested) :
    x.KeepsPace n name slot.mode capacity routed taken := by
  obtain ⟨m, hm, hline⟩ := h.member
  have hs : x.station? (.relay n) = some m.station := by rw [station?, hm, Option.map_some]
  have hidle := (hrested.consumers hs (c := ⟨name, slot.stream, false⟩) (by rw [hline.consumers]; simp)).1
  obtain ⟨hevents, left, hlane, hleft⟩ := hline.atRest (hrested.granted hs) (hidle.imp_right And.right)
  refine ⟨by rw [postedAt_of_some hm]; exact hevents, ?_⟩
  have hstats := hlane.stats_eq
  rw [hleft] at hstats
  show Answer.control (.stats (x.broker.stats name).1) = _
  rw [hstats]

/-- **Back-pressure.**  Others have used a broker and have gone.  A relay that has joined nothing yet joins a queue that
nobody has ever listened to, whatever waits there, and from then on relays come up, messages are published and brought
from outside, and events are taken, in any order.  Whenever everything has come to rest, the events that were taken and
those in the mailbox are those of the first messages, as many as were taken and there are places; one more is settled,
and the others are not. -/
theorem consumer_keeps_pace (link : Link) (earlier : List Desk.Command) (before after : List Command) {n ms : Nat}
    {name : String} {s : Station} {x y : Exchange} (hgone : (reopened link earlier).broker.openSessions = 0)
    (hbefore : ((reopened link earlier).run before).2 = x) (hnodes : x.nodes = [])
    (hs : x.station? (.relay n) = some s) (hconsumers : s.relay.consumers = []) {capacity : Nat}
    (hmailbox : s.mailbox = { capacity }) (hsilent : ∀ stream ∈ x.broker.streams, stream.queue ≠ name)
    (hjoin : x.step (.join n name) = (.done, ms, y)) (hafter : ∀ c ∈ after, c.isTraffic = true) :
    (y.run after).2.KeepsPace n name s.relay.config.ackMode capacity
      (x.broker.readyOf name ++ history (routedBy name) y after) (history (takenBy n) y after) := by
  have hvacant : (reopened link earlier).Shipshape := shipshape_of_vacant rfl rfl
  have hroster := roster_of_vacant rfl rfl (reopened_regular link earlier) (reopened_isOpen hgone)
  obtain ⟨owner, hregular⟩ := reopened_regular link earlier
  obtain ⟨log, hcourse, -⟩ := run_onwards before hvacant
  have hshape := hcourse.shipshape hvacant
  have hsound : (⟨((reopened link earlier).run before).2.broker, []⟩ : Desk).Sound :=
    Desk.Works.sound hregular.sound hcourse.works
  have hfresh := hcourse.works.untouched hregular.sound (reopened_untouched link earlier)
  have hrested := (rested_of_vacant rfl rfl).run hvacant hroster (before ++ .join n name :: after)
  rw [run_append, run_cons, hbefore, hjoin] at hrested
  rw [hbefore] at hshape hsound hfresh
  have hok : (x.join (.relay n) name).1 = .ok () := by
    have hanswer : Answer.ofUnit (x.join (.relay n) name).1 = .done := congrArg Prod.fst hjoin
    cases hresult : (x.join (.relay n) name).1 with
    | ok => rfl
    | error e => rw [hresult] at hanswer; cases hanswer
  obtain ⟨slot, hmode, hline⟩ :=
    join_inLine hshape hsound.broker hfresh hnodes hs hconsumers hmailbox hsilent hok
  have hy : (x.join (.relay n) name).2.quiesce = y := by
    rw [← show (x.step (.join n name)).2.2 = y from by rw [hjoin]]
    exact (step_eq x (.join n name)).symm
  rw [← hmode]
  have hrun := (hy ▸ hline.quiesce).run hafter
  rw [List.nil_append] at hrun
  exact hrun.keepsPace hrested

lemma isBlank_ann : Text.isBlank "ann" = false := by decide

/-- Somebody declares a queue, and leaves.  Three messages come to it, of which the second cannot be read. -/
def earlierUse : List Desk.Command :=
  [.connect, .declare 0 "line", .close 0, .control (.inject "line" (Envelope.encode ⟨"ann", "one", isBlank_ann⟩)),
    .control (.inject "line" [0xFF]), .control (.inject "line" (Envelope.encode ⟨"bob", "three", by decide⟩))]

/-- A way to the broker that takes time. -/
def slowLink : Link :=
  { publishMs := 3, consumeMs := 2 }

/-- A user of the queue. -/
def lineConfig : QueueConfig :=
  { brokerUri := "memory://", queueName := "line" }

/-- Two relays have come up, the first with a mailbox that has one place. -/
def beforeLine : Exchange :=
  ((reopened slowLink earlierUse).run [.connect lineConfig 1, .connect lineConfig 4]).2

/-- Events are taken while messages come. -/
def lineTraffic : List Command :=
  [.takeEvents (.relay 0) (some 1), .publish 1 "line" "cat" ["four", "five"], .takeEvents (.relay 0) none,
    .control (.inject "line" []), .publish 0 "line" "dan" ["seven"]]

/-- Seven messages have come and two events were taken: the third event is in the mailbox, the fourth message is settled
while its event waits for a place, and the other three wait to be settled. -/
theorem consumer_keeps_pace_lineTraffic :
    (reopened slowLink earlierUse).broker.openSessions = 0 ∧
      (∀ stream ∈ beforeLine.broker.streams, stream.queue ≠ "line") ∧
      ((beforeLine.step (.join 0 "line")).2.2.run lineTraffic).2.KeepsPace 0 "line" .manual 1
        (beforeLine.broker.readyOf "line" ++
          history (routedBy "line") (beforeLine.step (.join 0 "line")).2.2 lineTraffic)
        (history (takenBy 0) (beforeLine.step (.join 0 "line")).2.2 lineTraffic) :=
  have hgone : (reopened slowLink earlierUse).broker.openSessions = 0 := by decide +kernel
  have hsilent : ∀ stream ∈ beforeLine.broker.streams, stream.queue ≠ "line" := by decide +kernel
  ⟨hgone, hsilent, consumer_keeps_pace slowLink earlierUse _ lineTraffic hgone rfl (by decide +kernel)
    (s := { relay := { session := 1, config := lineConfig }, mailbox := { capacity := 1 } })
    (by decide +kernel) rfl rfl hsilent rfl (by decide +kernel)⟩

end Exchange

end MessageRelay
