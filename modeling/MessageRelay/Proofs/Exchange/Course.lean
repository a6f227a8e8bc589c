import MessageRelay.Proofs.Broker.Custody
import MessageRelay.Proofs.Direct.Turns
import MessageRelay.Proofs.Exchange.Commands

/-!
# What can happen in an exchange

Relays and nodes do what they do in small steps, and which of them comes next is left open.
`Station.Act` says what can happen at one station, be it of a relay or of a node, and `Exchange.Move` what
can happen in an exchange; a `Course` is any sequence of such steps, with a log of the messages that were
published and the events that were posted.

All that is said of courses holds of the exchanges that answer commands, for each of their runs is a
course (`run_course`).
-/

namespace MessageRelay

/-- The user and the text make an envelope that may be sent, and this is its wire form. -/
def Envelope.Encodes (user text : String) (payload : Bytes) : Prop :=
  ∃ e, Envelope.make user text = .ok e ∧ e.encodeForSend = .ok payload

lemma Relay.encodes_of_payloadOf {r : Relay} {user text : String} {payload : Bytes}
    (h : r.payloadOf user text = .ok payload) : Envelope.Encodes user text payload := by
  unfold payloadOf at h
  split at h
  · cases h
  · split at h
    · cases h
    · next e he => exact ⟨e, he, h⟩

/-- The stream from which a sender has its events, if it is a consumer. -/
def Sender.stream? : Sender → Option Nat
  | .consumer stream => some stream
  | .loop | .call _ | .outgoing _ => none

/-! ## One station -/

/-- Who subscribes gets a stream with a new number. -/
lemma Broker.consume_stream {b b' : Broker} {session stream : Nat} {queue : String} {mode : AckMode}
    (h : b.consume session queue mode = (.ok stream, b')) :
    stream = b.streams.length ∧ b.streams.length < b'.streams.length := by
  rcases consume_cases b session queue mode with ⟨e, heq⟩ | ⟨q, -, -, heq⟩
  · rw [heq] at h
    cases h
  · rw [heq] at h
    cases h
    refine ⟨rfl, ?_⟩
    rw [(fed_routeAll _ queue q.ready).length_eq, enlist_streams, List.length_append]
    exact Nat.lt_succ_self _

namespace Station

/-- What is written down of something that happens at a station. -/
inductive Entry where
  /-- An event has come into the mailbox.  If a consumer has posted it, this is the stream from which it
  had it. -/
  | posted (stream : Option Nat) (event : Event)
  /-- A peer has called. -/
  | called (user text : String)

/-- What can happen at a station, with what is written down of it. -/
inductive Act (link : Link) : Station × Broker → Option Entry → Station × Broker → Prop
  /-- A consumer takes a message, settles it and posts it. -/
  | post {s : Station} {b b' : Broker} {c : Consumer} {d : Delivery} {m : Mailbox}
      (hc : c ∈ s.relay.consumers) (hpoll : b.poll c.stream = (.delivery d, b'))
      (hoffer : s.mailbox.offer (.consumer c.stream) (Relay.eventOf d.payload).1 = .posted m) :
      Act link (s, b) (some (.posted (some c.stream) (Relay.eventOf d.payload).1))
        ({ s with mailbox := m }, (Relay.settle b' d).2)
  /-- A consumer takes a message, settles it, and waits for a place to post it. -/
  | wait {s : Station} {b b' : Broker} {c : Consumer} {d : Delivery} {m : Mailbox}
      (hc : c ∈ s.relay.consumers) (hpoll : b.poll c.stream = (.delivery d, b'))
      (hoffer : s.mailbox.offer (.consumer c.stream) (Relay.eventOf d.payload).1 = .waits m) :
      Act link (s, b) none ({ s with mailbox := m }, (Relay.settle b' d).2)
  /-- A consumer takes a message, settles it, and stops. -/
  | serveLast {s : Station} {b b' : Broker} {c : Consumer} {d : Delivery}
      (hc : c ∈ s.relay.consumers) (hpoll : b.poll c.stream = (.delivery d, b')) :
      Act link (s, b) none (s.stopConsumer c.stream (Relay.settle b' d).2)
  /-- A consumer stops. -/
  | stop {s : Station} {b : Broker} {c : Consumer} (hc : c ∈ s.relay.consumers) :
      Act link (s, b) none (s.stopConsumer c.stream b)
  /-- Somebody who was given a place uses it. -/
  | grant {s : Station} {b : Broker} {sender : Sender} {event : Event} {rest : List (Sender × Event)}
      (hg : s.mailbox.granted = (sender, event) :: rest) :
      Act link (s, b) (some (.posted sender.stream? event))
        ({ s with mailbox := ({ s.mailbox with granted := rest } : Mailbox).put event }, b)
  /-- A failure is posted. -/
  | report {s : Station} {b : Broker} (t : Transport) (reason : String) (hroom : 0 < s.mailbox.room) :
      Act link (s, b) (some (.posted none (.sendFailed t reason)))
        ({ s with mailbox := s.mailbox.put (.sendFailed t reason) }, b)
  /-- Somebody who is no consumer waits for a place to post a failure. -/
  | hold {s : Station} {b : Broker} (sender : Sender) (hsender : sender.stream? = none) (t : Transport)
      (reason : String) (hroom : s.mailbox.room = 0) :
      Act link (s, b) none
        ({ s with mailbox := { s.mailbox with
            waiting := s.mailbox.waiting ++ [(sender, .sendFailed t reason)] } }, b)
  /-- A peer calls, and his message comes into the mailbox or waits for a place. -/
  | called {s : Station} {b : Broker} {m : Mailbox} (k : Nat) (user text : String)
      (hm : s.mailbox.offer (.call k) (Direct.Service.eventOf user text) = .posted m ∨
        s.mailbox.offer (.call k) (Direct.Service.eventOf user text) = .waits m) :
      Act link (s, b) (some (.called user text)) ({ s with mailbox := m }, b)
  /-- The calls of peers that wait for a place end. -/
  | hangUp {s : Station} {b : Broker} : Act link (s, b) none ({ s with mailbox := s.mailbox.hangUp }, b)
  /-- The user takes events. -/
  | take {s : Station} {b : Broker} (limit : Option Nat) :
      Act link (s, b) none ({ s with mailbox := (s.mailbox.take limit).2 }, b)
  /-- The user throws the mailbox away. -/
  | discard {s : Station} {b : Broker} : Act link (s, b) none (s.discardMailbox b)
  /-- A stream breaks. -/
  | breakStream {s : Station} {b : Broker} (stream : Nat) : Act link (s, b) none (s.breakStream stream, b)
  /-- The relay gets a stream; a consumer starts on it, if the relay is not closed. -/
  | listen {s : Station} {b b' : Broker} {queue : String} {stream : Nat}
      (h : b.consume s.relay.session queue s.relay.config.ackMode = (.ok stream, b')) :
      Act link (s, b) none ({ s with relay := (s.relay.startConsumer queue stream b').2.1 },
        (s.relay.startConsumer queue stream b').2.2)
  /-- The relay is marked as closed. -/
  | markClosed {s : Station} {b : Broker} : Act link (s, b) none (s.markClosed, b)
  /-- All consumers stop, and the session ends. -/
  | finishClose {s : Station} {b : Broker} : Act link (s, b) none (s.finishClose link b).2
  /-- The relay is closed, unless it was. -/
  | close {s : Station} {b : Broker} : Act link (s, b) none (s.close link b).2

variable {link : Link} {p p' : Station × Broker} {e : Option Entry}

/-- What a station asks of the broker.  It brings no messages, and a message from a stream gets the verdict
that it deserves. -/
def Asks (b : Broker) : Desk.Command → Prop
  | .settle v _ => ∃ i d b', b.poll i = (.delivery d, b') ∧ v = (Relay.eventOf d.payload).2
  | .publish .. | .control (.inject ..) => False
  | _ => True

lemma works_dropStreams (asked : Broker) (streams : List Nat) (b : Broker) :
    Desk.Works (Asks asked) ⟨b, []⟩ ⟨streams.foldl Broker.dropStream b, []⟩ := by
  induction streams generalizing b with
  | nil => exact .refl
  | cons i rest ih => exact (Desk.works_command (.dropStream i) trivial).trans (ih _)

lemma works_startConsumer (asked : Broker) (r : Relay) (queue : String) (stream : Nat) (b : Broker) :
    Desk.Works (Asks asked) ⟨b, []⟩ ⟨(r.startConsumer queue stream b).2.2, []⟩ := by
  unfold Relay.startConsumer
  split
  · exact Desk.works_command (.dropStream stream) trivial
  · exact .refl

lemma works_finishClose (asked : Broker) (link : Link) (s : Station) (b : Broker) :
    Desk.Works (Asks asked) ⟨b, []⟩ ⟨(s.finishClose link b).2.2, []⟩ := by
  rw [finishClose_eq]
  exact (works_dropStreams _ _ _).trans (Desk.works_command (.close _) trivial)

lemma works_consume {asked b b' : Broker} {session stream : Nat} {queue : String} {mode : AckMode}
    (h : b.consume session queue mode = (.ok stream, b')) :
    Desk.Works (Asks asked) ⟨b, []⟩ ⟨b', []⟩ := by
  have hstep : (Desk.step ⟨b, []⟩ (.consume session queue mode)).2 = ⟨b', []⟩ := by
    simp only [Desk.step, h]
  rw [← hstep]
  exact Desk.works_command _ trivial

lemma works_serve {b b' : Broker} {i : Nat} {d : Delivery} (h : b.poll i = (.delivery d, b')) :
    Desk.Works (Asks b) ⟨b, []⟩ ⟨(Relay.settle b' d).2, []⟩ := by
  have hpoll : (⟨b, []⟩ : Desk).broker.poll i = (.delivery d, b') := h
  exact Desk.works_settle trivial (fun _ => ⟨i, d, b', h, rfl⟩) hpoll

/-- Whatever happens at a station, the broker is used as any client can use it. -/
lemma Act.works (h : Act link p e p') : Desk.Works (Asks p.2) ⟨p.2, []⟩ ⟨p'.2, []⟩ := by
  cases h with
  | post hc hpoll hoffer => exact works_serve hpoll
  | wait hc hpoll hoffer => exact works_serve hpoll
  | serveLast hc hpoll => exact (works_serve hpoll).trans (Desk.works_command (.dropStream _) trivial)
  | stop hc => exact Desk.works_command (.dropStream _) trivial
  | grant hg => exact .refl
  | report t reason hroom => exact .refl
  | hold sender hsender t reason hroom => exact .refl
  | called k user text hm => exact .refl
  | hangUp => exact .refl
  | take limit => exact .refl
  | discard =>
    rw [discardMailbox_eq]
    exact works_dropStreams _ _ _
  | breakStream stream => exact .refl
  | listen hconsume => exact (works_consume hconsume).trans (works_startConsumer _ _ _ _ _)
  | markClosed => exact .refl
  | finishClose => exact works_finishClose _ _ _ _
  | close =>
    unfold Station.close
    split
    · exact .refl
    · exact works_finishClose _ _ _ _

/-- What happens at a station leaves the relay its session and its settings, and a relay that was closed
stays so. -/
lemma Act.same (h : Act link p e p') :
    p'.1.relay.session = p.1.relay.session ∧ p'.1.relay.config = p.1.relay.config ∧
      (p.1.relay.closed = true → p'.1.relay.closed = true) := by
  cases h with
  | discard => rw [discardMailbox_eq]; exact ⟨rfl, rfl, id⟩
  | @listen s b b' queue stream hconsume =>
    unfold Relay.startConsumer
    split
    · exact ⟨rfl, rfl, id⟩
    · exact ⟨rfl, rfl, id⟩
  | markClosed => exact ⟨rfl, rfl, fun _ => rfl⟩
  | finishClose => rw [finishClose_eq]; exact ⟨rfl, rfl, id⟩
  | close =>
    unfold Station.close
    split
    · exact ⟨rfl, rfl, id⟩
    · rw [finishClose_eq]
      exact ⟨rfl, rfl, fun _ => rfl⟩
  | post => exact ⟨rfl, rfl, id⟩
  | wait => exact ⟨rfl, rfl, id⟩
  | serveLast => exact ⟨rfl, rfl, id⟩
  | stop => exact ⟨rfl, rfl, id⟩
  | grant => exact ⟨rfl, rfl, id⟩
  | report => exact ⟨rfl, rfl, id⟩
  | hold => exact ⟨rfl, rfl, id⟩
  | called => exact ⟨rfl, rfl, id⟩
  | hangUp => exact ⟨rfl, rfl, id⟩
  | take => exact ⟨rfl, rfl, id⟩
  | breakStream => exact ⟨rfl, rfl, id⟩

/-- No two consumers have the same stream, and all streams of consumers were given out. -/
structure Manned (b : Broker) (s : Station) : Prop where
  nodup : (s.relay.consumers.map (·.stream)).Nodup
  lt : ∀ c ∈ s.relay.consumers, c.stream < b.streams.length

lemma Manned.of_sublist {s s' : Station} {b b' : Broker} (h : s.Manned b)
    (hb : b.streams.length ≤ b'.streams.length)
    (hs : (s'.relay.consumers.map (·.stream)).Sublist (s.relay.consumers.map (·.stream))) :
    s'.Manned b' where
  nodup := h.nodup.sublist hs
  lt c hc := by
    obtain ⟨c₀, hc₀, heq⟩ := List.mem_map.1 (hs.subset (List.mem_map_of_mem hc))
    rw [← heq]
    exact Nat.lt_of_lt_of_le (h.lt c₀ hc₀) hb

lemma Manned.startConsumer {s : Station} {b b' : Broker} {session stream : Nat} {queue : String}
    {mode : AckMode} (h : s.Manned b) (hconsume : b.consume session queue mode = (.ok stream, b')) :
    ({ s with relay := (s.relay.startConsumer queue stream b').2.1 } : Station).Manned
      (s.relay.startConsumer queue stream b').2.2 := by
  obtain ⟨rfl, hlt⟩ := Broker.consume_stream hconsume
  unfold Relay.startConsumer
  split
  · refine h.of_sublist ?_ (List.Sublist.refl _)
    rw [Broker.dropStream_eq, Broker.length_modifyStream]
    exact Nat.le_of_lt hlt
  · refine ⟨?_, ?_⟩
    · rw [List.map_append, List.map_singleton, List.nodup_append]
      refine ⟨h.nodup, List.nodup_singleton _, ?_⟩
      rintro i hi j hj rfl
      obtain ⟨c, hc, heq⟩ := List.mem_map.1 hi
      have hold := h.lt c hc
      rw [heq, List.mem_singleton.1 hj] at hold
      exact Nat.lt_irrefl _ hold
    · intro c hc
      rcases List.mem_append.1 hc with hc | hc
      · exact Nat.lt_trans (h.lt c hc) hlt
      · rw [List.mem_singleton.1 hc]
        exact hlt

lemma Act.manned (h : Act link p e p') (hm : p.1.Manned p.2) : p'.1.Manned p'.2 := by
  have hwider := (Desk.Works.wider h.works).1
  cases h with
  | post hc hpoll hoffer => exact hm.of_sublist hwider (List.Sublist.refl _)
  | wait hc hpoll hoffer => exact hm.of_sublist hwider (List.Sublist.refl _)
  | serveLast hc hpoll => exact hm.of_sublist hwider (List.filter_sublist.map _)
  | stop hc => exact hm.of_sublist hwider (List.filter_sublist.map _)
  | grant hg => exact hm.of_sublist hwider (List.Sublist.refl _)
  | report t reason hroom => exact hm.of_sublist hwider (List.Sublist.refl _)
  | hold sender hsender t reason hroom => exact hm.of_sublist hwider (List.Sublist.refl _)
  | called k user text hm' => exact hm.of_sublist hwider (List.Sublist.refl _)
  | hangUp => exact hm.of_sublist hwider (List.Sublist.refl _)
  | take limit => exact hm.of_sublist hwider (List.Sublist.refl _)
  | discard =>
    refine hm.of_sublist hwider ?_
    rw [discardMailbox_eq]
    exact List.filter_sublist.map _
  | breakStream stream =>
    refine hm.of_sublist hwider ?_
    rw [breakStream_streams]
  | listen hconsume => exact hm.startConsumer hconsume
  | markClosed => exact hm.of_sublist hwider (List.Sublist.refl _)
  | finishClose =>
    refine hm.of_sublist hwider ?_
    rw [finishClose_eq]
    exact List.filter_sublist.map _
  | close =>
    refine hm.of_sublist hwider ?_
    unfold Station.close
    split
    · exact List.Sublist.refl _
    · rw [finishClose_eq]
      exact List.filter_sublist.map _

end Station

namespace Exchange

/-! ## An exchange -/

/-- What is written down of the things that happen in an exchange. -/
inductive Happening where
  /-- A node has accepted a message that it is to send. -/
  | asked (node : Nat) (user text : String)
  /-- The loop of a node has begun to publish a message. -/
  | sending (node : Nat) (user text : String)
  /-- Somebody has published a message to a queue. -/
  | published (seat : Seat) (queue user text : String)
  /-- An event has come into a mailbox.  If a consumer has posted it, this is the stream from which it
  had it. -/
  | posted (seat : Seat) (stream : Option Nat) (event : Event)
  /-- A peer has called. -/
  | called (seat : Seat) (user text : String)
  /-- A message was brought to a queue from outside. -/
  | injected (queue : String) (payload : Bytes)
  deriving DecidableEq

/-- What is written down of something that happens at the station of a seat. -/
def Happening.ofEntry (seat : Seat) : Station.Entry → Happening
  | .posted stream event => posted seat stream event
  | .called user text => called seat user text

/-- Whether a message was brought from outside. -/
def Happening.isInjected : Happening → Bool
  | injected .. | called .. => true
  | asked .. | sending .. | published .. | posted .. => false

/-- Whether it only happens when somebody asks for it. -/
def Happening.isPrompted : Happening → Bool
  | asked .. | published (.relay _) .. | injected .. | called .. => true
  | published (.node _) .. | sending .. | posted .. => false

lemma Happening.isPrompted_of_isInjected {h : Happening} (hinjected : h.isInjected = true) :
    h.isPrompted = true := by
  cases h with
  | called => rfl
  | injected => rfl
  | _ => cases hinjected

/-- The broker, of which nobody has a delivery that is not settled. -/
def desk (x : Exchange) : Desk :=
  ⟨x.broker, []⟩

/-- Whether a command brings no message to the broker and gives none to the one who asks. -/
def isClerical : Desk.Command → Bool
  | .connect | .declare .. | .close _ => true
  | .control (.inject ..) => false
  | .control _ => true
  | .consume .. | .publish .. | .next _ | .settle .. | .dropStream _ => false

/-- The exchange in which a station and the broker are in a new state. -/
def place (x : Exchange) (seat : Seat) (s : Station) (b : Broker) : Exchange :=
  ({ x with broker := b } : Exchange).setStation seat s

/-- The exchange in which a node is in a new state. -/
def setNode (x : Exchange) (n : Nat) (node : Node) : Exchange :=
  { x with nodes := x.nodes.set n node }

/-- The exchange in which a node and the broker are in a new state. -/
def withNode (x : Exchange) (n : Nat) (p : Node × Broker) : Exchange :=
  ({ x with broker := p.2 } : Exchange).setNode n p.1

/-- Every node that has a message on its way is on the list of those that have. -/
def Noted (nodes : List Node) (underway : List Nat) : Prop :=
  ∀ ⦃n : Nat⦄ ⦃node : Node⦄, nodes[n]? = some node → node.publication.isSome = true → n ∈ underway

/-- A node that has just come up and whose queue relay has not joined a queue. -/
def newNodeWith (session : Nat) (config : QueueConfig) (transports : List Transport)
    (direct : Option DirectRelay) : Node where
  station := { relay := { session, config }, mailbox := { capacity := Node.maxEvents } }
  direct := direct
  transports := transports

/-- **What can happen in an exchange**, with what is written down of it. -/
inductive Move : Exchange → Option Happening → Exchange → Prop
  /-- Something happens at a station.  The relay of a node is closed when the loop of the node ends, and
  not before. -/
  | station {x : Exchange} {seat : Seat} {s s' : Station} {b : Broker} {e : Option Station.Entry}
      (hs : x.station? seat = some s) (h : Station.Act x.link (s, x.broker) e (s', b))
      (hclosed : ∀ n, seat = .node n → s'.relay.closed = s.relay.closed) :
      Move x (e.map (.ofEntry seat)) (x.place seat s' b)
  /-- A relay publishes a message. -/
  | publish {x : Exchange} {n : Nat} {s : Station} {b : Broker} {queue user text : String}
      {payload : Bytes} (hs : x.station? (.relay n) = some s)
      (hencodes : Envelope.Encodes user text payload)
      (harrive : s.relay.arrive x.link queue payload x.broker = (.ok (), b)) :
      Move x (some (.published (.relay n) queue user text)) { x with broker := b }
  /-- A node accepts a message that it is to send. -/
  | ask {x : Exchange} {n : Nat} {node : Node} (hn : x.nodes[n]? = some node) (user text : String) :
      Move x (some (.asked n user text)) (x.setNode n (node.enqueue (.send user text)))
  /-- The loop of a node takes a message from its commands and begins to publish it. -/
  | send {x : Exchange} {n : Nat} {node : Node} {user text : String} {rest : List NodeCommand}
      {payload : Bytes} (hn : x.nodes[n]? = some node) (hrun : node.canRun = true)
      (hcommands : node.commands = .send user text :: rest)
      (hpayload : node.station.relay.payloadOf user text = .ok payload) (due : Nat) :
      Move x (some (.sending n user text))
        ((x.setNode n { node with commands := rest, publication := some { payload, due } }).noteUnderway n)
  /-- The message of a node arrives. -/
  | arrive {x : Exchange} {n : Nat} {node : Node} {p : Publication} {b : Broker} {user text : String}
      (hn : x.nodes[n]? = some node) (hp : node.publication = some p)
      (hencodes : Envelope.Encodes user text p.payload)
      (harrive : node.station.relay.arrive x.link node.station.relay.config.queueName p.payload
        x.broker = (.ok (), b)) :
      Move x (some (.published (.node n) node.station.relay.config.queueName user text))
        (x.withNode n ({ node with publication := none }, b))
  /-- The loop of a node ends, or will never start.  The direct relay was released before. -/
  | exit {x : Exchange} {n : Nat} {node : Node} (hn : x.nodes[n]? = some node)
      (hphase : node.phase ≠ .exited) (hdirect : node.IsHungUp) :
      Move x none (x.withNode n (node.exit x.link x.broker))
  /-- A node notes something, or gives up a message. -/
  | keep {x : Exchange} {n : Nat} {node node' : Node} (hn : x.nodes[n]? = some node)
      (hstation : node'.station = node.station) (hdirect : node.IsHungUp → node'.IsHungUp)
      (hpublication : node'.publication = node.publication ∨ node'.publication = none)
      (hphase : node'.phase = .exited ↔ node.phase = .exited)
      (hcommands : ∀ user text, .send user text ∈ node'.commands → .send user text ∈ node.commands) :
      Move x none (x.setNode n node')
  /-- A relay with a session comes up. -/
  | enrolRelay {x : Exchange} {session : Nat} (hsession : session < x.broker.sessions.length)
      (config : QueueConfig) (capacity : Nat) :
      Move x none (x.enroll (newcomer session config capacity))
  /-- A node with a session comes up. -/
  | enrolNode {x : Exchange} {session : Nat} (hsession : session < x.broker.sessions.length)
      (config : QueueConfig) (transports : List Transport) (direct : Option DirectRelay) :
      Move x none { x with nodes := x.nodes ++ [newNodeWith session config transports direct] }
  /-- A relay is dropped. -/
  | drop (x : Exchange) (n : Nat) :
      Move x none { x with relays := x.relays.modify n fun m => { m with dropped := true } }
  /-- Something else is done with the broker. -/
  | broker (x : Exchange) (c : Desk.Command) (hc : isClerical c = true) :
      Move x none { x with broker := (x.desk.step c).2.broker }
  /-- A message is brought to a queue from outside. -/
  | inject (x : Exchange) (queue : String) (payload : Bytes) :
      Move x (some (.injected queue payload)) { x with broker := x.broker.route queue payload }
  /-- Time passes, or a message is taken off the list of those on their way. -/
  | tick (x : Exchange) (clock : Nat) {underway : List Nat} (hnoted : Noted x.nodes underway) :
      Move x none { x with clock, underway }

/-- What has happened in an exchange, one thing after the other, with all that was written down. -/
inductive Course (x : Exchange) : List Happening → Exchange → Prop
  | start : Course x [] x
  | step {log : List Happening} {h : Option Happening} {x' x'' : Exchange} (hcourse : Course x log x')
      (hmove : Move x' h x'') : Course x (log ++ h.toList) x''

variable {x x' x'' : Exchange} {seat other : Seat} {s s' : Station} {b : Broker} {n k : Nat}
  {node node' : Node} {h : Option Happening} {log log' : List Happening}

/-! ## Who sits where -/

lemma place_station? (x : Exchange) (seat : Seat) (s : Station) (b : Broker) (other : Seat) :
    (x.place seat s b).station? other =
      (x.station? other).map fun s₀ => if seat = other then s else s₀ := by
  cases seat with
  | relay n =>
    cases other with
    | relay k =>
      simp only [place, setStation, station?, List.getElem?_modify, Option.map_map]
      cases x.relays[k]? with
      | none => rfl
      | some m => by_cases h : n = k <;> simp [h]
    | node k =>
      simp only [place, setStation, station?, Option.map_map]
      cases x.nodes[k]? <;> simp
  | node n =>
    cases other with
    | relay k =>
      simp only [place, setStation, station?, Option.map_map]
      cases x.relays[k]? <;> simp
    | node k =>
      simp only [place, setStation, station?, List.getElem?_modify, Option.map_map]
      cases x.nodes[k]? with
      | none => rfl
      | some m => by_cases h : n = k <;> simp [h]

@[simp] lemma place_broker (x : Exchange) (seat : Seat) (s : Station) (b : Broker) :
    (x.place seat s b).broker = b := by
  cases seat <;> rfl

lemma place_station?_self (hs : x.station? seat = some s) (s' : Station) (b : Broker) :
    (x.place seat s' b).station? seat = some s' := by
  rw [place_station?, hs, Option.map_some, if_pos rfl]

lemma place_station?_cases (h : (x.place seat s b).station? other = some s') :
    (other = seat ∧ s' = s) ∨ x.station? other = some s' := by
  rw [place_station?] at h
  obtain ⟨s₀, hs₀, rfl⟩ := Option.map_eq_some_iff.1 h
  by_cases hseat : seat = other
  · exact Or.inl ⟨hseat.symm, if_pos hseat⟩
  · rw [if_neg hseat]
    exact Or.inr hs₀

lemma place_nodes (x : Exchange) (seat : Seat) (s : Station) (b : Broker) (k : Nat) :
    (x.place seat s b).nodes[k]? =
      x.nodes[k]?.map fun node => if seat = .node k then { node with station := s } else node := by
  cases seat with
  | relay n =>
    simp only [place, setStation]
    cases x.nodes[k]? <;> simp
  | node n =>
    simp only [place, setStation, List.getElem?_modify]
    cases x.nodes[k]? with
    | none => rfl
    | some m => by_cases h : n = k <;> simp [h]

lemma setNode_nodes_self (hn : x.nodes[n]? = some node) (node' : Node) :
    (x.setNode n node').nodes[n]? = some node' :=
  List.getElem?_set_self (List.getElem?_eq_some_iff.1 hn).1

lemma setNode_nodes_cases (h : (x.setNode n node').nodes[k]? = some node) :
    (k = n ∧ node = node') ∨ (k ≠ n ∧ x.nodes[k]? = some node) := by
  rw [setNode, List.getElem?_set] at h
  split at h
  · next hk =>
    split at h
    · cases h
      exact Or.inl ⟨hk.symm, rfl⟩
    · cases h
  · next hk => exact Or.inr ⟨Ne.symm hk, h⟩

lemma withNode_nodes_self (hn : x.nodes[n]? = some node) (p : Node × Broker) :
    (x.withNode n p).nodes[n]? = some p.1 :=
  List.getElem?_set_self (List.getElem?_eq_some_iff.1 hn).1

lemma withNode_station? (hn : x.nodes[n]? = some node) (p : Node × Broker) (seat : Seat) :
    (x.withNode n p).station? seat =
      (x.station? seat).map fun s => if .node n = seat then p.1.station else s := by
  cases seat with
  | relay k =>
    simp only [station?, withNode, setNode, Option.map_map]
    cases x.relays[k]? <;> simp
  | node k =>
    simp only [station?, withNode, setNode, List.getElem?_set, Option.map_map]
    by_cases hk : n = k
    · subst hk
      rw [if_pos rfl, if_pos (List.getElem?_eq_some_iff.1 hn).1, hn]
      simp
    · rw [if_neg hk]
      cases x.nodes[k]? <;> simp [hk]

/-- A node that is at the same station changes no station. -/
lemma withNode_station?_of_eq (hn : x.nodes[n]? = some node) {p : Node × Broker}
    (hs : p.1.station = node.station) : (x.withNode n p).station? = x.station? := by
  funext seat
  rw [withNode_station? hn]
  cases hseat : x.station? seat with
  | none => rfl
  | some s =>
    rw [Option.map_some, Option.some.injEq]
    split
    · next heq =>
      subst heq
      obtain ⟨node', hn', rfl⟩ := Option.map_eq_some_iff.1 hseat
      rw [hn, Option.some.injEq] at hn'
      rw [hs, hn']
    · rfl

lemma setNode_station? (hn : x.nodes[n]? = some node) (hs : node'.station = node.station) :
    (x.setNode n node').station? = x.station? := by
  have h := withNode_station?_of_eq (p := (node', x.broker)) hn hs
  exact h

lemma station?_of_setNode (hn : x.nodes[n]? = some node) (hs : node'.station = node.station)
    (h : (x.setNode n node').station? seat = some s) : x.station? seat = some s := by
  rwa [setNode_station? hn hs] at h

lemma noteUnderway_cases (x : Exchange) (n : Nat) :
    x.noteUnderway n = x ∨ x.noteUnderway n = { x with underway := x.underway ++ [n] } := by
  unfold noteUnderway
  split
  · exact Or.inr rfl
  · exact Or.inl rfl

@[simp] lemma noteUnderway_nodes (x : Exchange) (n : Nat) : (x.noteUnderway n).nodes = x.nodes := by
  rcases noteUnderway_cases x n with h | h <;> rw [h]

@[simp] lemma noteUnderway_broker (x : Exchange) (n : Nat) : (x.noteUnderway n).broker = x.broker := by
  rcases noteUnderway_cases x n with h | h <;> rw [h]

@[simp] lemma noteUnderway_link (x : Exchange) (n : Nat) : (x.noteUnderway n).link = x.link := by
  rcases noteUnderway_cases x n with h | h <;> rw [h]

/-- Who sits where is told by the relays and the nodes. -/
lemma station?_congr (hrelays : x'.relays = x.relays) (hnodes : x'.nodes = x.nodes) : x'.station? = x.station? := by
  funext seat
  cases seat with
  | relay n => rw [station?, station?, hrelays]
  | node n => rw [station?, station?, hnodes]

@[simp] lemma noteUnderway_station? (x : Exchange) (n : Nat) : (x.noteUnderway n).station? = x.station? := by
  rcases noteUnderway_cases x n with h | h
  · rw [h]
  · rw [h]
    exact station?_congr rfl rfl

lemma subset_noteUnderway (x : Exchange) (n : Nat) : x.underway ⊆ (x.noteUnderway n).underway := by
  rcases noteUnderway_cases x n with h | h <;> rw [h]
  · exact List.Subset.refl _
  · exact List.subset_append_left _ _

/-- A node that has a message on its way is on the list after that was noted. -/
lemma mem_noteUnderway (hn : x.nodes[n]? = some node) (hp : node.publication.isSome = true) :
    n ∈ (x.noteUnderway n).underway := by
  unfold noteUnderway
  split
  · exact List.mem_append_right _ (List.mem_singleton.2 rfl)
  · next h => simpa [hn, hp] using h

lemma withBroker_station? (x : Exchange) (b : Broker) :
    ({ x with broker := b } : Exchange).station? = x.station? :=
  station?_congr rfl rfl

/-- A station that nothing has happened at yet. -/
structure Fresh (b : Broker) (s : Station) : Prop where
  session_lt : s.relay.session < b.sessions.length
  consumers : s.relay.consumers = []
  posted : s.mailbox.posted = []
  waiting : s.mailbox.waiting = []
  granted : s.mailbox.granted = []

/-- A station of an exchange to which something has happened: it is as it was, or something has happened
there, or it is a new one. -/
lemma Move.station_cases (hm : Move x h x') (hs' : x'.station? seat = some s') :
    x.station? seat = some s' ∨
      (∃ s e, x.station? seat = some s ∧ Station.Act x.link (s, x.broker) e (s', x'.broker) ∧
        h = e.map (.ofEntry seat)) ∨
      Fresh x'.broker s' := by
  cases hm with
  | station hs hact hclosed =>
    rcases place_station?_cases hs' with ⟨rfl, rfl⟩ | hold
    · exact Or.inr (Or.inl ⟨_, _, hs, by rwa [place_broker], rfl⟩)
    · exact Or.inl hold
  | publish => exact Or.inl (by rwa [withBroker_station?] at hs')
  | ask hn => exact Or.inl (station?_of_setNode hn (by rfl) hs')
  | send hn =>
    rw [noteUnderway_station?] at hs'
    exact Or.inl (station?_of_setNode hn (by rfl) hs')
  | arrive hn =>
    rw [withNode_station?_of_eq hn (by rfl)] at hs'
    exact Or.inl hs'
  | @exit n node hn hphase =>
    cases seat with
    | relay k => exact Or.inl hs'
    | node k =>
      obtain ⟨node', hn', rfl⟩ := Option.map_eq_some_iff.1 hs'
      rcases setNode_nodes_cases hn' with ⟨rfl, rfl⟩ | ⟨-, hold⟩
      · exact Or.inr (Or.inl ⟨_, none, Option.map_eq_some_iff.2 ⟨node, hn, rfl⟩, .close, rfl⟩)
      · exact Or.inl (Option.map_eq_some_iff.2 ⟨node', hold, rfl⟩)
  | keep hn hstation => exact Or.inl (station?_of_setNode hn hstation hs')
  | enrolRelay hsession config capacity =>
    cases seat with
    | node k => exact Or.inl hs'
    | relay k =>
      obtain ⟨m, hm, rfl⟩ := Option.map_eq_some_iff.1 hs'
      rcases enroll_cases hm with hold | ⟨-, -, rfl⟩
      · exact Or.inl (Option.map_eq_some_iff.2 ⟨m, hold, rfl⟩)
      · exact Or.inr (Or.inr ⟨hsession, rfl, rfl, rfl, rfl⟩)
  | enrolNode hsession config transports direct =>
    cases seat with
    | relay k => exact Or.inl hs'
    | node k =>
      obtain ⟨m, hm, rfl⟩ := Option.map_eq_some_iff.1 hs'
      rw [List.getElem?_append] at hm
      split at hm
      · exact Or.inl (Option.map_eq_some_iff.2 ⟨m, hm, rfl⟩)
      · obtain rfl := List.mem_singleton.1 (List.mem_of_getElem? hm)
        exact Or.inr (Or.inr ⟨hsession, rfl, rfl, rfl, rfl⟩)
  | drop n =>
    cases seat with
    | node k => exact Or.inl hs'
    | relay k =>
      left
      obtain ⟨m', hm', rfl⟩ := Option.map_eq_some_iff.1 hs'
      rw [List.getElem?_modify] at hm'
      obtain ⟨m, hm, rfl⟩ := Option.map_eq_some_iff.1 hm'
      refine Option.map_eq_some_iff.2 ⟨m, hm, ?_⟩
      split <;> rfl
  | broker => exact Or.inl (by rwa [withBroker_station?] at hs')
  | inject => exact Or.inl (by rwa [withBroker_station?] at hs')
  | tick clock hnoted =>
    left
    cases seat <;> exact hs'

/-- A message that is on its way was on its way before, or its publication has just begun. -/
lemma Move.publication_cases (hm : Move x h x') {p : Publication} (hn' : x'.nodes[k]? = some node')
    (hp : node'.publication = some p) :
    (∃ node, x.nodes[k]? = some node ∧ node.publication = some p) ∨
      ∃ user text, h = some (.sending k user text) ∧ Envelope.Encodes user text p.payload := by
  cases hm with
  | station hs hact hclosed =>
    rw [place_nodes] at hn'
    obtain ⟨node, hn, rfl⟩ := Option.map_eq_some_iff.1 hn'
    refine Or.inl ⟨node, hn, ?_⟩
    rw [← hp]
    split <;> rfl
  | publish => exact Or.inl ⟨node', hn', hp⟩
  | ask hn =>
    rcases setNode_nodes_cases hn' with ⟨rfl, rfl⟩ | ⟨-, hold⟩
    · exact Or.inl ⟨_, hn, hp⟩
    · exact Or.inl ⟨node', hold, hp⟩
  | send hn hrun hcommands hpayload due =>
    rw [noteUnderway_nodes] at hn'
    rcases setNode_nodes_cases hn' with ⟨rfl, rfl⟩ | ⟨-, hold⟩
    · cases hp
      exact Or.inr ⟨_, _, rfl, Relay.encodes_of_payloadOf hpayload⟩
    · exact Or.inl ⟨node', hold, hp⟩
  | arrive hn =>
    rcases setNode_nodes_cases hn' with ⟨rfl, rfl⟩ | ⟨-, hold⟩
    · cases hp
    · exact Or.inl ⟨node', hold, hp⟩
  | exit hn =>
    rcases setNode_nodes_cases hn' with ⟨rfl, rfl⟩ | ⟨-, hold⟩
    · exact Or.inl ⟨_, hn, hp⟩
    · exact Or.inl ⟨node', hold, hp⟩
  | keep hn hstation hdirect hpublication =>
    rcases setNode_nodes_cases hn' with ⟨rfl, rfl⟩ | ⟨-, hold⟩
    · rcases hpublication with heq | heq
      · exact Or.inl ⟨_, hn, heq ▸ hp⟩
      · rw [heq] at hp
        cases hp
    · exact Or.inl ⟨node', hold, hp⟩
  | enrolRelay => exact Or.inl ⟨node', hn', hp⟩
  | enrolNode hsession config transports direct =>
    rw [List.getElem?_append] at hn'
    split at hn'
    · exact Or.inl ⟨node', hn', hp⟩
    · rw [List.mem_singleton.1 (List.mem_of_getElem? hn')] at hp
      cases hp
  | drop n => exact Or.inl ⟨node', hn', hp⟩
  | broker => exact Or.inl ⟨node', hn', hp⟩
  | inject => exact Or.inl ⟨node', hn', hp⟩
  | tick => exact Or.inl ⟨node', hn', hp⟩

/-! ## What courses keep -/

/-- A message is brought to a queue: one that was published, or one from outside. -/
def Brings (h : Option Happening) (queue : String) (payload : Bytes) : Prop :=
  h = some (.injected queue payload) ∨
    ∃ seat user text, h = some (.published seat queue user text) ∧ Envelope.Encodes user text payload

/-- What is asked of the broker when something happens: what a station asks, or that a message be brought
to a queue. -/
def Asks (x : Exchange) (h : Option Happening) (c : Desk.Command) : Prop :=
  Station.Asks x.broker c ∨ ∃ queue payload, c = .control (.inject queue payload) ∧ Brings h queue payload

lemma works_arrive {ok : Desk.Command → Prop} {r : Relay} {link : Link} {queue : String} {payload : Bytes}
    {b b' : Broker} (h : r.arrive link queue payload b = (.ok (), b'))
    (hok : ok (.control (.inject queue payload))) : Desk.Works ok ⟨b, []⟩ ⟨b', []⟩ := by
  rcases arrive_cases link r queue payload b with ⟨e, heq⟩ | heq
  · rw [heq] at h
    cases h
  · rw [heq] at h
    cases h
    exact Desk.works_command (.control (.inject queue payload)) hok

lemma deliveries_of_isClerical (desk : Desk) {c : Desk.Command} (hc : isClerical c = true) :
    (desk.step c).2.deliveries = desk.deliveries := by
  cases c with
  | connect => simp only [Desk.step]; split <;> rfl
  | declare session queue => rfl
  | close session => rfl
  | control c => rfl
  | consume => cases hc
  | publish => cases hc
  | next => cases hc
  | settle => cases hc
  | dropStream => cases hc

lemma asks_of_isClerical (b : Broker) {c : Desk.Command} (hc : isClerical c = true) : Station.Asks b c := by
  cases c with
  | control c =>
    cases c with
    | inject queue payload => cases hc
    | stats => trivial
    | openSessions => trivial
    | refuseConnects => trivial
    | refuseChannel => trivial
  | connect => trivial
  | declare => trivial
  | close => trivial
  | consume => trivial
  | next => trivial
  | dropStream => trivial
  | publish => cases hc
  | settle => cases hc

/-- Whatever happens, the broker is used as any client can use it. -/
lemma Move.works (hm : Move x h x') : Desk.Works (Asks x h) x.desk x'.desk := by
  cases hm with
  | station hs hact hclosed =>
    rw [desk, desk, place_broker]
    exact Desk.Works.mono hact.works fun c => Or.inl
  | publish hs hencodes harrive =>
    exact works_arrive harrive (Or.inr ⟨_, _, rfl, Or.inr ⟨_, _, _, rfl, hencodes⟩⟩)
  | ask => exact .refl
  | send =>
    rw [desk, desk, noteUnderway_broker]
    exact .refl
  | arrive hn hp hencodes harrive =>
    exact works_arrive harrive (Or.inr ⟨_, _, rfl, Or.inr ⟨_, _, _, rfl, hencodes⟩⟩)
  | @exit n node hn hphase =>
    have hact : Station.Act x.link (node.station, x.broker) none (node.station.close x.link x.broker).2 :=
      .close
    exact Desk.Works.mono hact.works fun c => Or.inl
  | keep => exact .refl
  | enrolRelay => exact .refl
  | enrolNode => exact .refl
  | drop => exact .refl
  | broker c hc =>
    have hnil : (x.desk.step c).2.deliveries = [] := deliveries_of_isClerical x.desk hc
    have hdesk : (x.desk.step c).2 = ⟨(x.desk.step c).2.broker, []⟩ := by rw [← hnil]
    have hworks : Desk.Works (Asks x none) x.desk (x.desk.step c).2 :=
      Desk.works_command c (Or.inl (asks_of_isClerical _ hc))
    rw [hdesk] at hworks
    exact hworks
  | inject queue payload =>
    exact Desk.works_command (.control (.inject queue payload)) (Or.inr ⟨_, _, rfl, Or.inl rfl⟩)
  | tick => exact .refl

lemma Move.link_eq (hm : Move x h x') : x'.link = x.link := by
  cases hm with
  | @station seat _ _ _ _ hs hact hclosed => cases seat <;> rfl
  | publish => rfl
  | ask => rfl
  | send => rw [noteUnderway_link]; rfl
  | arrive => rfl
  | exit => rfl
  | keep => rfl
  | enrolRelay => rfl
  | enrolNode => rfl
  | drop => rfl
  | broker => rfl
  | inject => rfl
  | tick => rfl

/-- Whoever has a seat keeps it, with the same session and the same settings. -/
structure Seated (x x' : Exchange) : Prop where
  station : ∀ {seat : Seat} {s : Station}, x.station? seat = some s → ∃ s', x'.station? seat = some s' ∧
    s'.relay.session = s.relay.session ∧ s'.relay.config = s.relay.config ∧
    (s.relay.closed = true → s'.relay.closed = true)

lemma Seated.of_eq (h : x'.station? = x.station?) : Seated x x' :=
  ⟨fun {_ s} hs => ⟨s, by rwa [h], rfl, rfl, id⟩⟩

lemma Seated.trans (h : Seated x x') (h' : Seated x' x'') : Seated x x'' where
  station hs := by
    obtain ⟨s₁, hs₁, hsession₁, hconfig₁, hclosed₁⟩ := h.station hs
    obtain ⟨s₂, hs₂, hsession₂, hconfig₂, hclosed₂⟩ := h'.station hs₁
    exact ⟨s₂, hs₂, hsession₂.trans hsession₁, hconfig₂.trans hconfig₁, fun hc => hclosed₂ (hclosed₁ hc)⟩

lemma seated_of_act {e : Option Station.Entry} (hs : x.station? seat = some s)
    (hact : Station.Act x.link (s, x.broker) e (s', b))
    (hx' : ∀ other, x'.station? other = (x.station? other).map fun s₀ => if seat = other then s' else s₀) :
    Seated x x' where
  station {other s₀} hs₀ := by
    rw [hx', hs₀, Option.map_some]
    by_cases hseat : seat = other
    · subst hseat
      rw [hs, Option.some.injEq] at hs₀
      subst hs₀
      rw [if_pos rfl]
      exact ⟨s', rfl, hact.same⟩
    · rw [if_neg hseat]
      exact ⟨s₀, rfl, rfl, rfl, id⟩

lemma Move.seated (hm : Move x h x') : Seated x x' := by
  cases hm with
  | station hs hact hclosed => exact seated_of_act hs hact (place_station? x _ _ _)
  | publish => exact .of_eq (withBroker_station? x _)
  | ask hn => exact .of_eq (setNode_station? hn (by rfl))
  | send hn =>
    refine .of_eq ?_
    rw [noteUnderway_station?, setNode_station? hn (by rfl)]
  | arrive hn => exact .of_eq (withNode_station?_of_eq hn (by rfl))
  | @exit n node hn hphase =>
    have hs : x.station? (.node n) = some node.station := Option.map_eq_some_iff.2 ⟨node, hn, rfl⟩
    have hact : Station.Act x.link (node.station, x.broker) none (node.station.close x.link x.broker).2 :=
      .close
    exact seated_of_act hs hact (withNode_station? hn _)
  | keep hn hstation => exact .of_eq (setNode_station? hn hstation)
  | enrolRelay hsession config capacity =>
    refine ⟨fun {seat s} hs => ⟨s, ?_, rfl, rfl, id⟩⟩
    cases seat with
    | node k => exact hs
    | relay k =>
      obtain ⟨m, hm, rfl⟩ := Option.map_eq_some_iff.1 hs
      exact Option.map_eq_some_iff.2 ⟨m, enroll_of_some hm, rfl⟩
  | enrolNode hsession config transports direct =>
    refine ⟨fun {seat s} hs => ⟨s, ?_, rfl, rfl, id⟩⟩
    cases seat with
    | relay k => exact hs
    | node k =>
      obtain ⟨m, hm, rfl⟩ := Option.map_eq_some_iff.1 hs
      refine Option.map_eq_some_iff.2 ⟨m, ?_, rfl⟩
      rw [List.getElem?_append_left (List.getElem?_eq_some_iff.1 hm).1, hm]
  | drop n =>
    refine .of_eq ?_
    funext seat
    cases seat with
    | node k => rfl
    | relay k =>
      simp only [station?, List.getElem?_modify]
      cases x.relays[k]? with
      | none => rfl
      | some m => by_cases hk : n = k <;> simp [hk]
  | broker => exact .of_eq (withBroker_station? x _)
  | inject => exact .of_eq (withBroker_station? x _)
  | tick clock hnoted => exact .of_eq (station?_congr rfl rfl)

/-- A message that is on its way is on the list of those that are. -/
lemma Move.noted (hm : Move x h x') (hx : Noted x.nodes x.underway) : Noted x'.nodes x'.underway := by
  have hset : ∀ {n : Nat} {node : Node} {node' : Node}, x.nodes[n]? = some node →
      (node'.publication.isSome = true → node.publication.isSome = true) →
      Noted (x.nodes.set n node') x.underway := by
    intro n node node' hn hpublication k node'' hn' hp
    rcases setNode_nodes_cases hn' with ⟨rfl, rfl⟩ | ⟨-, hold⟩
    · exact hx hn (hpublication hp)
    · exact hx hold hp
  cases hm with
  | @station seat _ _ _ _ hs hact hclosed =>
    intro k node' hn' hp
    rw [place_nodes] at hn'
    obtain ⟨node, hn, rfl⟩ := Option.map_eq_some_iff.1 hn'
    have hmem : k ∈ x.underway := hx hn (by split at hp <;> exact hp)
    cases seat <;> exact hmem
  | publish => exact hx
  | ask hn => exact hset hn id
  | send hn hrun hcommands hpayload due =>
    intro k node' hn' hp
    rw [noteUnderway_nodes] at hn'
    rcases setNode_nodes_cases hn' with ⟨rfl, rfl⟩ | ⟨-, hold⟩
    · exact mem_noteUnderway hn' hp
    · exact subset_noteUnderway _ _ (hx hold hp)
  | arrive hn => exact hset hn (by simp)
  | exit hn => exact hset hn id
  | keep hn hstation hdirect hpublication =>
    refine hset hn fun hp => ?_
    rcases hpublication with heq | heq
    · rwa [heq] at hp
    · rw [heq] at hp
      cases hp
  | enrolRelay => exact hx
  | enrolNode hsession config transports direct =>
    intro k node' hn' hp
    rw [List.getElem?_append] at hn'
    split at hn'
    · exact hx hn' hp
    · rw [List.mem_singleton.1 (List.mem_of_getElem? hn')] at hp
      cases hp
  | drop => exact hx
  | broker => exact hx
  | inject => exact hx
  | tick clock hnoted => exact hnoted

/-- No two consumers of a station have the same stream; and every message that is on its way is the wire
form of something, and is on the list of those on their way. -/
structure Shipshape (x : Exchange) : Prop where
  manned : ∀ {seat : Seat} {s : Station}, x.station? seat = some s → s.Manned x.broker
  encodes : ∀ {n : Nat} {node : Node} {p : Publication}, x.nodes[n]? = some node →
    node.publication = some p → ∃ user text, Envelope.Encodes user text p.payload
  noted : Noted x.nodes x.underway

lemma Shipshape.move (hx : x.Shipshape) (hm : Move x h x') : x'.Shipshape where
  manned hs' := by
    rcases hm.station_cases hs' with hs | ⟨s, e, hs, hact, -⟩ | hfresh
    · exact (hx.manned hs).of_sublist (Desk.Works.wider hm.works).1 (List.Sublist.refl _)
    · exact hact.manned (hx.manned hs)
    · exact ⟨by rw [hfresh.consumers]; exact List.nodup_nil,
        fun c hc => by rw [hfresh.consumers] at hc; cases hc⟩
  encodes hn' hp := by
    rcases hm.publication_cases hn' hp with ⟨node, hn, hp⟩ | ⟨user, text, -, hencodes⟩
    · exact hx.encodes hn hp
    · exact ⟨user, text, hencodes⟩
  noted := hm.noted hx.noted

/-- Where nobody has come to, everything is in order. -/
lemma shipshape_of_vacant (hrelays : x.relays = []) (hnodes : x.nodes = []) : x.Shipshape where
  manned {seat s} hs := by cases seat <;> simp [station?, hrelays, hnodes] at hs
  encodes hn := by simp [hnodes] at hn
  noted _ _ hn := by simp [hnodes] at hn

lemma shipshape_empty (link : Link) : ({ link } : Exchange).Shipshape :=
  shipshape_of_vacant rfl rfl

lemma Course.trans (h₁ : Course x log x') (h₂ : Course x' log' x'') : Course x (log ++ log') x'' := by
  induction h₂ with
  | start => rwa [List.append_nil]
  | step _ hmove ih =>
    rw [← List.append_assoc]
    exact .step ih hmove

lemma Course.shipshape (hc : Course x log x') (hx : x.Shipshape) : x'.Shipshape := by
  induction hc with
  | start => exact hx
  | step _ hmove ih => exact ih.move hmove

lemma Course.works (hc : Course x log x') : Desk.Works (fun _ => True) x.desk x'.desk := by
  induction hc with
  | start => exact .refl
  | step _ hmove ih => exact ih.trans (Desk.Works.mono hmove.works fun _ _ => trivial)

lemma Course.seated (hc : Course x log x') : Seated x x' := by
  induction hc with
  | start => exact .of_eq rfl
  | step _ hmove ih => exact ih.trans hmove.seated

lemma Course.link_eq (hc : Course x log x') : x'.link = x.link := by
  induction hc with
  | start => rfl
  | step _ hmove ih => rw [hmove.link_eq, ih]

/-- `x` becomes `x'` in some course, in which all that somebody has to ask for is of a certain kind. -/
def OnwardsBy (ok : Happening → Prop) (x x' : Exchange) : Prop :=
  ∃ log, Course x log x' ∧ ∀ h ∈ log, h.isPrompted = true → ok h

/-- `x` becomes `x'` in some course, in which nothing happens that somebody has to ask for. -/
abbrev Onwards (x x' : Exchange) : Prop :=
  OnwardsBy (fun _ => False) x x'

namespace OnwardsBy

variable {ok ok' : Happening → Prop}

lemma refl (x : Exchange) : OnwardsBy ok x x :=
  ⟨[], .start, fun _ hmem => by cases hmem⟩

lemma trans (h₁ : OnwardsBy ok x x') (h₂ : OnwardsBy ok x' x'') : OnwardsBy ok x x'' := by
  obtain ⟨log₁, hc₁, hlog₁⟩ := h₁
  obtain ⟨log₂, hc₂, hlog₂⟩ := h₂
  refine ⟨log₁ ++ log₂, hc₁.trans hc₂, fun h hmem => ?_⟩
  rcases List.mem_append.1 hmem with hmem | hmem
  · exact hlog₁ h hmem
  · exact hlog₂ h hmem

lemma mono (ho : OnwardsBy ok x x') (hok : ∀ h, ok h → ok' h) : OnwardsBy ok' x x' := by
  obtain ⟨log, hc, hlog⟩ := ho
  exact ⟨log, hc, fun h hmem hprompted => hok h (hlog h hmem hprompted)⟩

/-- What happens by itself may also happen when something is asked for. -/
lemma weaken (ho : Onwards x x') : OnwardsBy ok x x' :=
  ho.mono fun _ => False.elim

lemma of_move (hm : Move x h x') (hh : ∀ e, h = some e → e.isPrompted = true → ok e) :
    OnwardsBy ok x x' := by
  refine ⟨[] ++ h.toList, .step .start hm, fun e hmem => ?_⟩
  rw [List.nil_append, Option.mem_toList] at hmem
  exact hh e hmem

lemma shipshape (ho : OnwardsBy ok x x') (hx : x.Shipshape) : x'.Shipshape := by
  obtain ⟨log, hc, -⟩ := ho
  exact hc.shipshape hx

lemma link_eq (ho : OnwardsBy ok x x') : x'.link = x.link := by
  obtain ⟨log, hc, -⟩ := ho
  exact hc.link_eq

lemma seated (ho : OnwardsBy ok x x') : Seated x x' := by
  obtain ⟨log, hc, -⟩ := ho
  exact hc.seated

lemma sessions_le (ho : OnwardsBy ok x x') : x.broker.sessions.length ≤ x'.broker.sessions.length := by
  obtain ⟨log, hc, -⟩ := ho
  exact (Desk.Works.wider hc.works).2

end OnwardsBy

/-- A move of which nothing is written down. -/
lemma Move.onwards (hm : Move x none x') : Onwards x x' :=
  .of_move hm fun _ he => by cases he

end Exchange

end MessageRelay
