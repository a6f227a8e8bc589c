import MessageRelay.Proofs.Exchange.Provenance
import MessageRelay.Proofs.Exchange.Stride

/-!
# The diary of an exchange

A diary says what has been done in an exchange, one deed after the other.  Unlike a course it leaves nothing
open.  It has an entry for every message that a node is asked to send and one for what became of it, and it
says at every moment which sessions belong to nobody at a seat: those of relays that are just coming up, and
those of relays that count as closed and have not let go of their session yet.

Every run of commands has a diary (`run_proceeds`), and in it the nodes are asked to send just what the
commands ask them to.
-/

namespace MessageRelay

/-- What became of a message that a node was asked to send. -/
inductive Fate where
  /-- It was published to the queue of the node. -/
  | published
  /-- It could not be sent, and there was a place in the mailbox for the event that says so. -/
  | reported
  /-- It could not be sent, and there was no place in the mailbox. -/
  | unreported
  /-- It was among the commands when the loop ended. -/
  | forgotten
  deriving DecidableEq

/-- What is written down about a node. -/
inductive Entry where
  /-- The node comes up. -/
  | enrolled
  /-- The node is asked to send a message. -/
  | asked (user text : String)
  /-- It is known what became of a message. -/
  | settled (user text : String) (fate : Fate)
  /-- The user takes events from the mailbox. -/
  | emptied
  deriving DecidableEq

/-- Whether something is only done when somebody asks for it. -/
def Entry.isPrompt : Entry → Bool
  | enrolled | asked .. | emptied => true
  | settled .. => false

/-- What becomes of a message that cannot be sent. -/
def Mailbox.reportFate (m : Mailbox) : Fate :=
  if m.kept && decide (0 < m.room) then .reported else .unreported

/-! ## Nodes -/

namespace NodeCommand

/-- What is written down when a node accepts a command. -/
def entries : NodeCommand → List Entry
  | .send user text => [.asked user text]
  | .status | .shutdown => []

end NodeCommand

lemma NodeCommand.of_mem_entries {c : NodeCommand} {e : Entry} (h : e ∈ c.entries) :
    ∃ user text, c = .send user text ∧ e = .asked user text := by
  cases c with
  | send user text => exact ⟨user, text, rfl, List.mem_singleton.1 h⟩
  | status | shutdown => cases h

/-- What is written down of calls that are made of a node, given which of the requests it accepts. -/
def NodeCall.entries : List NodeCall → List Bool → List Entry
  | [], _ => []
  | .send user text :: rest, accepted => .asked user text :: entries rest accepted
  | .request c :: rest, accepted =>
    (if accepted.headD false then c.entries else []) ++ entries rest accepted.tail

lemma NodeCall.of_mem_entries {calls : List NodeCall} {accepted : List Bool} {e : Entry}
    (h : e ∈ entries calls accepted) :
    ∃ call ∈ calls, ∃ user text, call.command = .send user text ∧ e = .asked user text := by
  induction calls generalizing accepted with
  | nil => cases h
  | cons call rest ih =>
    have hlater : ∀ {accepted}, e ∈ entries rest accepted → _ := fun hrest =>
      (ih hrest).imp fun _ hcall => hcall.imp_left (List.mem_cons_of_mem call)
    cases call with
    | send user text =>
      rcases List.mem_cons.1 h with rfl | hrest
      · exact ⟨_, List.mem_cons_self, user, text, rfl, rfl⟩
      · exact hlater hrest
    | request c =>
      rcases List.mem_append.1 h with hfirst | hrest
      · split at hfirst
        · exact ⟨_, List.mem_cons_self, NodeCommand.of_mem_entries hfirst⟩
        · cases hfirst
      · exact hlater hrest

namespace Node

/-- The messages that wait for the loop. -/
def messages (node : Node) : List (String × String) :=
  node.commands.filterMap NodeCommand.message?

/-- What a node does, with what is written down of it. -/
inductive Doing (link : Link) (b : Broker) : Node → List Entry → Node → Broker → Prop
  /-- It accepts a command. -/
  | accept {node : Node} (hphase : node.phase ≠ .exited) (c : NodeCommand) :
      Doing link b node c.entries (node.enqueue c) b
  /-- It does not accept a message. -/
  | refuse {node : Node} (user text reason : String) :
      Doing link b node [.asked user text, .settled user text node.station.mailbox.reportFate]
        (node.reportRefused reason) b
  /-- The loop takes a message that may not be sent. -/
  | fail {node : Node} {user text : String} {rest : List NodeCommand} {e : RelayError}
      (hrun : node.canRun = true) (hcommands : node.commands = .send user text :: rest)
      (hpayload : node.station.relay.payloadOf user text = .error e) :
      Doing link b node [.settled user text node.station.mailbox.reportFate]
        ((({ node with commands := rest } : Node).count user text).conclude (.error e)) b
  /-- The loop takes a message, which is now on its way. -/
  | begin {node : Node} {user text : String} {rest : List NodeCommand} {payload : Bytes}
      (hrun : node.canRun = true) (hcommands : node.commands = .send user text :: rest)
      (hpayload : node.station.relay.payloadOf user text = .ok payload) (due : Nat) :
      Doing link b node [] ((({ node with commands := rest } : Node).count user text).sending { payload, due }) b
  /-- The message that is on its way arrives. -/
  | land {node : Node} {b' : Broker} {p : Publication} {user text : String}
      (hp : node.publication = some p) (hencodes : Envelope.Encodes user text p.payload)
      (harrive : node.station.relay.arrive link node.station.relay.config.queueName p.payload b =
        (.ok (), b')) :
      Doing link b node [.settled user text .published] { node with publication := none } b'
  /-- The message that is on its way is given up. -/
  | giveUp {node : Node} {p : Publication} {user text : String} {e : RelayError}
      (hp : node.publication = some p) (hencodes : Envelope.Encodes user text p.payload)
      (harrive : node.station.relay.arrive link node.station.relay.config.queueName p.payload b =
        (.error e, b)) :
      Doing link b node [.settled user text node.station.mailbox.reportFate]
        (({ node with publication := none } : Node).conclude (.error e)) b
  /-- Something happens at its direct relay. -/
  | direct {node node' : Node} {call : Option (String × String)} (h : node.DirectTurn call node') :
      Doing link b node [] node' b
  /-- The direct relay was released, and the loop ends, or will never start. -/
  | exit {node : Node} (h : node.phase = .unstarted ∨ node.canRun = true) (hdirect : node.IsHungUp) :
      Doing link b node (node.messages.map fun m => .settled m.1 m.2 .forgotten)
        (node.exit link b).1 (node.exit link b).2
  /-- It notes something else. -/
  | note {node node' : Node} (hstation : node'.station = node.station) (hdirect : node'.direct = node.direct)
      (hpublication : node'.publication = node.publication) (hmessages : node'.messages = node.messages)
      (htransports : node'.transports = node.transports)
      (hphase : node'.phase = node.phase ∨ node.phase = .unstarted ∧ node'.phase = .running) :
      Doing link b node [] node' b

end Node

/-- What is written down when events are taken from the mailbox at a seat. -/
def Seat.emptied : Seat → List (Nat × Entry)
  | relay _ => []
  | node n => [(n, .emptied)]

namespace Exchange

variable {x x' x'' : Exchange} {seat : Seat} {s : Station} {b : Broker} {n : Nat} {node node' : Node}

/-! ## Deeds -/

/-- The sessions that belong to nobody at a seat. -/
structure Doorway where
  /-- Those of relays that are coming up. -/
  arriving : List Nat := []
  /-- Those of relays that count as closed. -/
  leaving : List Nat := []

namespace Doorway

/-- A session is opened for a relay that is to come up. -/
def welcome (d : Doorway) (session : Nat) : Doorway :=
  { d with arriving := session :: d.arriving }

/-- The relay with this session has come up, or will not. -/
def pass (d : Doorway) (session : Nat) : Doorway :=
  { d with arriving := d.arriving.filter (· != session) }

/-- The relay with this session counts as closed. -/
def retire (d : Doorway) (session : Nat) : Doorway :=
  { d with leaving := session :: d.leaving }

/-- The relay with this session has let go of it. -/
def leave (d : Doorway) (session : Nat) : Doorway :=
  { d with leaving := d.leaving.filter (· != session) }

lemma pass_welcome (session : Nat) : (({} : Doorway).welcome session).pass session = {} := by
  simp [welcome, pass]

lemma leave_retire {d : Doorway} {session : Nat} (h : session ∉ d.leaving) :
    (d.retire session).leave session = d := by
  have hkept : d.leaving.filter (· != session) = d.leaving := by
    rw [List.filter_eq_self]
    intro other hmem
    rw [bne_iff_ne]
    exact ne_of_mem_of_not_mem hmem h
  simp [retire, leave, hkept]

end Doorway

/-- **What is done in an exchange**, with what is written down of it and what becomes of the sessions that
belong to nobody at a seat. -/
inductive Deed : Doorway → Exchange → List (Nat × Entry) → Doorway → Exchange → Prop
  /-- A consumer does something. -/
  | turn {d : Doorway} {x : Exchange} {seat : Seat} {s s' : Station} {b : Broker}
      (hs : x.station? seat = some s) (h : Station.Turn (s, x.broker) (s', b)) :
      Deed d x [] d (x.place seat s' b)
  /-- Somebody who was given a place uses it. -/
  | grant {d : Doorway} {x : Exchange} {seat : Seat} {s : Station} {sender : Sender} {event : Event}
      {rest : List (Sender × Event)} (hs : x.station? seat = some s)
      (h : s.mailbox.granted = (sender, event) :: rest) :
      Deed d x [] d (x.place seat { s with
        mailbox := ({ s.mailbox with granted := rest } : Mailbox).put event } x.broker)
  /-- Time passes, or it is noted which messages are on their way. -/
  | tick (d : Doorway) (x : Exchange) (clock : Nat) (underway : List Nat) :
      Deed d x [] d { x with clock, underway }
  /-- A node does something. -/
  | node {d : Doorway} {x : Exchange} {n : Nat} {node node' : Node} {b : Broker} {entries : List Entry}
      (hn : x.nodes[n]? = some node) (h : Node.Doing x.link x.broker node entries node' b) :
      Deed d x (entries.map fun e => (n, e)) d (x.withNode n (node', b))
  /-- The user takes events. -/
  | take {d : Doorway} {x : Exchange} {seat : Seat} {s : Station} (hs : x.station? seat = some s)
      (limit : Option Nat) :
      Deed d x seat.emptied d (x.place seat { s with mailbox := (s.mailbox.take limit).2 } x.broker)
  /-- The user throws a mailbox away. -/
  | discard {d : Doorway} {x : Exchange} {seat : Seat} {s : Station} (hs : x.station? seat = some s) :
      Deed d x [] d (x.place seat (s.discardMailbox x.broker).1 (s.discardMailbox x.broker).2)
  /-- A stream breaks. -/
  | breakStream {d : Doorway} {x : Exchange} {seat : Seat} {s : Station} (hs : x.station? seat = some s)
      (stream : Nat) : Deed d x [] d (x.place seat (s.breakStream stream) x.broker)
  /-- A relay that is not closed gets a stream, and a consumer starts on it. -/
  | listen {d : Doorway} {x : Exchange} {seat : Seat} {s : Station} {b : Broker} {queue : String}
      {stream : Nat} (hs : x.station? seat = some s) (hclosed : s.relay.closed = false)
      (hnew : s.relay.hasJoined queue = false)
      (h : x.broker.consume s.relay.session queue s.relay.config.ackMode = (.ok stream, b)) :
      Deed d x [] d (x.place seat { s with relay := s.relay.withConsumer queue stream } b)
  /-- A relay that is closed gets a stream, which it does not want any more. -/
  | decline {d : Doorway} {x : Exchange} {session stream : Nat} {queue : String} {mode : AckMode}
      {b : Broker} (h : x.broker.consume session queue mode = (.ok stream, b)) :
      Deed d x [] d { x with broker := b.dropStream stream }
  /-- A relay is marked as closed. -/
  | retire {d : Doorway} {x : Exchange} {n : Nat} {s : Station} (hs : x.station? (.relay n) = some s)
      (hclosed : s.relay.closed = false) :
      Deed d x [] (d.retire s.relay.session) (x.place (.relay n) s.markClosed x.broker)
  /-- A relay that is closed stops its consumers and ends its session. -/
  | leave {d : Doorway} {x : Exchange} {n : Nat} {s : Station} (hs : x.station? (.relay n) = some s)
      (hclosed : s.relay.closed = true) (hmem : s.relay.session ∈ d.leaving) :
      Deed d x [] (d.leave s.relay.session) (x.place (.relay n) (s.finishClose x.link x.broker).2.1
        (s.finishClose x.link x.broker).2.2)
  /-- A relay that is closed is dropped. -/
  | drop {d : Doorway} {x : Exchange} {n : Nat}
      (h : ∀ m, x.relays[n]? = some m → m.station.relay.closed = true) :
      Deed d x [] d { x with relays := x.relays.modify n fun m => { m with dropped := true } }
  /-- Something is done with the broker by which no session begins or ends. -/
  | office {d : Doorway} {x : Exchange} (c : Desk.Command)
      (hc : c = .connect ∨ (∃ session queue, c = .declare session queue) ∨ ∃ c', c = .control c')
      (hsessions : (x.desk.step c).2.broker.sessions = x.broker.sessions) :
      Deed d x [] d { x with broker := (x.desk.step c).2.broker }
  /-- A session is opened. -/
  | welcome {d : Doorway} {x : Exchange} {session : Nat} {b : Broker}
      (h : x.broker.connect = (.ok session, b)) : Deed d x [] (d.welcome session) { x with broker := b }
  /-- A relay comes up. -/
  | enrolRelay {d : Doorway} {x : Exchange} {session : Nat} (hmem : session ∈ d.arriving)
      (config : QueueConfig) (capacity : Nat) :
      Deed d x [] (d.pass session) (x.enroll (newcomer session config capacity))
  /-- A node comes up. -/
  | enrolNode {d : Doorway} {x : Exchange} {session : Nat} (hmem : session ∈ d.arriving)
      (config : QueueConfig) (transports : List Transport) (direct : Option DirectRelay) :
      Deed d x [(x.nodes.length, .enrolled)] (d.pass session)
        { x with nodes := x.nodes ++ [newNodeWith session config transports direct] }
  /-- A session is ended whose relay does not come up. -/
  | dismiss {d : Doorway} {x : Exchange} {session : Nat} (hmem : session ∈ d.arriving) :
      Deed d x [] (d.pass session) { x with broker := x.broker.close session }

/-- What has been done in an exchange, one deed after the other. -/
inductive Diary (d : Doorway) (x : Exchange) : List (Nat × Entry) → Doorway → Exchange → Prop
  | start : Diary d x [] d x
  | step {log entries : List (Nat × Entry)} {d' d'' : Doorway} {x' x'' : Exchange}
      (hdiary : Diary d x log d' x') (hdeed : Deed d' x' entries d'' x'') :
      Diary d x (log ++ entries) d'' x''

variable {d d' d'' : Doorway} {log log' : List (Nat × Entry)}

lemma Diary.trans (h : Diary d x log d' x') (h' : Diary d' x' log' d'' x'') :
    Diary d x (log ++ log') d'' x'' := by
  induction h' with
  | start => rwa [List.append_nil]
  | step _ hdeed ih =>
    rw [← List.append_assoc]
    exact .step ih hdeed

/-- What a diary says that somebody has asked for. -/
def prompted (log : List (Nat × Entry)) : List (Nat × Entry) :=
  log.filter fun e => e.2.isPrompt

/-- `x` becomes `x'` by deeds of which the given ones are asked for. -/
def Proceeds (prompts : List (Nat × Entry)) (d : Doorway) (x : Exchange) (d' : Doorway)
    (x' : Exchange) : Prop :=
  ∃ log, Diary d x log d' x' ∧ prompted log = prompts

namespace Proceeds

variable {prompts prompts' : List (Nat × Entry)}

lemma refl (d : Doorway) (x : Exchange) : Proceeds [] d x d x :=
  ⟨[], .start, rfl⟩

lemma trans (h : Proceeds prompts d x d' x') (h' : Proceeds prompts' d' x' d'' x'') :
    Proceeds (prompts ++ prompts') d x d'' x'' := by
  obtain ⟨log, hdiary, rfl⟩ := h
  obtain ⟨log', hdiary', rfl⟩ := h'
  exact ⟨log ++ log', hdiary.trans hdiary', List.filter_append ..⟩

/-- What is done by itself comes after what was asked for. -/
lemma next (h : Proceeds prompts d x d' x') (h' : Proceeds [] d' x' d'' x'') :
    Proceeds prompts d x d'' x'' := by
  have h'' := h.trans h'
  rwa [List.append_nil] at h''

lemma single {entries : List (Nat × Entry)} (h : Deed d x entries d' x') :
    Proceeds (prompted entries) d x d' x' :=
  ⟨entries, .step .start h, rfl⟩

end Proceeds

/-! ## What goes on by itself -/

/-- What a node does when nobody asks. -/
lemma node_proceeds {entries : List Entry} (hn : x.nodes[n]? = some node)
    (h : Node.Doing x.link x.broker node entries node' b) (hprompt : ∀ e ∈ entries, e.isPrompt = false) :
    Proceeds [] d x d (x.withNode n (node', b)) := by
  have hdeed := Proceeds.single (d := d) (.node hn h)
  have hnone : prompted (entries.map fun e => (n, e)) = [] := by
    simpa [prompted] using hprompt
  rwa [hnone] at hdeed

/-- A node notes something. -/
lemma note_proceeds (hn : x.nodes[n]? = some node) (hstation : node'.station = node.station)
    (hdirect : node'.direct = node.direct) (hpublication : node'.publication = node.publication)
    (hmessages : node'.messages = node.messages) (htransports : node'.transports = node.transports)
    (hphase : node'.phase = node.phase ∨ node.phase = .unstarted ∧ node'.phase = .running) :
    Proceeds [] d x d (x.setNode n node') :=
  node_proceeds hn (.note hstation hdirect hpublication hmessages htransports hphase) (by simp)

/-- Something happens at a direct relay. -/
lemma direct_proceeds {call : Option (String × String)} (hn : x.nodes[n]? = some node)
    (h : node.DirectTurn call node') : Proceeds [] d x d (x.setNode n node') :=
  node_proceeds hn (.direct h) (by simp)

lemma directTurns_proceeds (hn : x.nodes[n]? = some node) (h : node.DirectTurns node') :
    Proceeds [] d x d (x.setNode n node') := by
  induction h with
  | refl =>
    have hself : x.setNode n node = x := withNode_self hn
    rw [hself]
    exact .refl d x
  | @tail node₁ node₂ _ hturn ih =>
    have hlast := direct_proceeds (d := d) (setNode_nodes_self hn node₁) hturn
    rw [setNode_setNode] at hlast
    exact ih.next hlast

/-- The loop ends: first the direct relay is released. -/
lemma leave_proceeds (hn : x.nodes[n]? = some node) (h : node.phase = .unstarted ∨ node.canRun = true) :
    Proceeds [] d x d (x.withNode n (node.leave x.link x.broker)) := by
  have hhung := directTurns_proceeds (d := d) hn node.hangUp_turns
  have hexit := node_proceeds (d := d) (setNode_nodes_self hn node.hangUp)
    (.exit (by rwa [Node.hangUp_phase, node.hangUp_turns.canRun_eq]) node.isHungUp_hangUp) (by
      intro e he
      obtain ⟨m, -, rfl⟩ := List.mem_map.1 he
      rfl)
  have hall := hhung.next hexit
  rwa [setNode_withNode] at hall

/-- Every message that is on its way is the wire form of something. -/
def AllEncode (x : Exchange) : Prop :=
  ∀ ⦃n : Nat⦄ ⦃node : Node⦄ ⦃p : Publication⦄, x.nodes[n]? = some node → node.publication = some p →
    ∃ user text, Envelope.Encodes user text p.payload

lemma AllEncode.withNode (hx : x.AllEncode) (p : Node × Broker)
    (hp : ∀ publication, p.1.publication = some publication →
      ∃ user text, Envelope.Encodes user text publication.payload) : (x.withNode n p).AllEncode := by
  intro k node' publication hn' hpublication
  rcases setNode_nodes_cases hn' with ⟨-, rfl⟩ | ⟨-, hold⟩
  · exact hp publication hpublication
  · exact hx hold hpublication

lemma AllEncode.place (hx : x.AllEncode) (seat : Seat) (s : Station) (b : Broker) :
    (x.place seat s b).AllEncode := by
  intro k node' p hn' hp
  rw [place_nodes] at hn'
  obtain ⟨node, hn, rfl⟩ := Option.map_eq_some_iff.1 hn'
  refine hx hn ?_
  rw [← hp]
  split <;> rfl

lemma deliver_encodes {user text : String} {p : Publication} {now : Nat} {link : Link}
    (hnone : node.publication = none)
    (hp : (node.deliver link now user text b).1.publication = some p) :
    Envelope.Encodes user text p.payload := by
  rcases Node.deliver_cases link now node user text b with
    ⟨e, -, heq⟩ | ⟨payload, hpayload, heq | heq⟩ <;> rw [heq] at hp
  · rw [conclude_publication] at hp
    exact absurd (hnone.symm.trans hp) (by simp)
  · cases hp
    exact Relay.encodes_of_payloadOf hpayload
  · rw [arrive_publication] at hp
    cases hp

lemma Stride.allEncode (h : Stride x x') (hx : x.AllEncode) : x'.AllEncode := by
  cases h with
  | turn hs h => exact hx.place _ _ _
  | grant hs h => exact hx.place _ _ _
  | @loop n node hn hrun =>
    refine hx.withNode _ fun p hp => ?_
    rcases Node.stepLoop_cases x.link x.clock x.broker hrun with
      ⟨-, heq⟩ | ⟨-, -, heq⟩ | ⟨user, text, rest, -, heq⟩ | ⟨rest, -, heq⟩ <;> rw [heq] at hp
    · rw [Node.leave_publication] at hp
      exact hx hn hp
    · exact hx hn hp
    · have hnone : ({ node with commands := rest } : Node).publication = none := (Node.canRun_iff.1 hrun).2.2
      exact ⟨user, text, deliver_encodes hnone hp⟩
    · exact hx hn hp
  | arrive hn hp =>
    refine hx.withNode _ fun p' hp' => ?_
    rw [arrive_publication] at hp'
    cases hp'
  | @tasks n node hn =>
    refine hx.withNode (node.beginTasks, x.broker) fun p hp => ?_
    rw [node.beginTasks_turns.publication_eq] at hp
    exact hx hn hp
  | tick clock underway => exact hx

/-- The message of a node arrives, or is given up. -/
lemma arrive_proceeds {p : Publication} (hx : x.AllEncode) (hn : x.nodes[n]? = some node)
    (hp : node.publication = some p) :
    Proceeds [] d x d (x.withNode n (node.arrive x.link x.broker)) := by
  obtain ⟨user, text, hencodes⟩ := hx hn hp
  simp only [Node.arrive, hp]
  rcases arrive_cases x.link node.station.relay node.station.relay.config.queueName p.payload x.broker
    with ⟨e, heq⟩ | heq
  · rw [heq]
    exact node_proceeds hn (.giveUp hp hencodes heq) (by simp [Entry.isPrompt])
  · rw [heq]
    exact node_proceeds hn (.land hp hencodes heq) (by simp [Entry.isPrompt])

/-- The loop of a node takes a message from its commands and publishes it. -/
lemma deliver_proceeds {user text : String} {rest : List NodeCommand} (hx : x.AllEncode)
    (hn : x.nodes[n]? = some node) (hrun : node.canRun = true)
    (hcommands : node.commands = .send user text :: rest) (now : Nat) :
    Proceeds [] d x d
      (x.withNode n (({ node with commands := rest } : Node).deliver x.link now user text x.broker)) := by
  rcases Node.deliver_cases x.link now { node with commands := rest } user text x.broker with
    ⟨e, hpayload, heq⟩ | ⟨payload, hpayload, heq⟩
  · rw [heq]
    exact node_proceeds hn (.fail hrun hcommands hpayload) (by simp [Entry.isPrompt])
  · have hbegin : Node.Doing x.link x.broker node [] _ x.broker :=
      .begin hrun hcommands hpayload (now + node.station.relay.publishDelay x.link)
    have hbegun := node_proceeds (d := d) hn hbegin (by simp)
    rcases heq with heq | heq
    · rw [heq]
      exact hbegun
    · rw [heq]
      have hencodes := hx.withNode (n := n) ((({ node with commands := rest } : Node).count user text).sending
        ⟨payload, now + node.station.relay.publishDelay x.link⟩, x.broker) fun p hp => by
          cases hp
          exact ⟨user, text, Relay.encodes_of_payloadOf hpayload⟩
      have harrive := arrive_proceeds (d := d) hencodes (withNode_nodes_self hn _) (by rfl)
      have hfinal := hbegun.next harrive
      simpa [withNode, setNode] using hfinal

lemma Stride.proceeds (h : Stride x x') (hx : x.AllEncode) : Proceeds [] d x d x' := by
  cases h with
  | turn hs h => exact .single (.turn hs h)
  | grant hs h => exact .single (.grant hs h)
  | @loop n node hn hrun =>
    rcases Node.stepLoop_cases x.link x.clock x.broker hrun with
      ⟨-, heq⟩ | ⟨-, -, heq⟩ | ⟨user, text, rest, hcommands, heq⟩ | ⟨rest, hcommands, heq⟩ <;> rw [heq]
    · exact leave_proceeds hn (Or.inr hrun)
    · rw [withNode_self hn]
      exact .refl d x
    · exact deliver_proceeds hx hn hrun hcommands x.clock
    · refine note_proceeds hn rfl rfl rfl ?_ rfl (Or.inl rfl)
      rw [Node.messages, Node.messages, hcommands]
      rfl
  | arrive hn hp => exact arrive_proceeds hx hn hp
  | @tasks n node hn => exact directTurns_proceeds hn node.beginTasks_turns
  | tick clock underway => exact .single (.tick d x clock underway)

lemma Strides.proceeds (h : Strides x x') (hx : x.AllEncode) : Proceeds [] d x d x' := by
  have hboth : Proceeds [] d x d x' ∧ x'.AllEncode := by
    induction h with
    | refl => exact ⟨.refl d x, hx⟩
    | tail _ hlast ih => exact ⟨ih.1.next (hlast.proceeds ih.2), hlast.allEncode ih.2⟩
  exact hboth.1

lemma Shipshape.allCrewed (hx : x.Shipshape) : x.AllCrewed :=
  fun _ _ hs => (hx.manned hs).nodup

lemma Shipshape.allEncode (hx : x.Shipshape) : x.AllEncode :=
  fun _ _ _ hn hp => hx.encodes hn hp

lemma quiesce_proceeds (hx : x.Shipshape) : Proceeds [] d x d x.quiesce :=
  (quiesce_strides hx.allCrewed).proceeds hx.allEncode

lemma wait_proceeds (done : Exchange → Bool) (hx : x.Shipshape) : Proceeds [] d x d (x.wait done) :=
  (wait_strides done hx.allCrewed).proceeds hx.allEncode

lemma pass_proceeds (ms : Nat) (hx : x.Shipshape) : Proceeds [] d x d (x.pass ms) :=
  (pass_strides ms hx.allCrewed).proceeds hx.allEncode

/-! ## Relays -/

lemma office_proceeds (x : Exchange) (c : Desk.Command)
    (hc : c = .connect ∨ (∃ session queue, c = .declare session queue) ∨ ∃ c', c = .control c')
    (hsessions : (x.desk.step c).2.broker.sessions = x.broker.sessions) :
    Proceeds [] d x d { x with broker := (x.desk.step c).2.broker } :=
  .single (.office c hc hsessions)

lemma control_proceeds (x : Exchange) (c : Broker.Control) :
    Proceeds [] d x d { x with broker := (x.broker.control c).2 } :=
  office_proceeds x (.control c) (Or.inr (Or.inr ⟨c, rfl⟩)) (control_sessions x.broker c)

/-- A try to connect: there is a session for somebody who is coming up, or there is none. -/
lemma attempt_proceeds {link : Link} {timeouts : Timeouts} {a : Attempt} {ms : Nat}
    (h : link.attempt timeouts x.broker = (a, ms, b)) :
    (∃ session, a = .connected session ∧ Proceeds [] d x (d.welcome session) { x with broker := b }) ∨
      (∀ session, a ≠ .connected session) ∧ Proceeds [] d x d { x with broker := b } := by
  unfold Link.attempt at h
  simp only at h
  split at h
  · cases h
    exact Or.inr ⟨by simp, .refl d x⟩
  · split at h
    · next session b' heq =>
      cases h
      exact Or.inl ⟨session, rfl, .single (.welcome heq)⟩
    · next e b' heq =>
      -- whatever the reason, no session is opened
      have hfailed : Proceeds [] d x d { x with broker := b' } := by
        have hstep : (x.desk.step .connect).2.broker = b' := by
          rw [Desk.step_connect, desk, heq]
        have hsessions : b'.sessions = x.broker.sessions := by
          rcases Broker.connect_cases x.broker with ⟨-, hs⟩ | ⟨hok, -⟩
          · rwa [heq] at hs
          · rw [heq] at hok
            cases hok
        have hoffice := office_proceeds (d := d) x .connect (Or.inl rfl) (by rw [hstep, hsessions])
        rwa [hstep] at hoffice
      split at h <;>
      · cases h
        exact Or.inr ⟨by simp, hfailed⟩

/-- What connecting comes to. -/
def ConnectProceeds (d : Doorway) (x : Exchange) (r : Except RelayError Nat × Nat × Broker) : Prop :=
  match r.1 with
  | .error _ => Proceeds [] d x d { x with broker := r.2.2 }
  | .ok session => Proceeds [] d x (d.welcome session) { x with broker := r.2.2 }

lemma retry_proceeds (x : Exchange) (link : Link) (config : QueueConfig) (left : Nat) (last : String)
    (spent : Nat) : ConnectProceeds d x (link.retry config left last spent x.broker) := by
  induction left generalizing x last spent with
  | zero => exact .refl d x
  | succ left ih =>
    unfold Link.retry
    split
    · next session ms b heq =>
      rcases attempt_proceeds (d := d) heq with ⟨session', hsame, hproceeds⟩ | ⟨hne, -⟩
      · cases hsame
        exact hproceeds
      · exact absurd rfl (hne session)
    · next e ms b heq =>
      rcases attempt_proceeds (d := d) heq with ⟨session', hsame, -⟩ | ⟨-, hproceeds⟩
      · cases hsame
      · exact hproceeds
    · next reason ms b heq =>
      rcases attempt_proceeds (d := d) heq with ⟨session', hsame, -⟩ | ⟨-, hproceeds⟩
      · cases hsame
      · have hrest := ih { x with broker := b } reason
          (spent + ms + if left = 0 then 0 else config.retryDelayMs.toNat)
        unfold ConnectProceeds at hrest ⊢
        split
        · next hr => rw [hr] at hrest; exact hproceeds.next hrest
        · next hr => rw [hr] at hrest; exact hproceeds.next hrest

/-- A connection is made, for as long as it takes. -/
lemma openSession_proceeds (config : QueueConfig) (hx : x.Shipshape) :
    match (x.openSession config).1 with
    | .error _ => Proceeds [] d x d (x.openSession config).2
    | .ok session => Proceeds [] d x (d.welcome session) (x.openSession config).2 := by
  have hconnect : ConnectProceeds d x (x.link.connect config x.broker) := by
    unfold Link.connect
    split
    · exact .refl d x
    · exact retry_proceeds x x.link config _ _ _
  have hshape := (linkConnect_onwards x config).shipshape hx
  unfold ConnectProceeds at hconnect
  unfold openSession
  split
  · next e he =>
    rw [he] at hconnect
    exact hconnect.next (pass_proceeds _ hshape)
  · next session he =>
    rw [he] at hconnect
    exact hconnect.next (pass_proceeds _ hshape)

lemma connect_proceeds (config : QueueConfig) (capacity : Nat) (hx : x.Shipshape) :
    Proceeds [] {} x {} (x.connect config capacity).2 := by
  have hopen := openSession_proceeds (d := {}) config hx
  unfold connect
  split
  · next heq => rw [heq] at hopen; exact hopen
  · next session x' heq =>
    rw [heq] at hopen
    have henrol := hopen.next (.single (.enrolRelay List.mem_cons_self config capacity))
    rwa [Doorway.pass_welcome] at henrol

/-- The first part of joining. -/
lemma beginJoin_proceeds (x : Exchange) (r : Relay) (queue : String) :
    Proceeds [] d x d { x with broker := (r.beginJoin x.link queue x.broker).2 } := by
  unfold Relay.beginJoin Link.declare
  split
  · exact .refl d x
  · split
    · exact .refl d x
    · split
      · exact .refl d x
      · refine office_proceeds x (.declare r.session queue) (Or.inr (Or.inl ⟨_, _, rfl⟩)) ?_
        rcases Broker.declare_cases x.broker r.session queue with heq | ⟨-, -, heq⟩ <;>
          simp [Desk.step, desk, heq, Broker.declared]

lemma finishJoin_proceeds (x : Exchange) (seat : Seat) (queue : String) :
    Proceeds [] d x d (x.finishJoin seat queue).2 := by
  unfold finishJoin
  split
  · exact .refl d x
  · next s hs =>
    have hsame : ∀ result, s.relay.finishJoin queue x.broker = (result, s.relay, x.broker) →
        Proceeds [] d x d (({ x with broker := (s.relay.finishJoin queue x.broker).2.2 } : Exchange).setStation
          seat { s with relay := (s.relay.finishJoin queue x.broker).2.1 }) := by
      intro result heq
      have hself := place_self hs
      rw [place] at hself
      rw [heq, hself]
      exact .refl d x
    by_cases hjoined : s.relay.hasJoined queue = true
    · exact hsame (.ok ()) (by simp [Relay.finishJoin, Relay.subscribe, hjoined])
    · rcases relay_finishJoin_cases s.relay queue x.broker with
        ⟨result, heq⟩ | ⟨stream, b, hclosed, hconsume, heq⟩
      · exact hsame result heq
      · simp only [heq, Relay.startConsumer_of_open hclosed]
        exact .single (.listen hs hclosed (by simpa using hjoined) hconsume)

lemma join_proceeds (seat : Seat) (queue : String) (hx : x.Shipshape) :
    Proceeds [] d x d (x.join seat queue).2 := by
  unfold join
  split
  · exact .refl d x
  · next s hs =>
    have hbegin := beginJoin_proceeds (d := d) x s.relay queue
    have hshape := (beginJoin_onwards x s.relay queue).shipshape hx
    split
    · next heq => rw [heq] at hbegin; exact hbegin
    · next heq =>
      rw [heq] at hbegin hshape
      split
      · exact hbegin
      · exact (hbegin.next (pass_proceeds x.link.consumeMs hshape)).next (finishJoin_proceeds _ seat queue)

lemma publish_proceeds (n : Nat) (queue user text : String) (hx : x.Shipshape) :
    Proceeds [] d x d (x.publish n queue user text).2 := by
  unfold publish
  split
  · exact .refl d x
  · next s hs =>
    split
    · exact .refl d x
    · next payload hpayload =>
      refine (pass_proceeds (s.relay.publishDelay x.link) hx).next ?_
      generalize x.pass (s.relay.publishDelay x.link) = y
      rcases arrive_cases x.link s.relay queue payload y.broker with ⟨e, heq⟩ | heq
      · simp only [heq]
        exact .refl d y
      · simp only [heq]
        exact control_proceeds y (.inject queue payload)

lemma publishAll_proceeds (n : Nat) (queue user : String) (texts : List String)
    (last : Option (Except RelayError Unit)) (hx : x.Shipshape) :
    Proceeds [] d x d (publishAll n queue user texts last x).2 := by
  induction texts generalizing x last with
  | nil => exact .refl d x
  | cons text rest ih =>
    have honwards : OnwardsBy (fun _ => True) x _ := publish_onwards n queue user text hx trivial
    have hshape := honwards.shipshape hx
    exact (publish_proceeds n queue user text hx).next (ih _ hshape)

/-- A relay that is marked as closed ends its session. -/
lemma finishClose_proceeds (hs : x.station? (.relay n) = some s) (hclosed : s.relay.closed = true)
    (hmem : s.relay.session ∈ d.leaving) :
    Proceeds [] d x (d.leave s.relay.session) (x.place (.relay n) (s.finishClose x.link x.broker).2.1
      (s.finishClose x.link x.broker).2.2) :=
  .single (.leave hs hclosed hmem)

lemma close_proceeds (x : Exchange) (n : Nat) : Proceeds [] {} x {} (x.close n).2 := by
  unfold close
  split
  · exact .refl _ x
  · next s hs =>
    cases hclosed : s.relay.closed with
    | true =>
      have hself := place_self hs
      rw [place] at hself
      simp only [Station.close, hclosed, if_true, hself]
      exact .refl _ x
    | false =>
      have hretire : Proceeds [] {} x _ _ := .single (.retire hs hclosed)
      have hleave := hretire.next (finishClose_proceeds (place_station?_self hs s.markClosed x.broker) rfl
        List.mem_cons_self)
      have hdoor : (({} : Doorway).retire s.relay.session).leave s.markClosed.relay.session = {} :=
        Doorway.leave_retire (by simp)
      rw [hdoor, place_place, place_link, place_broker] at hleave
      simp only [Station.close, hclosed, Bool.false_eq_true, if_false]
      exact hleave

lemma closeWhileJoining_proceeds (hs : x.station? (.relay n) = some s) (hclosed : s.relay.closed = false)
    (queue : String) (hx : x.Shipshape) : Proceeds [] {} x {} (x.closeWhileJoining n queue).2.2 := by
  have hretire : Proceeds [] {} x (({} : Doorway).retire s.relay.session) _ := .single (.retire hs hclosed)
  have hmarked : Onwards x (x.place (.relay n) s.markClosed x.broker) :=
    act_onwards hs .markClosed (by simp) (by simp)
  have hpass := pass_strides x.link.consumeMs (hmarked.shipshape hx).allCrewed
  have hproceeds := hretire.next (pass_proceeds x.link.consumeMs (hmarked.shipshape hx))
  obtain ⟨s', hs', hahead⟩ := hpass.ahead.after (place_station?_self hs s.markClosed x.broker)
  have hlink := hpass.ahead.link_eq
  rw [place_link] at hlink
  generalize hpassed : (x.place (.relay n) s.markClosed x.broker).pass x.link.consumeMs = y
    at hs' hlink hproceeds
  have hleave : ∀ b, Proceeds [] (({} : Doorway).retire s.relay.session) { y with broker := b } {}
      (y.place (.relay n) (s'.finishClose x.link b).2.1 (s'.finishClose x.link b).2.2) := by
    intro b
    have hdoor : (({} : Doorway).retire s.relay.session).leave s'.relay.session = {} := by
      rw [hahead.session_eq]
      exact Doorway.leave_retire (by simp)
    have hmem : s'.relay.session ∈ (({} : Doorway).retire s.relay.session).leaving := by
      rw [hahead.session_eq]
      exact List.mem_cons_self
    have hleft := finishClose_proceeds (x := { y with broker := b }) (by rwa [withBroker_station?])
      (hahead.closed rfl) hmem
    rw [hdoor] at hleft
    rw [← hlink]
    exact hleft
  simp only [closeWhileJoining, onStation_eq hs, hpassed, hs']
  refine hproceeds.next ?_
  rcases Broker.consume_cases y.broker s'.relay.session queue s'.relay.config.ackMode with
    ⟨e, heq⟩ | ⟨q, -, -, heq⟩
  · rw [heq]
    exact hleave y.broker
  · rw [heq]
    simp only [Relay.startConsumer_of_closed (hahead.closed rfl)]
    exact Proceeds.next (.single (.decline heq)) (hleave _)

lemma joinThenClose_proceeds (n : Nat) (queue : String) (hx : x.Shipshape) :
    Proceeds [] {} x {} (x.joinThenClose n queue).2.2 := by
  unfold joinThenClose
  split
  · exact .refl _ x
  · next s hs =>
    split
    · have hjoin := join_proceeds (d := {}) (.relay n) queue hx
      have hshape := (join_onwards (.relay n) queue hx).shipshape hx
      have hclosed := (hjoin.next (quiesce_proceeds hshape)).next
        (close_proceeds (x.join (.relay n) queue).2.quiesce n)
      rcases hj : x.join (.relay n) queue with ⟨joined, x₁⟩
      rcases hc : x₁.quiesce.close n with ⟨closed, x₂⟩
      simp only [hj, hc] at hclosed ⊢
      exact hclosed
    · have hbegin := beginJoin_proceeds (d := {}) x s.relay queue
      have hshape := (beginJoin_onwards x s.relay queue).shipshape hx
      split
      · next heq =>
        rw [heq] at hbegin
        exact hbegin.next (close_proceeds _ n)
      · next heq =>
        rw [heq] at hbegin hshape
        have hclosed : s.relay.closed = false := by
          by_contra hclosed
          rw [Bool.not_eq_false] at hclosed
          simp [Relay.beginJoin, hclosed] at heq
        refine hbegin.next (closeWhileJoining_proceeds (s := s) ?_ hclosed queue hshape)
        rwa [withBroker_station?]

lemma drop_proceeds (x : Exchange) (n : Nat) : Proceeds [] {} x {} (x.drop n) := by
  refine (close_proceeds x n).next (.single (.drop fun m hm => ?_))
  have hs : (x.close n).2.station? (.relay n) = some m.station := by
    rw [station?, hm, Option.map_some]
  unfold close at hs
  split at hs
  · next hnone =>
    rw [hnone] at hs
    cases hs
  · next s hs' =>
    have hself : (x.place (.relay n) (s.close x.link x.broker).2.1 (s.close x.link x.broker).2.2).station?
        (.relay n) = some m.station := hs
    rw [place_station?_self hs', Option.some.injEq] at hself
    rw [← hself]
    unfold Station.close
    split
    · assumption
    · rw [Station.finishClose_eq]
      rfl

lemma onStation_proceeds {f : Station → Broker → Station × Broker} {prompts : List (Nat × Entry)}
    (hnone : x.station? seat = none → prompts = [])
    (h : ∀ s, x.station? seat = some s →
      Proceeds prompts d x d (x.place seat (f s x.broker).1 (f s x.broker).2)) :
    Proceeds prompts d x d (x.onStation seat f) := by
  cases hs : x.station? seat with
  | none =>
    rw [hnone hs]
    simp only [onStation, hs]
    exact .refl d x
  | some s =>
    rw [onStation_eq hs]
    exact h s hs

lemma breakStream_proceeds (x : Exchange) (stream : Nat) : Proceeds [] d x d (x.breakStream stream) := by
  have hfold : ∀ (l : List Seat) (y : Exchange), Proceeds [] d y d
      (l.foldl (fun x seat => x.onStation seat fun s b => (s.breakStream stream, b)) y) := by
    intro l
    induction l with
    | nil => exact fun y => .refl d y
    | cons seat rest ih =>
      intro y
      refine Proceeds.next (onStation_proceeds (fun _ => rfl) fun s hs => ?_) (ih _)
      exact .single (.breakStream hs stream)
  exact hfold x.seats x

/-- Taking events is written down, if somebody is there. -/
lemma takeEvents_proceeds (hs : x.station? seat = some s) (limit : Option Nat) :
    Proceeds seat.emptied d x d (x.takeEvents seat limit).2 := by
  have htake : Proceeds (prompted seat.emptied) d x d _ := .single (.take hs limit)
  have hall : prompted seat.emptied = seat.emptied := by cases seat <;> rfl
  rw [hall] at htake
  simp only [takeEvents, hs]
  exact htake

lemma discardMailbox_proceeds (x : Exchange) (seat : Seat) : Proceeds [] d x d (x.discardMailbox seat) :=
  onStation_proceeds (fun _ => rfl) fun _ hs => .single (.discard hs)

/-! ## Nodes -/

lemma giveUp_proceeds (x : Exchange) (session : Nat) (config : QueueConfig) (mailbox : Mailbox) :
    Proceeds [] (({} : Doorway).welcome session) x {} (x.giveUp { relay := { session, config }, mailbox }) := by
  have hdismiss : Proceeds [] (({} : Doorway).welcome session) x _ _ := .single (.dismiss List.mem_cons_self)
  rw [Doorway.pass_welcome] at hdismiss
  rw [giveUp_eq]
  exact hdismiss

/-- A node comes up, and then its relay gets a stream. -/
lemma enrolNode_proceeds {session stream : Nat} (config : QueueConfig) (transports : List Transport)
    (direct : Option DirectRelay)
    (hconsume : x.broker.consume session config.queueName config.ackMode = (.ok stream, b)) :
    Proceeds [(x.nodes.length, .enrolled)] (({} : Doorway).welcome session) x {} { x with
      broker := b
      nodes := x.nodes ++ [{ newNodeWith session config transports direct with
        station := { relay := ({ session, config } : Relay).withConsumer config.queueName stream
                     mailbox := { capacity := Node.maxEvents } } }] } := by
  have henrol : Proceeds [(x.nodes.length, .enrolled)] (({} : Doorway).welcome session) x _ _ :=
    .single (.enrolNode List.mem_cons_self config transports direct)
  rw [Doorway.pass_welcome] at henrol
  refine henrol.next ?_
  have hn : (x.nodes ++ [newNodeWith session config transports direct])[x.nodes.length]? =
      some (newNodeWith session config transports direct) := List.getElem?_concat_length
  have hs : ({ x with nodes := x.nodes ++ [newNodeWith session config transports direct] } : Exchange).station?
      (.node x.nodes.length) = some (newNodeWith session config transports direct).station := by
    rw [station?, hn, Option.map_some]
  have hlisten : Proceeds [] {} _ {} _ := .single (.listen hs rfl rfl hconsume)
  rw [place_node hn] at hlisten
  have hset : (x.nodes ++ [newNodeWith session config transports direct]).set x.nodes.length
      { newNodeWith session config transports direct with
        station := { relay := ({ session, config } : Relay).withConsumer config.queueName stream
                     mailbox := { capacity := Node.maxEvents } } } =
      x.nodes ++ [{ newNodeWith session config transports direct with
        station := { relay := ({ session, config } : Relay).withConsumer config.queueName stream
                     mailbox := { capacity := Node.maxEvents } } }] := by
    rw [List.set_append_right _ _ (Nat.le_refl _), Nat.sub_self, List.set_cons_zero]
  rw [← hset]
  exact hlisten

/-- What is written down when a node is to come up. -/
def enrolments : Except RelayError (Option Nat) → List (Nat × Entry)
  | .ok (some n) => [(n, .enrolled)]
  | .ok none | .error _ => []

lemma bringUp_proceeds {session : Nat} (config : QueueConfig) (transports : List Transport)
    (direct : Option DirectRelay) (hx : x.Shipshape) :
    Proceeds (enrolments ((x.bringUp { session, config } transports direct).1.map some))
      (({} : Doorway).welcome session) x {} (x.bringUp { session, config } transports direct).2 := by
  have hbegin := beginJoin_proceeds (d := ({} : Doorway).welcome session) x { session, config } config.queueName
  have hshape := (beginJoin_onwards x { session, config } config.queueName).shipshape hx
  unfold bringUp
  simp only
  split
  · next heq =>
    rw [heq] at hbegin
    exact hbegin.next (giveUp_proceeds _ session config _)
  · next b heq =>
    rw [heq] at hbegin hshape
    refine (hbegin.next (pass_proceeds x.link.consumeMs hshape)).trans ?_
    generalize ({ x with broker := b } : Exchange).pass x.link.consumeMs = y
    rcases relay_finishJoin_cases { session, config } config.queueName y.broker with
      ⟨result, hjoin⟩ | ⟨stream, b', hclosed, hconsume, hjoin⟩
    · rw [hjoin]
      cases result with
      | error e => exact giveUp_proceeds y session config _
      | ok =>
        have henrol : Proceeds [(y.nodes.length, .enrolled)] (({} : Doorway).welcome session) y _ _ :=
          .single (.enrolNode List.mem_cons_self config transports direct)
        rw [Doorway.pass_welcome] at henrol
        exact henrol
    · rw [hjoin, Relay.startConsumer_of_open hclosed]
      exact enrolNode_proceeds config transports direct hconsume

lemma openDirect_proceeds (outlook : Direct.Outlook) (config : Option DirectConfig) (hx : x.Shipshape) :
    Proceeds [] d x d (x.openDirect outlook config).2 := by
  cases config with
  | none => exact .refl d x
  | some config => exact pass_proceeds _ hx

lemma newNode_proceeds (config : NodeConfig) (outlook : Direct.Outlook) (hx : x.Shipshape) :
    Proceeds (enrolments (x.newNode config outlook).1) {} x {} (x.newNode config outlook).2 := by
  have hdirect := openDirect_proceeds (d := {}) outlook config.direct hx
  have hshape := (openDirect_onwards outlook config.direct hx).shipshape hx
  unfold newNode
  split
  · exact .refl _ x
  · split
    · next heq => rw [heq] at hdirect; exact hdirect
    · next direct x₁ heq =>
      rw [heq] at hdirect hshape
      split
      · exact hdirect
      · next queue _ =>
        have hopen := openSession_proceeds (d := {}) queue hshape
        have hshape₂ := (openSession_onwards queue hshape).shipshape hshape
        split
        · next heq => rw [heq] at hopen; exact hdirect.trans hopen
        · next session x₂ heq =>
          rw [heq] at hopen hshape₂
          exact hdirect.trans (hopen.trans (bringUp_proceeds queue config.transports direct hshape₂))

/-- A node accepts a command. -/
lemma enqueue_proceeds (hn : x.nodes[n]? = some node) (hphase : node.phase ≠ .exited) (c : NodeCommand) :
    Proceeds (c.entries.map fun e => (n, e)) d x d (x.setNode n (node.enqueue c)) := by
  have hdeed : Proceeds _ d x d _ := .single (.node hn (.accept hphase c))
  have hall : prompted (c.entries.map fun e => (n, e)) = c.entries.map fun e => (n, e) := by
    cases c <;> rfl
  rw [hall] at hdeed
  exact hdeed

/-- The exchange in which a node has room for a command, or will never have. -/
def readyFor (x : Exchange) (n : Nat) : Exchange :=
  x.wait fun x => x.nodes[n]?.any fun node => node.hasExited || node.hasRoom

/-- A node has accepted a command, or it has not and never will. -/
lemma hand_cases (hready : x.readyFor n = x') (c : NodeCommand) :
    (∃ accepted, accepted ≠ some true ∧ x.hand n c = (accepted, x')) ∨
      ∃ node, x'.nodes[n]? = some node ∧ node.phase ≠ .exited ∧
        x.hand n c = (some true, x'.setNode n (node.enqueue c)) := by
  rw [readyFor] at hready
  simp only [hand, hready]
  cases hn : x'.nodes[n]? with
  | none => exact Or.inl ⟨none, by simp, rfl⟩
  | some node =>
    by_cases hexited : node.hasExited = true
    · exact Or.inl ⟨some false, by simp, by simp only [hexited, if_true]⟩
    · by_cases hroom : node.hasRoom = true
      · refine Or.inr ⟨node, rfl, by simpa [Node.hasExited] using hexited, ?_⟩
        simp only [hexited, hroom, if_true, if_false, Bool.false_eq_true]
        rfl
      · exact Or.inl ⟨none, by simp, by simp only [hexited, hroom, if_false, Bool.false_eq_true]⟩

lemma readyFor_proceeds (n : Nat) (hx : x.Shipshape) : Proceeds [] d x d (x.readyFor n) :=
  wait_proceeds _ hx

/-- Whether a node has accepted what it was asked for. -/
def Answer.isAccepted : Answer → Bool
  | accepted b => b
  | _ => false

/-- Which of the requests of a burst were accepted. -/
def Answer.granted : Answer → List Bool
  | burst bs => bs
  | _ => []

lemma submit_proceeds (n : Nat) (c : NodeCommand) (hx : x.Shipshape) :
    Proceeds (if (x.submit n c).1.isAccepted then c.entries.map fun e => (n, e) else []) d x d
      (x.submit n c).2 := by
  have hready := readyFor_proceeds (d := d) n hx
  generalize hy : x.readyFor n = y at hready
  unfold submit
  rcases hand_cases hy c with ⟨accepted, hnot, heq⟩ | ⟨node, hn, hphase, heq⟩
  · rw [heq]
    cases accepted with
    | none => exact hready
    | some accepted =>
      cases accepted with
      | false => exact hready
      | true => exact absurd rfl hnot
  · rw [heq]
    exact hready.trans (enqueue_proceeds hn hphase c)

lemma fresh_proceeds (x : Exchange) (n : Nat) : Proceeds [] d x d (x.fresh n) := by
  cases hn : x.nodes[n]? with
  | none =>
    rw [fresh, List.modify_eq_self (List.getElem?_eq_none_iff.1 hn)]
    exact .refl d x
  | some node =>
    rw [fresh_eq hn]
    exact note_proceeds hn rfl rfl rfl rfl rfl (Or.inl rfl)

lemma askStatus_proceeds (n : Nat) (hx : x.Shipshape) : Proceeds [] d x d (x.askStatus n).2 := by
  have hhand : Proceeds [] d x d (x.hand n .status).2 := by
    have hready := readyFor_proceeds (d := d) n hx
    generalize hy : x.readyFor n = y at hready
    rcases hand_cases hy .status with ⟨accepted, -, heq⟩ | ⟨node, hn, hphase, heq⟩
    · rw [heq]
      exact hready
    · rw [heq]
      exact hready.next (enqueue_proceeds hn hphase .status)
  have honwards : OnwardsBy (fun _ => True) x _ := hand_onwards n .status hx fun _ _ _ => trivial
  have hshape := (fresh_onwards _ n).shipshape (honwards.shipshape hx)
  rcases askStatus_cases x n with heq | heq <;> rw [heq]
  · exact hhand
  · exact (hhand.next (fresh_proceeds _ n)).next (wait_proceeds _ hshape)

lemma onNode_proceeds {f : Node → Broker → Node × Broker} {prompts : List (Nat × Entry)}
    (hnone : x.nodes[n]? = none → prompts = [])
    (h : ∀ node, x.nodes[n]? = some node → Proceeds prompts d x d (x.withNode n (f node x.broker))) :
    Proceeds prompts d x d (x.onNode n f) := by
  cases hn : x.nodes[n]? with
  | none =>
    rw [hnone hn]
    simp only [onNode, hn]
    exact .refl d x
  | some node =>
    rw [onNode_eq hn]
    exact h node hn

/-- A node is told to end. -/
lemma signal_proceeds (hn : x.nodes[n]? = some node) :
    Proceeds [] d x d (x.withNode n (node.signal x.link x.broker)) := by
  unfold Node.signal
  split
  · next hphase => exact leave_proceeds hn (Or.inl hphase)
  · exact note_proceeds hn rfl rfl rfl rfl rfl (Or.inl rfl)
  · exact note_proceeds hn rfl rfl rfl rfl rfl (Or.inl rfl)

lemma told_proceeds (x : Exchange) (n : Nat) : Proceeds [] d x d (x.told n) := by
  refine onNode_proceeds (fun _ => rfl) fun node hn => ?_
  unfold Node.shutdown
  split
  · exact note_proceeds hn rfl rfl rfl rfl rfl (Or.inl rfl)
  · have hstate : Proceeds [] d x d (x.setNode n { node with state := .shuttingDown }) :=
      note_proceeds hn rfl rfl rfl rfl rfl (Or.inl rfl)
    have hsignal := signal_proceeds (d := d) (setNode_nodes_self hn { node with state := .shuttingDown })
    rw [setNode_withNode] at hsignal
    exact hstate.next hsignal

lemma shutdown_proceeds (n : Nat) (hx : x.Shipshape) : Proceeds [] d x d (x.shutdown n).2 := by
  have hwait := (told_proceeds (d := d) x n).next
    (wait_proceeds (·.hasExited n) ((told_onwards x n).shipshape hx))
  rw [told] at hwait
  simp only [shutdown]
  generalize Exchange.wait _ _ = y at hwait ⊢
  split
  · exact .refl d x
  · exact hwait

lemma start_proceeds (x : Exchange) (n : Nat) : Proceeds [] d x d (x.start n).2 := by
  rcases start_cases x n with heq | ⟨node, hn, hphase, heq⟩ <;> rw [heq]
  · exact .refl d x
  · exact note_proceeds hn rfl rfl rfl rfl rfl (Or.inr ⟨hphase, rfl⟩)

lemma phase_of_refusal? (h : node.refusal? = none) : node.phase ≠ .exited := by
  intro hphase
  simp [Node.refusal?, Node.hasExited, hphase] at h

/-- A node is asked for something, which it does or does not accept. -/
lemma nodeRequest_proceeds (hn : x.nodes[n]? = some node) (c : NodeCommand) :
    Proceeds ((if (node.request c).1 then c.entries else []).map fun e => (n, e)) d x d
      (x.setNode n (node.request c).2) := by
  unfold Node.request
  split
  · exact note_proceeds hn rfl rfl rfl rfl rfl (Or.inl rfl)
  · next hrefusal => exact enqueue_proceeds hn (phase_of_refusal? hrefusal) c

lemma request_proceeds (x : Exchange) (n : Nat) (c : NodeCommand) :
    Proceeds (if (x.request n c).1.isAccepted then c.entries.map fun e => (n, e) else []) d x d
      (x.request n c).2 := by
  unfold request
  cases hn : x.nodes[n]? with
  | none => exact .refl d x
  | some node =>
    have h := nodeRequest_proceeds (d := d) hn c
    rw [apply_ite (List.map _)] at h
    exact h

lemma takeReceiver_proceeds (x : Exchange) (n : Nat) : Proceeds [] d x d (x.takeReceiver n).2 := by
  unfold takeReceiver
  split
  · exact .refl d x
  · next node hn =>
    split
    · exact .refl d x
    · exact note_proceeds hn rfl rfl rfl rfl rfl (Or.inl rfl)

/-- A node is asked to send a message, which it accepts or refuses. -/
lemma sendMessage_proceeds (hn : x.nodes[n]? = some node) (user text : String) :
    Proceeds [(n, .asked user text)] d x d (x.setNode n (node.sendMessage user text)) := by
  unfold Node.sendMessage
  split
  · next reason _ => exact .single (.node hn (.refuse user text reason))
  · next hrefusal => exact enqueue_proceeds hn (phase_of_refusal? hrefusal) (.send user text)

/-- Calls are made one after the other. -/
lemma nodeBurst_proceeds (hn : x.nodes[n]? = some node) (calls : List NodeCall) :
    Proceeds ((NodeCall.entries calls (node.burst calls).1).map fun e => (n, e)) d x d
      (x.setNode n (node.burst calls).2) := by
  induction calls generalizing x node with
  | nil => exact note_proceeds hn rfl rfl rfl rfl rfl (Or.inl rfl)
  | cons call rest ih =>
    cases call with
    | send user text =>
      have hrest := ih (setNode_nodes_self hn (node.sendMessage user text))
      rw [setNode_setNode] at hrest
      exact (sendMessage_proceeds hn user text).trans hrest
    | request c =>
      have hrest := ih (setNode_nodes_self hn (node.request c).2)
      rw [setNode_setNode] at hrest
      have hall := (nodeRequest_proceeds (d := d) hn c).trans hrest
      rw [← List.map_append] at hall
      exact hall

lemma burst_proceeds (hn : x.nodes[n]? = some node) (calls : List NodeCall) :
    Proceeds ((NodeCall.entries calls (x.burst n calls).1.granted).map fun e => (n, e)) d x d
      (x.burst n calls).2 := by
  have hcalls := nodeBurst_proceeds (d := d) hn calls
  simp only [burst, hn, Option.map_some]
  exact hcalls

lemma peerCalls_proceeds (x : Exchange) (n : Nat) (user text : String) :
    Proceeds [] d x d (x.peerCalls n user text).2 := by
  simp only [peerCalls]
  refine onNode_proceeds (fun _ => rfl) fun node hn => ?_
  rcases node.peerCalls_cases user text with ⟨-, hturn⟩ | hsame
  · exact direct_proceeds hn hturn
  · rw [hsame, withNode_self hn]
    exact .refl d x

lemma peerAnswers_proceeds (x : Exchange) (n task : Nat) (outcome : Except Direct.Status Unit) :
    Proceeds [] d x d (x.peerAnswers n task outcome) :=
  onNode_proceeds (fun _ => rfl) fun node hn => directTurns_proceeds hn (node.peerAnswers_turns task outcome)

lemma dropNode_proceeds (x : Exchange) (n : Nat) :
    Proceeds [] d x d (x.onNode n (Node.drop x.link)) := by
  refine onNode_proceeds (fun _ => rfl) fun node hn => ?_
  -- the mailbox goes if nobody has taken it, and then the node is told to end
  have hkept : Proceeds [] d x d (x.withNode n (if node.taken then (node, x.broker)
      else node.discardMailbox x.broker)) := by
    split
    · exact note_proceeds hn rfl rfl rfl rfl rfl (Or.inl rfl)
    · have hs : x.station? (.node n) = some node.station := Option.map_eq_some_iff.2 ⟨node, hn, rfl⟩
      have hdiscard : Proceeds [] d x d _ := .single (.discard hs)
      rw [place_node hn] at hdiscard
      exact hdiscard
  unfold Node.drop
  rcases hpair : (if node.taken then (node, x.broker) else node.discardMailbox x.broker) with ⟨kept, b⟩
  rw [hpair] at hkept
  have hn₁ : (x.withNode n (kept, b)).nodes[n]? = some kept := withNode_nodes_self hn _
  have hdropped : Proceeds [] d (x.withNode n (kept, b)) d
      ((x.withNode n (kept, b)).setNode n { kept with dropped := true }) :=
    note_proceeds hn₁ rfl rfl rfl rfl rfl (Or.inl rfl)
  have hsignal := signal_proceeds (d := d) (setNode_nodes_self hn₁ { kept with dropped := true })
  rw [setNode_withNode] at hsignal
  have hall := (hkept.next hdropped).next hsignal
  simpa [withNode, setNode] using hall

/-! ## Commands and runs -/

/-- What a command asks for that is written down, when it has been given an answer. -/
def Command.prompts (x : Exchange) (a : Answer) : Command → List (Nat × Entry)
  | .newNode _ _ => match a with
    | .node n => [(n, .enrolled)]
    | _ => []
  | .burst n calls =>
    if n < x.nodes.length then (NodeCall.entries calls a.granted).map fun e => (n, e) else []
  | .request n c | .submit n c => if a.isAccepted then c.entries.map fun e => (n, e) else []
  | .takeEvents seat _ => if (x.station? seat).isSome then seat.emptied else []
  | _ => []

/-- Whatever is asked of an exchange, it does it in deeds, of which only those are asked for that the command
asks for. -/
lemma act_proceeds (c : Command) (hx : x.Shipshape) :
    Proceeds (c.prompts x (x.act c).1) {} x {} (x.act c).2 := by
  cases c with
  | connect config capacity =>
    have h := connect_proceeds config capacity hx
    simp only [act, Command.prompts]
    split
    · next heq => rw [heq] at h; exact h
    · next heq => rw [heq] at h; exact h
  | join n queue => exact join_proceeds (.relay n) queue hx
  | publish n queue user texts => exact publishAll_proceeds n queue user texts none hx
  | close n => exact close_proceeds x n
  | joinThenClose n queue => exact joinThenClose_proceeds n queue hx
  | drop n => exact drop_proceeds x n
  | breakStream stream => exact breakStream_proceeds x stream
  | takeEvents seat limit =>
    cases hs : x.station? seat with
    | none =>
      simp only [Command.prompts, act, takeEvents, hs]
      exact .refl _ x
    | some s =>
      simp only [Command.prompts, hs, Option.isSome_some, if_true]
      exact takeEvents_proceeds hs limit
  | discardMailbox seat => exact discardMailbox_proceeds x seat
  | newNode config outlook =>
    have h := newNode_proceeds config outlook hx
    rcases heq : x.newNode config outlook with ⟨_ | _ | _, x'⟩ <;>
    · rw [heq] at h
      simp only [act, Command.prompts, heq]
      exact h
  | takeReceiver n => exact takeReceiver_proceeds x n
  | start n => exact start_proceeds x n
  | burst n calls =>
    simp only [act, Command.prompts]
    split
    · next hlt => exact burst_proceeds (List.getElem?_eq_getElem hlt) calls
    · next hlt =>
      simp only [burst, List.getElem?_eq_none (Nat.not_lt.1 hlt), Option.map_none]
      exact .refl _ x
  | status n => exact askStatus_proceeds n hx
  | request n c =>
    simp only [act, Command.prompts]
    exact request_proceeds x n c
  | submit n c =>
    simp only [act, Command.prompts]
    exact submit_proceeds n c hx
  | shutdown n => exact shutdown_proceeds n hx
  | dropNode n => exact dropNode_proceeds x n
  | peerCalls n user text => exact peerCalls_proceeds x n user text
  | peerAnswers n task outcome => exact peerAnswers_proceeds x n task outcome
  | control c => exact control_proceeds x c

lemma step_proceeds (c : Command) (hx : x.Shipshape) :
    Proceeds (c.prompts x (x.step c).1) {} x {} (x.step c).2.2 := by
  have hshape := (act_onwards_of_command c hx).shipshape hx
  rw [step_eq]
  exact (act_proceeds c hx).next (quiesce_proceeds hshape)

/-- All that the commands of a run ask for. -/
def promptsOf (x : Exchange) : List Command → List (Nat × Entry)
  | [] => []
  | c :: rest => c.prompts x (x.step c).1 ++ promptsOf (x.step c).2.2 rest

/-- **Every run has a diary**, in which only those things are asked for that the commands ask for. -/
lemma run_proceeds (cs : List Command) (hx : x.Shipshape) :
    Proceeds (x.promptsOf cs) {} x {} (x.run cs).2 := by
  induction cs generalizing x with
  | nil => exact .refl _ x
  | cons c rest ih =>
    rw [run_cons]
    exact (step_proceeds c hx).trans (ih ((step_onwards c hx).shipshape hx))

lemma shipshape_run (link : Link) (cs : List Command) : (({ link } : Exchange).run cs).2.Shipshape := by
  obtain ⟨log, hc, -⟩ := run_course link cs
  exact hc.shipshape (shipshape_empty link)

end Exchange

end MessageRelay
