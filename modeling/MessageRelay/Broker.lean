import MessageRelay.Broker.Queue
import MessageRelay.Error

/-!
# The broker

A broker inside this program: named queues, and sessions through which relays declare queues,
subscribe to them and publish.  A message for a queue that nobody declared is dropped.

Faults can be arranged: a number of connections that will be refused, and one connection on which no
channel can be opened.
-/

namespace MessageRelay

/-- What carries messages from a queue to one consumer. -/
structure Stream where
  /-- The queue at its source. -/
  queue : String
  /-- When a message that is handed over is settled. -/
  mode : AckMode
  /-- Whether the consumer still listens. -/
  listening : Bool := true
  /-- Messages that were handed over and not yet taken, with their tags, oldest first. -/
  buffer : List (Nat × Bytes) := []
  deriving DecidableEq, Repr

/-- A message that a consumer has taken from a stream. -/
structure Delivery where
  /-- The queue that it comes from. -/
  queue : String
  /-- The tag under which it was handed over. -/
  tag : Nat
  /-- The message. -/
  payload : Bytes
  /-- Whether it has to be settled. -/
  pending : Bool
  deriving DecidableEq, Repr

/-- A delivery as it is shown to a person. -/
def Delivery.describe (d : Delivery) : String :=
  "Delivery \x7b payload_len: " ++ toString d.payload.length ++ ", pending: " ++
    (if d.pending then "true" else "false") ++ " \x7d"

/-- What became of a message. -/
inductive Verdict where
  /-- It was accepted. -/
  | ack
  /-- It was refused, and is not to be handed over again. -/
  | reject
  deriving DecidableEq, Repr

/-- The name of a verdict. -/
def Verdict.label : Verdict → String
  | ack => "ack"
  | reject => "reject"

/-- What a look into a stream can give. -/
inductive Poll where
  /-- Nothing is there yet. -/
  | pending
  /-- Nothing is there and nothing will come. -/
  | ended
  /-- A message. -/
  | delivery (d : Delivery)
  deriving DecidableEq, Repr

/-- The state of a broker.  Sessions and streams are numbered in the order in which they are
created. -/
structure Broker where
  /-- The queues that have been declared, by name. -/
  queues : List (String × Queue) := []
  /-- All streams there have been. -/
  streams : List Stream := []
  /-- All sessions there have been, and whether they are open. -/
  sessions : List Bool := []
  /-- How many sessions are open. -/
  openSessions : Nat := 0
  /-- How many of the next connections will be refused. -/
  refusals : Nat := 0
  /-- Whether the next connection that is made will have no channel. -/
  channelFault : Bool := false
  deriving DecidableEq, Repr

namespace Broker

/-- A failure on an open connection. -/
def channelError (reason : String) : RelayError :=
  ⟨.channelError, reason⟩

/-! ## Queues and streams -/

/-- The queue with the given name, if it was declared. -/
def queue? (b : Broker) (name : String) : Option Queue :=
  b.queues.lookup name

/-- Puts a queue in the place of the one with the same name. -/
def setQueue (b : Broker) (name : String) (q : Queue) : Broker :=
  { b with queues := b.queues.map fun p => if p.1 = name then (p.1, q) else p }

/-- Whether somebody listens to a stream. -/
def isListening (b : Broker) (stream : Nat) : Bool :=
  (b.streams[stream]?.map (·.listening)).getD false

/-- Puts a message into a stream. -/
def carry (streams : List Stream) (h : Handover) : List Stream :=
  streams.modify h.stream fun s => { s with buffer := s.buffer ++ [(h.tag, h.payload)] }

/-- Puts messages into their streams. -/
def carryAll (b : Broker) (handovers : List Handover) : Broker :=
  { b with streams := handovers.foldl carry b.streams }

/-- Changes one queue and carries over what it hands out. -/
def updateQueue (b : Broker) (name : String) (result : Queue × List Handover) : Broker :=
  (b.setQueue name result.1).carryAll result.2

/-- Brings a message to a queue; it is dropped if there is no such queue. -/
def route (b : Broker) (name : String) (payload : Bytes) : Broker :=
  match b.queue? name with
  | some q => b.updateQueue name (q.dispatch b.isListening payload)
  | none => b

/-! ## Sessions -/

/-- Makes a connection; the number of the session is given. -/
def connect (b : Broker) : Except RelayError Nat × Broker :=
  match b.refusals with
  | n + 1 =>
    (.error ⟨.brokerUnavailable, "memory broker refused connection"⟩, { b with refusals := n })
  | 0 =>
    if b.channelFault then
      (.error (channelError "memory broker refused channel"), { b with channelFault := false })
    else
      (.ok b.sessions.length,
        { b with sessions := b.sessions ++ [true], openSessions := b.openSessions + 1 })

/-- Whether a session is open. -/
def isOpen (b : Broker) (session : Nat) : Bool :=
  (b.sessions[session]?).getD false

/-- Declares a queue; one that exists stays as it is. -/
def declare (b : Broker) (session : Nat) (name : String) : Except RelayError Unit × Broker :=
  if !b.isOpen session then (.error (channelError "queue_declare on closed channel"), b)
  else if (b.queue? name).isSome then (.ok (), b)
  else (.ok (), { b with queues := b.queues ++ [(name, {})] })

/-- Subscribes to a queue; the number of the stream is given. -/
def consume (b : Broker) (session : Nat) (name : String) (mode : AckMode) :
    Except RelayError Nat × Broker :=
  if !b.isOpen session then (.error (channelError "basic_consume on closed channel"), b)
  else
    match b.queue? name with
    | none => (.error (channelError ("no queue '" ++ name ++ "'")), b)
    | some q =>
      let stream := b.streams.length
      let b' : Broker := { b with streams := b.streams ++ [{ queue := name, mode }] }
      (.ok stream, b'.updateQueue name (q.subscribe b'.isListening ⟨session, mode, stream⟩))

/-- Publishes a message. -/
def publish (b : Broker) (session : Nat) (name : String) (payload : Bytes) :
    Except RelayError Unit × Broker :=
  if !b.isOpen session then
    (.error ⟨.sendFailure, "publish to '" ++ name ++ "' on closed channel"⟩, b)
  else (.ok (), b.route name payload)

/-- Ends the consumers of a session in all queues. -/
def releaseQueues (session : Nat) (names : List String) (b : Broker) : Broker :=
  names.foldl (fun b name =>
    match b.queue? name with
    | some q => b.updateQueue name (q.release b.isListening session)
    | none => b) b

/-- Ends a session; what its consumers have not settled is dispatched again.  A session that has
ended stays so. -/
def close (b : Broker) (session : Nat) : Broker :=
  if !b.isOpen session then b
  else
    let released := b.releaseQueues session (b.queues.map (·.1))
    { released with
      sessions := b.sessions.set session false
      openSessions := b.openSessions - 1 }

/-! ## Streams and deliveries -/

/-- Whether more messages can come through a stream: its consumer is known to the queue. -/
def isFed (b : Broker) (stream : Nat) : Bool :=
  b.queues.any fun p => p.2.slots.any (·.stream == stream)

/-- Looks into a stream and takes the oldest message from it. -/
def poll (b : Broker) (stream : Nat) : Poll × Broker :=
  match b.streams[stream]? with
  | none => (.ended, b)
  | some s =>
    match s.buffer with
    | [] => (if b.isFed stream then .pending else .ended, b)
    | (tag, payload) :: rest =>
      (.delivery ⟨s.queue, tag, payload, s.mode = .manual⟩,
        { b with streams := b.streams.set stream { s with buffer := rest } })

/-- Stops listening to a stream; what is in it is not taken any more. -/
def dropStream (b : Broker) (stream : Nat) : Broker :=
  { b with streams := b.streams.modify stream fun s => { s with listening := false, buffer := [] } }

/-- Counts a verdict. -/
def countVerdict (q : Queue) : Verdict → Queue
  | .ack => { q with acked := q.acked + 1 }
  | .reject => { q with rejected := q.rejected + 1 }

/-- Settles a delivery.  This fails when its session has ended meanwhile, for then the message goes
round again; a delivery that was settled when it was handed over needs nothing. -/
def settle (b : Broker) (verdict : Verdict) (d : Delivery) : Except RelayError Unit × Broker :=
  if !d.pending then (.ok (), b)
  else
    let unknown := channelError (verdict.label ++ " of unknown delivery tag " ++ toString d.tag)
    match b.queue? d.queue with
    | none => (.error unknown, b)
    | some q =>
      if q.awaits d.tag then (.ok (), b.setQueue d.queue (countVerdict (q.forget d.tag) verdict))
      else (.error unknown, b)

/-! ## Looking and arranging -/

/-- The counts of a queue, if it was declared; consumers that do not listen any more are
forgotten. -/
def stats (b : Broker) (name : String) : Option QueueStats × Broker :=
  match b.queue? name with
  | none => (none, b)
  | some q =>
    let pruned := q.prune b.isListening
    (some pruned.stats, b.setQueue name pruned)

/-- Lets the next connections be refused. -/
def refuseConnects (b : Broker) (n : Nat) : Broker :=
  { b with refusals := n }

/-- Lets the next connection that is made have no channel. -/
def refuseChannel (b : Broker) : Broker :=
  { b with channelFault := true }

/-! ## What a queue's name leads to -/

theorem lookup_map_set {queues : List (String × Queue)} {name : String} {q q' : Queue}
    (h : queues.lookup name = some q') :
    (queues.map fun p => if p.1 = name then (p.1, q) else p).lookup name = some q := by
  induction queues with
  | nil => simp at h
  | cons p rest ih =>
    by_cases hp : p.1 = name
    · simp [hp]
    · have hb : (name == p.1) = false := by simp [Ne.symm hp]
      rw [List.lookup_cons, hb] at h
      rw [List.map_cons, if_neg hp, List.lookup_cons, hb]
      exact ih h

@[simp]
theorem queue?_setQueue_self {b : Broker} {name : String} {q q' : Queue}
    (h : b.queue? name = some q') : (b.setQueue name q).queue? name = some q :=
  lookup_map_set h

end Broker

end MessageRelay
