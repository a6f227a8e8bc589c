import MessageRelay.Envelope.Codec
import MessageRelay.Relay.Link
import MessageRelay.Relay.Mailbox

/-!
# Queue relays

A relay publishes envelopes to queues and consumes the queues that it has joined.  Each joined queue
has one consumer.  A consumer takes a message from its stream, settles it, and posts what it was; it
goes on as long as there is a place for its events, and stops when nobody takes them any more, when
its stream breaks, or when the relay is closed.

Joining has three parts, between which other things may happen: the queue is declared, the broker is
asked for a stream, and if the relay is still open by then a consumer is started on it.
-/

namespace MessageRelay

/-- What consumes one queue on behalf of a relay. -/
structure Consumer where
  /-- The queue. -/
  queue : String
  /-- The stream that it listens to. -/
  stream : Nat
  /-- Whether the stream is broken, which the consumer finds out when it next looks. -/
  broken : Bool := false
  deriving DecidableEq, Repr

/-- A relay that is connected to a broker. -/
structure Relay where
  /-- The session at the broker. -/
  session : Nat
  /-- The settings. -/
  config : QueueConfig
  /-- The consumers that have not stopped. -/
  consumers : List Consumer := []
  /-- Whether the relay was closed. -/
  closed : Bool := false
  deriving DecidableEq, Repr

/-- A relay and the mailbox that its events go to. -/
structure Station where
  /-- The relay. -/
  relay : Relay
  /-- The mailbox. -/
  mailbox : Mailbox
  deriving DecidableEq

namespace Relay

/-- The names of the queues that are joined. -/
def joined (r : Relay) : List String :=
  r.consumers.map (·.queue)

/-- The names of the queues that are joined, in alphabetical order. -/
def joinedSorted (r : Relay) : List String :=
  r.joined.mergeSort fun a b => decide (a ≤ b)

/-- Whether a queue is joined. -/
def hasJoined (r : Relay) (queue : String) : Bool :=
  r.consumers.any (·.queue == queue)

/-- A consumer with the given stream has stopped. -/
def withoutConsumer (r : Relay) (stream : Nat) : Relay :=
  { r with consumers := r.consumers.filter (·.stream != stream) }

/-- The failure of something that needs an open relay. -/
def closedError (what : String) : RelayError :=
  ⟨.closed, what ++ " after queue relay close"⟩

/-- What a message on a queue amounts to, and what becomes of it. -/
def eventOf (payload : Bytes) : Event × Verdict :=
  match Envelope.decode payload with
  | .ok envelope => (.received .queue envelope, .ack)
  | .error e => (.malformed .queue e.message, .reject)

/-- Settles a delivery and gives the event to post. -/
def settle (b : Broker) (d : Delivery) : Event × Broker :=
  let (event, verdict) := eventOf d.payload
  (event, (b.settle verdict d).2)

/-- The message that a publication sends, or why there is none. -/
def payloadOf (r : Relay) (user text : String) : Except RelayError Bytes :=
  if r.closed then .error (closedError "publish")
  else
    match Envelope.make user text with
    | .error e => .error e
    | .ok envelope => envelope.encodeForSend

/-- The most time that a publication may take. -/
def publishBound (r : Relay) : Nat :=
  r.config.timeouts.requestMs.toNat

/-- How long a message is on its way until it arrives or is given up. -/
def publishDelay (link : Link) (r : Relay) : Nat :=
  min link.publishMs r.publishBound

/-- The end of a publication: the message arrives, or is given up because it took too long. -/
def arrive (link : Link) (r : Relay) (queue : String) (payload : Bytes) (b : Broker) :
    Except RelayError Unit × Broker :=
  if r.publishBound < link.publishMs then
    (.error ⟨.sendFailure, "publish to '" ++ queue ++ "' timed out after " ++
      Duration.display r.publishBound⟩, b)
  else b.publish r.session queue payload

/-- The first part of joining: the queue is declared. -/
def beginJoin (link : Link) (r : Relay) (queue : String) (b : Broker) :
    Except RelayError Unit × Broker :=
  if r.closed then (.error (closedError "join"), b)
  else
    match QueueName.validate queue with
    | .error e => (.error e, b)
    | .ok () => link.declare r.session queue b

/-- The second part of joining: the broker gives a stream.  Nothing is asked for when the queue is
joined already. -/
def subscribe (r : Relay) (queue : String) (b : Broker) :
    Except RelayError (Option Nat) × Broker :=
  if r.hasJoined queue then (.ok none, b)
  else if r.closed then (.error (closedError "join"), b)
  else
    match b.consume r.session queue r.config.ackMode with
    | (.ok stream, b') => (.ok (some stream), b')
    | (.error e, b') => (.error e, b')

/-- The third part of joining: a consumer starts on the stream, unless the relay was closed
meanwhile. -/
def startConsumer (r : Relay) (queue : String) (stream : Nat) (b : Broker) :
    Except RelayError Unit × Relay × Broker :=
  if r.closed then
    (.error ⟨.closed, "queue relay closed while joining '" ++ queue ++ "'"⟩, r, b.dropStream stream)
  else (.ok (), { r with consumers := r.consumers ++ [{ queue, stream }] }, b)

/-- The second and the third part of joining. -/
def finishJoin (r : Relay) (queue : String) (b : Broker) : Except RelayError Unit × Relay × Broker :=
  match r.subscribe queue b with
  | (.error e, b') => (.error e, r, b')
  | (.ok none, b') => (.ok (), r, b')
  | (.ok (some stream), b') => r.startConsumer queue stream b'

end Relay

namespace Station

/-- A consumer stops: it does not listen any more, and what it has in hand is lost. -/
def stopConsumer (s : Station) (stream : Nat) (b : Broker) : Station × Broker :=
  ({ relay := s.relay.withoutConsumer stream, mailbox := s.mailbox.forget (.consumer stream) },
    b.dropStream stream)

/-- Several consumers stop. -/
def stopConsumers (s : Station) (streams : List Nat) (b : Broker) : Station × Broker :=
  streams.foldl (fun acc stream => acc.1.stopConsumer stream acc.2) (s, b)

/-- A consumer goes on for the given number of messages at most: it takes one, settles it and posts
what it was.  It stops for good when its stream has ended or its mailbox is gone, and for now when
there is nothing to take or no place to post to. -/
def consume (stream : Nat) : Nat → Station → Broker → Station × Broker
  | 0, s, b => (s, b)
  | n + 1, s, b =>
    match b.poll stream with
    | (.pending, b') => (s, b')
    | (.ended, b') => s.stopConsumer stream b'
    | (.delivery d, b') =>
      let (event, b'') := Relay.settle b' d
      match s.mailbox.offer (.consumer stream) event with
      | .posted m => consume stream n { s with mailbox := m } b''
      | .waits m => ({ s with mailbox := m }, b'')
      | .refused => s.stopConsumer stream b''

/-- The number of messages that a stream holds. -/
def backlog (b : Broker) (stream : Nat) : Nat :=
  (b.streams[stream]?.map (·.buffer.length)).getD 0

/-- Lets one consumer go on until it can do no more. -/
def runConsumer (s : Station) (b : Broker) (c : Consumer) : Station × Broker :=
  if s.mailbox.holds (.consumer c.stream) then (s, b)
  else if c.broken then s.stopConsumer c.stream b
  else consume c.stream (backlog b c.stream + 1) s b

/-- Lets all consumers go on until they can do no more. -/
def runConsumers (s : Station) (b : Broker) : Station × Broker :=
  s.relay.consumers.foldl (fun acc c => acc.1.runConsumer acc.2 c) (s, b)

/-- Lets the consumer of a stream go on, if it has not stopped. -/
def resume (s : Station) (b : Broker) (stream : Nat) : Station × Broker :=
  match s.relay.consumers.find? (·.stream == stream) with
  | some c => s.runConsumer b c
  | none => (s, b)

/-- Throws the mailbox away; consumers that were waiting for a place stop. -/
def discardMailbox (s : Station) (b : Broker) : Station × Broker :=
  let (senders, m) := s.mailbox.discard
  let streams := senders.filterMap fun
    | .consumer stream => some stream
    | .loop | .call _ | .outgoing _ => none
  ({ s with mailbox := m } : Station).stopConsumers streams b

/-- The stream of a consumer breaks. -/
def breakStream (s : Station) (stream : Nat) : Station :=
  { s with relay := { s.relay with
      consumers := s.relay.consumers.map fun c =>
        if c.stream = stream then { c with broken := true } else c } }

/-- The first part of closing: no further join succeeds. -/
def markClosed (s : Station) : Station :=
  { s with relay := { s.relay with closed := true } }

/-- The second part of closing: all consumers stop, and the session ends. -/
def finishClose (link : Link) (s : Station) (b : Broker) :
    Except RelayError Unit × Station × Broker :=
  let (stopped, b₁) := s.stopConsumers (s.relay.consumers.map (·.stream)) b
  let (result, b₂) := link.close s.relay.session b₁
  (result, stopped, b₂)

/-- Closes the relay; a relay that was closed stays so. -/
def close (link : Link) (s : Station) (b : Broker) : Except RelayError Unit × Station × Broker :=
  if s.relay.closed then (.ok (), s, b)
  else s.markClosed.finishClose link b

end Station

end MessageRelay
