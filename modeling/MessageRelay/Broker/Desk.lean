import MessageRelay.Broker

/-!
# Runs of a broker

Everything that can be done with a broker, as commands with answers, so that a run is a list of
commands.  Some are done from outside of any session; the others belong to a client, who also keeps
the deliveries that were taken and not yet settled.
-/

namespace MessageRelay

namespace Broker

/-- What can be done from outside of any session. -/
inductive Control where
  /-- Bring a message to a queue. -/
  | inject (queue : String) (payload : Bytes)
  /-- Count what is in a queue. -/
  | stats (queue : String)
  /-- Count the open sessions. -/
  | openSessions
  /-- Let the next connections be refused. -/
  | refuseConnects (n : Nat)
  /-- Let the next connection have no channel. -/
  | refuseChannel
  deriving DecidableEq, Repr

/-- The answer to a control. -/
inductive ControlAnswer where
  /-- It is done. -/
  | done
  /-- The counts of a queue, if it was declared. -/
  | stats (counts : Option QueueStats)
  /-- A number. -/
  | count (n : Nat)
  deriving DecidableEq, Repr

/-- Does what was asked from outside of any session. -/
def control (b : Broker) : Control → ControlAnswer × Broker
  | .inject queue payload => (.done, b.route queue payload)
  | .stats queue =>
    let (counts, b') := b.stats queue
    (.stats counts, b')
  | .openSessions => (.count b.openSessions, b)
  | .refuseConnects n => (.done, b.refuseConnects n)
  | .refuseChannel => (.done, b.refuseChannel)

end Broker

/-- A broker, and the deliveries that were taken from its streams, in that order; one that was
settled is gone. -/
structure Desk where
  /-- The broker. -/
  broker : Broker := {}
  /-- The deliveries. -/
  deliveries : List (Option Delivery) := []
  deriving DecidableEq, Repr

namespace Desk

/-- What a client can ask for. -/
inductive Command where
  /-- Make a connection. -/
  | connect
  /-- Declare a queue. -/
  | declare (session : Nat) (queue : String)
  /-- Subscribe to a queue. -/
  | consume (session : Nat) (queue : String) (mode : AckMode)
  /-- Publish a message. -/
  | publish (session : Nat) (queue : String) (payload : Bytes)
  /-- End a session. -/
  | close (session : Nat)
  /-- Take the oldest message from a stream. -/
  | next (stream : Nat)
  /-- Settle a delivery. -/
  | settle (verdict : Verdict) (delivery : Nat)
  /-- Stop listening to a stream. -/
  | dropStream (stream : Nat)
  /-- Something that needs no session. -/
  | control (c : Broker.Control)
  deriving DecidableEq, Repr

/-- What a client is answered. -/
inductive Answer where
  /-- It is done. -/
  | done
  /-- The number of a new session. -/
  | session (n : Nat)
  /-- The number of a new stream. -/
  | stream (n : Nat)
  /-- Nothing is in the stream yet. -/
  | pending
  /-- Nothing will come through the stream any more. -/
  | ended
  /-- A delivery and its number. -/
  | delivery (n : Nat) (d : Delivery)
  /-- The answer to something that needs no session. -/
  | control (a : Broker.ControlAnswer)
  /-- It failed. -/
  | failed (e : RelayError)
  /-- There is no such delivery, or it was settled. -/
  | unknownDelivery
  deriving DecidableEq, Repr

/-- The answer of an operation that gives nothing but may fail. -/
def Answer.ofUnit : Except RelayError Unit → Answer
  | .ok () => done
  | .error e => failed e

/-- Does what a client asks for. -/
def step (desk : Desk) : Command → Answer × Desk
  | .connect =>
    match desk.broker.connect with
    | (.ok session, b) => (.session session, { desk with broker := b })
    | (.error e, b) => (.failed e, { desk with broker := b })
  | .declare session queue =>
    let (r, b) := desk.broker.declare session queue
    (.ofUnit r, { desk with broker := b })
  | .consume session queue mode =>
    match desk.broker.consume session queue mode with
    | (.ok stream, b) => (.stream stream, { desk with broker := b })
    | (.error e, b) => (.failed e, { desk with broker := b })
  | .publish session queue payload =>
    let (r, b) := desk.broker.publish session queue payload
    (.ofUnit r, { desk with broker := b })
  | .close session => (.done, { desk with broker := desk.broker.close session })
  | .next stream =>
    match desk.broker.poll stream with
    | (.pending, b) => (.pending, { desk with broker := b })
    | (.ended, b) => (.ended, { desk with broker := b })
    | (.delivery d, b) =>
      (.delivery desk.deliveries.length d,
        { broker := b, deliveries := desk.deliveries ++ [some d] })
  | .settle verdict n =>
    match desk.deliveries[n]? with
    | some (some d) =>
      let (r, b) := desk.broker.settle verdict d
      (.ofUnit r, { broker := b, deliveries := desk.deliveries.set n none })
    | _ => (.unknownDelivery, desk)
  | .dropStream stream => (.done, { desk with broker := desk.broker.dropStream stream })
  | .control c =>
    let (a, b) := desk.broker.control c
    (.control a, { desk with broker := b })

/-- Does everything that a client asks for, in order. -/
def run (desk : Desk) : List Command → List Answer × Desk
  | [] => ([], desk)
  | c :: rest =>
    let (a, desk') := desk.step c
    let (as, final) := desk'.run rest
    (a :: as, final)

end Desk

end MessageRelay
