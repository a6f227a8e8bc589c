import MessageRelay.Broker
import MessageRelay.Config.Duration
import MessageRelay.Config.Queue

/-!
# The way to the broker

How long the broker takes to answer, what it is called, and what it refuses.  A call that takes
longer than its bound never reaches the broker; one that takes exactly as long does.

A relay tries to connect several times, with a pause in between.  It gives up at once when there is
a connection but no channel.
-/

namespace MessageRelay

/-- The way to a broker. -/
structure Link where
  /-- How long making a connection takes, in milliseconds. -/
  connectMs : Nat := 0
  /-- How long publishing takes. -/
  publishMs : Nat := 0
  /-- How long subscribing takes. -/
  consumeMs : Nat := 0
  /-- What the broker is called. -/
  name : String := "memory://"
  /-- The reason for which every declaration is refused. -/
  declareError : Option String := none
  /-- The reason that ending a session reports after it has ended it. -/
  closeError : Option String := none
  deriving DecidableEq, Repr

/-- What comes of one try to connect. -/
inductive Attempt where
  /-- There is a session. -/
  | connected (session : Nat)
  /-- There is a connection but no channel. -/
  | noChannel (e : RelayError)
  /-- There is no connection, for the given reason. -/
  | unreachable (reason : String)
  deriving DecidableEq, Repr

namespace Link

/-- One try to connect, with the time that it took. -/
def attempt (link : Link) (timeouts : Timeouts) (b : Broker) : Attempt × Nat × Broker :=
  let bound := timeouts.connectMs.toNat
  if bound < link.connectMs then
    (.unreachable ("connect timed out after " ++ Duration.display bound), bound, b)
  else
    match b.connect with
    | (.ok session, b') => (.connected session, link.connectMs, b')
    | (.error e, b') =>
      if e.kind = .channelError then (.noChannel e, link.connectMs, b')
      else (.unreachable e.message, link.connectMs, b')

/-- Tries to connect up to `left` times; `last` is why the try before failed, and `spent` the time
that has passed. -/
def retry (link : Link) (config : QueueConfig) :
    Nat → String → Nat → Broker → Except RelayError Nat × Nat × Broker
  | 0, last, spent, b =>
    (.error ⟨.brokerUnavailable, link.name ++ " unreachable after " ++
      toString config.connectAttempts.toNat ++ " attempt(s): " ++ last⟩, spent, b)
  | left + 1, _, spent, b =>
    match link.attempt config.timeouts b with
    | (.connected session, ms, b') => (.ok session, spent + ms, b')
    | (.noChannel e, ms, b') => (.error e, spent + ms, b')
    | (.unreachable reason, ms, b') =>
      let pause := if left = 0 then 0 else config.retryDelayMs.toNat
      link.retry config left reason (spent + ms + pause) b'

/-- Connects as the settings say, which have to make sense.  Also gives the time that it took. -/
def connect (link : Link) (config : QueueConfig) (b : Broker) :
    Except RelayError Nat × Nat × Broker :=
  match config.validate with
  | .error e => (.error e, 0, b)
  | .ok () => link.retry config config.connectAttempts.toNat "" 0 b

/-- Declares a queue. -/
def declare (link : Link) (session : Nat) (queue : String) (b : Broker) :
    Except RelayError Unit × Broker :=
  match link.declareError with
  | some reason => (.error ⟨.channelError, reason⟩, b)
  | none => b.declare session queue

/-- Ends a session, and says what the broker reports. -/
def close (link : Link) (session : Nat) (b : Broker) : Except RelayError Unit × Broker :=
  match link.closeError with
  | some reason => (.error ⟨.channelError, reason⟩, b.close session)
  | none => (.ok (), b.close session)

end Link

end MessageRelay
