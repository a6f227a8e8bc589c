import MessageRelay.Exchange.Standalone

/-!
# How a node comes up

A node brings up what its settings ask for, one after the other: its server, the connection to its
peer, the channel to its broker and the queue on it.  What fails first is why the node does not come
up.

What the system does with an address, whether a peer can be reached and what a broker on the network
says is not part of this program.  Here it may be anything.
-/

namespace MessageRelay.Startup

/-- What comes of one try to get a channel to a broker on the network. -/
inductive Contact where
  /-- There is a channel. -/
  | channel
  /-- There is a connection, but no channel on it, for the given reason. -/
  | noChannel (reason : String)
  /-- There is no connection, for the given reason. -/
  | noConnection (reason : String)
  /-- There is no connection in time. -/
  | late
  /-- There is a connection, and no word about a channel in time. -/
  | silent
  deriving DecidableEq, Repr

/-- What a node meets outside of this program.  Tries to reach somebody are counted from 0. -/
structure Outside extends Direct.Outlook where
  /-- What comes of a try to reach the broker at a URI. -/
  broker : String → Nat → Contact
  /-- Whether the broker declares a queue, or why not. -/
  declare : String → Except String Unit
  /-- Whether the broker lets a queue be consumed, or why not. -/
  consume : String → AckMode → Except String Unit

variable (outside : Outside)

/-! ## The queue relay -/

/-- What a try to reach a broker on the network comes to. -/
def attempt (config : QueueConfig) (tried : Nat) : Attempt :=
  let shown := BrokerUri.redact config.brokerUri
  let bound := Duration.display config.timeouts.connectMs.toNat
  let unreachable (reason : String) : Attempt :=
    .unreachable (RelayError.message ⟨.brokerUnavailable, reason⟩)
  match outside.broker config.brokerUri tried with
  | .channel => .connected 0
  | .noChannel reason => .noChannel (Broker.channelError ("cannot open channel: " ++ reason))
  | .noConnection reason => unreachable ("cannot connect to " ++ shown ++ ": " ++ reason)
  | .late => unreachable ("connect to " ++ shown ++ " timed out after " ++ bound)
  | .silent => .unreachable ("connect timed out after " ++ bound)

/-- Tries to reach a broker on the network up to `left` times; `last` is why the try before
failed. -/
def reach (config : QueueConfig) : Nat → Nat → String → Except RelayError Unit
  | 0, _, last =>
    .error ⟨.brokerUnavailable, BrokerUri.redact config.brokerUri ++ " unreachable after " ++
      toString config.connectAttempts.toNat ++ " attempt(s): " ++ last⟩
  | left + 1, tried, _ =>
    match attempt outside config tried with
    | .connected _ => .ok ()
    | .noChannel e => .error e
    | .unreachable reason => reach config left (tried + 1) reason

/-- Lets a relay join a queue of a broker on the network. -/
def join (relay : Relay) (queue : String) : Except RelayError Unit :=
  if relay.closed then .error (Relay.closedError "join")
  else
    match QueueName.validate queue with
    | .error e => .error e
    | .ok () =>
      match outside.declare queue with
      | .error reason =>
        .error (Broker.channelError ("queue_declare '" ++ queue ++ "' failed: " ++ reason))
      | .ok () =>
        if relay.hasJoined queue then .ok ()
        else
          match outside.consume queue relay.config.ackMode with
          | .error reason =>
            .error (Broker.channelError ("basic_consume '" ++ queue ++ "' failed: " ++ reason))
          | .ok () => .ok ()

/-- Brings up a queue relay at a broker on the network. -/
def remoteQueue (config : QueueConfig) : Except RelayError Unit := do
  config.validate
  reach outside config config.connectAttempts.toNat 0 ""
  join outside { session := 0, config } config.queueName

/-- Brings up a queue relay at a broker of its own, inside this program. -/
def ownQueue (config : QueueConfig) : Except RelayError Unit :=
  match ({} : Exchange).openSession config with
  | (.error e, _) => .error e
  | (.ok session, x) => (x.bringUp { session, config } [.queue]).1.map fun _ => ()

/-- Brings up a queue relay at a broker of the given kind. -/
def queue (config : QueueConfig) : BrokerKind → Except RelayError Unit
  | .memory => ownQueue config
  | .amqp => remoteQueue outside config

/-! ## The node -/

/-- The kind of broker that the settings name, if they ask for one. -/
def brokerKind (config : NodeConfig) : Except RelayError (Option BrokerKind) :=
  match config.queue with
  | none => .ok none
  | some queue => (BrokerUri.choose queue.brokerUri).map fun broker => some broker.1

/-- Brings up the direct relay that the settings ask for, if they do; the address that it listens on
is given. -/
def directPart (config : NodeConfig) : Except RelayError (Option SocketAddress) :=
  match config.direct with
  | none => .ok none
  | some settings => (Direct.bringUp outside.toOutlook settings).1.map some

/-- Brings up the queue relay that the settings ask for, if they do. -/
def queuePart (config : NodeConfig) (kind : Option BrokerKind) : Except RelayError Unit :=
  match config.queue, kind with
  | none, _ => .ok ()
  | some _, none => .error (.config "queue relay configured without a broker")
  | some settings, some kind => queue outside settings kind

/-- Brings up what the settings ask for, with a broker of the given kind. -/
def transports (config : NodeConfig) (kind : Option BrokerKind) :
    Except RelayError (Option SocketAddress) := do
  let address ← directPart outside config
  queuePart outside config kind
  return address

/-- Brings up a node. -/
def node (config : NodeConfig) : Except RelayError (Option SocketAddress) := do
  let kind ← brokerKind config
  config.validate
  transports outside config kind

/-! ## Without a network -/

/-- Where there is no network: addresses of this machine can be listened on, and nobody can be
reached. -/
def offline : Outside where
  toOutlook := Direct.offline
  broker uri _ := .noConnection <| "IO error: " ++
    match BrokerAddress.parse uri with
    | .error fault => fault.describe
    | .ok address => Remote.unreachable address.host
  declare _ := .ok ()
  consume _ _ := .ok ()

end MessageRelay.Startup
