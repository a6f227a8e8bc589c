import MessageRelay.Config.File

/-!
# The settings of a session

The settings of a session come from a configuration file and from the command line, which wins field
by field.  A relay is configured when the file has a section for it or the command line names
something that only it needs.
-/

namespace MessageRelay

/-- What the command line gives. -/
structure Overrides where
  /-- The display name of the user. -/
  user : Option String := none
  /-- The port to listen on. -/
  listenPort : Option UInt16 := none
  /-- The peer, as a host and a port or as an endpoint. -/
  peer : Option String := none
  /-- The URI of the broker. -/
  broker : Option String := none
  /-- The name of the queue. -/
  queue : Option String := none
  /-- When a message is settled. -/
  ackMode : Option AckMode := none
  /-- How often a connection is tried. -/
  connectAttempts : Option UInt32 := none
  /-- The bound for making a connection. -/
  connectTimeoutMs : Option UInt64 := none
  /-- The bound for a single call. -/
  requestTimeoutMs : Option UInt64 := none
  deriving DecidableEq, Repr

namespace Overrides

/-- Whether something is given that only a direct relay needs. -/
def enablesDirect (o : Overrides) : Bool :=
  o.listenPort.isSome || o.peer.isSome

/-- Whether something is given that only a queue relay needs. -/
def enablesQueue (o : Overrides) : Bool :=
  o.broker.isSome || o.queue.isSome || o.ackMode.isSome

/-- Timeouts with what the command line gives. -/
def mergeTimeouts (o : Overrides) (t : Timeouts) : Timeouts where
  connectMs := o.connectTimeoutMs.getD t.connectMs
  requestMs := o.requestTimeoutMs.getD t.requestMs

/-- The settings of a queue relay with what the command line gives. -/
def mergeQueue (o : Overrides) (c : QueueConfig) : QueueConfig where
  brokerUri := o.broker.getD c.brokerUri
  queueName := o.queue.getD c.queueName
  ackMode := o.ackMode.getD c.ackMode
  connectAttempts := o.connectAttempts.getD c.connectAttempts
  retryDelayMs := c.retryDelayMs
  timeouts := o.mergeTimeouts c.timeouts

/-- The endpoint of the peer with what the command line gives. -/
def mergePeer (o : Overrides) (endpoint : String) : Except String String :=
  match o.peer with
  | none => .ok endpoint
  | some peer =>
    match Peer.parse peer with
    | .ok parsed => .ok parsed
    | .error fault => .error (fault.message peer)

/-- The settings of a direct relay with what the command line gives. -/
def mergeDirect (o : Overrides) (c : DirectConfig) : Except String DirectConfig :=
  match o.mergePeer c.peerEndpoint with
  | .error message => .error message
  | .ok peerEndpoint =>
    .ok {
      listenAddress := (o.listenPort.map SocketAddress.anywhere).getD c.listenAddress
      peerEndpoint
      connectAttempts := o.connectAttempts.getD c.connectAttempts
      retryDelayMs := c.retryDelayMs
      timeouts := o.mergeTimeouts c.timeouts }

/-- The section of a direct relay, if one is configured. -/
def directSection (o : Overrides) (section? : Option DirectConfig) :
    Except String (Option DirectConfig) :=
  match section? with
  | some c => (o.mergeDirect c).map some
  | none => if o.enablesDirect then (o.mergeDirect {}).map some else .ok none

/-- The section of a queue relay, if one is configured. -/
def queueSection (o : Overrides) (section? : Option QueueConfig) : Option QueueConfig :=
  match section? with
  | some c => some (o.mergeQueue c)
  | none => if o.enablesQueue then some (o.mergeQueue {}) else none

end Overrides

/-- The settings of a session. -/
structure ChatConfig where
  /-- The display name of the user. -/
  user : String
  /-- The settings of the node. -/
  node : NodeConfig
  deriving DecidableEq, Repr

namespace ChatConfig

/-- The name of a user of whom nothing is known. -/
def defaultUser : String := "anonymous"

/-- The display name: from the command line, the file or the environment, the first that is given,
unless it is blank. -/
def resolveUser (file : ConfigFile) (o : Overrides) (loginName : Option String) : String :=
  match (o.user.or file.user).or loginName with
  | some name => if Text.isBlank name then defaultUser else name
  | none => defaultUser

/-- The settings of a session, or what is wrong with them. -/
def resolve (file : ConfigFile) (o : Overrides) (loginName : Option String) :
    Except String ChatConfig :=
  match o.directSection file.direct with
  | .error message => .error message
  | .ok direct =>
    let node : NodeConfig := { direct, queue := o.queueSection file.queue }
    if node.direct.isNone && node.queue.isNone then
      .error "nothing to relay: pass --peer and/or --broker, or a --config file"
    else
      match node.validate with
      | .error e => .error e.message
      | .ok () => .ok { user := resolveUser file o loginName, node }

end ChatConfig

end MessageRelay
