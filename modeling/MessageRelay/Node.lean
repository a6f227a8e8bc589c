import MessageRelay.Config.Node
import MessageRelay.Direct.Relay
import MessageRelay.Node.Command
import MessageRelay.Relay

/-!
# Nodes

A node drives a queue relay, and a direct relay if it has one, from a list of commands.  Commands are
put there without waiting; when there are too many of them, or the node has stopped, a message is
refused and the refusal reported for every transport.  Once the node has been started its command loop
takes the commands one by one.  It leaves a message to the direct relay, and publishes it.  A message
may be on its way to the broker for a while, in which the loop does nothing else.  One that cannot be
published is reported as well, and there the loop may have to wait for a place in the mailbox.

The loop ends on command, or on a signal.  Then the relays are released and the commands that are left
are forgotten.
-/

namespace MessageRelay

/-- Where a node is in its life. -/
inductive NodeState where
  /-- The relays are up, the loop not started. -/
  | initializing
  /-- The loop was started. -/
  | running
  /-- The node was told to shut down. -/
  | shuttingDown
  deriving DecidableEq, Repr

/-- The name of a state. -/
def NodeState.display : NodeState → String
  | initializing => "initializing"
  | running => "running"
  | shuttingDown => "shutting_down"

/-- Where the command loop of a node is. -/
inductive LoopPhase where
  /-- It has not been started. -/
  | unstarted
  /-- It takes commands. -/
  | running
  /-- It has ended, or will never start. -/
  | exited
  deriving DecidableEq, Repr

/-- What a node says about itself. -/
structure NodeStatus where
  /-- Where the node is in its life. -/
  state : NodeState := .running
  /-- The address that it listens on, if it listens for peers. -/
  listenAddress : Option SocketAddress := none
  /-- The endpoint of its peer, if it has one. -/
  peerEndpoint : Option String := none
  /-- The queue that is used. -/
  queueName : String
  /-- When a message is settled. -/
  ackMode : AckMode
  /-- How many messages the loop has dealt with. -/
  sent : Nat
  deriving DecidableEq, Repr

/-- A message on its way to the broker. -/
structure Publication where
  /-- The message. -/
  payload : Bytes
  /-- The time at which it arrives or is given up. -/
  due : Nat
  deriving DecidableEq, Repr

/-- A node with a queue relay. -/
structure Node where
  /-- The queue relay and the mailbox of the node. -/
  station : Station
  /-- The direct relay, if there is one; it shares the mailbox. -/
  direct : Option DirectRelay := none
  /-- The transports of the node. -/
  transports : List Transport
  /-- Where the node is in its life. -/
  state : NodeState := .initializing
  /-- Where its loop is. -/
  phase : LoopPhase := .unstarted
  /-- Whether the loop was given the signal to end. -/
  signalled : Bool := false
  /-- The commands that wait for the loop, oldest first. -/
  commands : List NodeCommand := []
  /-- The message that the loop has on its way. -/
  publication : Option Publication := none
  /-- What the loop has answered to the last question about the node. -/
  answer : Option NodeStatus := none
  /-- How many messages the loop has dealt with. -/
  sent : Nat := 0
  /-- Whether the user has taken the mailbox. -/
  taken : Bool := false
  /-- Whether the node was dropped; its loop may still be there. -/
  dropped : Bool := false
  deriving DecidableEq

namespace Node

/-- The most commands that can wait. -/
def maxCommands : Nat := 256

/-- The number of places in the mailbox of a node. -/
def maxEvents : Nat := 1024

/-- Whether the loop waits for a place in the mailbox. -/
def isBlocked (n : Node) : Bool :=
  n.station.mailbox.holds .loop

/-- Whether the loop can take a command. -/
def canRun (n : Node) : Bool :=
  decide (n.phase = .running) && !n.isBlocked && n.publication.isNone

/-- Whether the loop has ended. -/
def hasExited (n : Node) : Bool :=
  decide (n.phase = .exited)

/-- Whether there is room for a command. -/
def hasRoom (n : Node) : Bool :=
  decide (n.commands.length < maxCommands)

/-! ## Asking -/

/-- Why a command is not accepted. -/
def refusal? (n : Node) : Option String :=
  if n.hasExited then some "node stopped"
  else if n.hasRoom then none
  else some "node busy: command queue full"

/-- Reports a message that was not accepted, for every transport. -/
def reportRefused (n : Node) (reason : String) : Node :=
  { n with station := { n.station with
      mailbox := n.transports.foldl (fun m t => m.tryPost (.sendFailed t reason))
        n.station.mailbox } }

/-- Accepts a command. -/
def enqueue (n : Node) (c : NodeCommand) : Node :=
  { n with commands := n.commands ++ [c] }

/-- Asks for a message to be sent. -/
def sendMessage (n : Node) (user text : String) : Node :=
  match n.refusal? with
  | some reason => n.reportRefused reason
  | none => n.enqueue (.send user text)

/-- Asks for something without waiting; says whether the command was accepted. -/
def request (n : Node) (c : NodeCommand) : Bool × Node :=
  match n.refusal? with
  | some _ => (false, n)
  | none => (true, n.enqueue c)

/-- Asks for several things, one right after the other; says which of the requests were accepted. -/
def burst (n : Node) : List NodeCall → List Bool × Node
  | [] => ([], n)
  | .send user text :: rest => (n.sendMessage user text).burst rest
  | .request c :: rest =>
    let (accepted, asked) := n.request c
    let (others, final) := asked.burst rest
    (accepted :: others, final)

/-- What the node says about itself when it is asked. -/
def status (n : Node) : NodeStatus where
  state := .running
  listenAddress := n.direct.map (·.address)
  peerEndpoint := n.direct.map (·.client.endpoint)
  queueName := n.station.relay.config.queueName
  ackMode := n.station.relay.config.ackMode
  sent := n.sent

/-! ## The direct relay -/

/-- The direct relay and the mailbox become others. -/
def withDirect (n : Node) (changed : DirectRelay × Mailbox) : Node :=
  { n with direct := some changed.1, station := { n.station with mailbox := changed.2 } }

/-- Lets the direct relay do something with the mailbox. -/
def onDirect (n : Node) (f : DirectRelay → Mailbox → DirectRelay × Mailbox) : Node :=
  match n.direct with
  | none => n
  | some d => n.withDirect (f d n.station.mailbox)

/-- The direct relay begins to send what it was asked to. -/
def beginTasks (n : Node) : Node :=
  n.onDirect DirectRelay.beginTasks

/-- The peer answers a call. -/
def peerAnswers (n : Node) (task : Nat) (outcome : Except Direct.Status Unit) : Node :=
  n.onDirect fun d m => d.answer m task outcome

/-- A peer calls.  Says whether there is a server that has the call. -/
def peerCalls (n : Node) (user text : String) : Bool × Node :=
  (n.direct.any fun d => (d.accept n.station.mailbox user text).1,
    n.onDirect fun d m => (d.accept m user text).2)

/-- The direct relay is released. -/
def hangUp (n : Node) : Node :=
  n.onDirect DirectRelay.release

/-! ## The loop -/

/-- The queue relay is closed, and the commands that are left are forgotten. -/
def exit (link : Link) (n : Node) (b : Broker) : Node × Broker :=
  let (_, station, b') := n.station.close link b
  ({ n with station, phase := .exited, commands := [] }, b')

/-- The loop ends: the relays are released, one after the other. -/
def leave (link : Link) (n : Node) (b : Broker) : Node × Broker :=
  n.hangUp.exit link b

/-- Takes in how a publication ended.  A failure is reported, for which the loop may have to wait. -/
def conclude (n : Node) : Except RelayError Unit → Node
  | .ok () => n
  | .error e =>
    match n.station.mailbox.offer .loop (.sendFailed .queue e.message) with
    | .posted m | .waits m => { n with station := { n.station with mailbox := m } }
    | .refused => n

/-- The message that is on its way arrives, or is given up. -/
def arrive (link : Link) (n : Node) (b : Broker) : Node × Broker :=
  match n.publication with
  | none => (n, b)
  | some p =>
    let relay := n.station.relay
    let (result, b') := relay.arrive link relay.config.queueName p.payload b
    (({ n with publication := none } : Node).conclude result, b')

/-- Counts a message and leaves it to the direct relay. -/
def count (n : Node) (user text : String) : Node :=
  { n with sent := n.sent + 1, direct := n.direct.map (·.send user text) }

/-- A message is on its way. -/
def sending (n : Node) (p : Publication) : Node :=
  { n with publication := some p }

/-- Publishes a message.  If that takes time, the message is on its way when this is done. -/
def deliver (link : Link) (now : Nat) (n : Node) (user text : String) (b : Broker) : Node × Broker :=
  let relay := n.station.relay
  let counted := n.count user text
  match relay.payloadOf user text with
  | .error e => (counted.conclude (.error e), b)
  | .ok payload =>
    let delay := relay.publishDelay link
    let begun := counted.sending { payload, due := now + delay }
    if delay = 0 then begun.arrive link b else (begun, b)

/-- Does what a command asks for. -/
def handle (link : Link) (now : Nat) (n : Node) (b : Broker) : NodeCommand → Node × Broker
  | .send user text => n.deliver link now user text b
  | .status => ({ n with answer := some n.status }, b)
  | .shutdown => n.leave link b

/-- The loop takes its next step: it ends if it was told to, else it takes a command. -/
def stepLoop (link : Link) (now : Nat) (n : Node) (b : Broker) : Node × Broker :=
  if !n.canRun then (n, b)
  else if n.signalled then n.leave link b
  else
    match n.commands with
    | [] => (n, b)
    | c :: rest => ({ n with commands := rest } : Node).handle link now b c

/-! ## The life of a node -/

/-- The failure of a start that comes too late. -/
def startError (state : NodeState) : RelayError :=
  .config ("cannot start node in state '" ++ state.display ++ "'; expected 'initializing'")

/-- The failure of a start when there is nothing left to start. -/
def consumedError : RelayError :=
  .config "runtime already consumed (double start?)"

/-- Starts the loop. -/
def start (n : Node) : Except RelayError Node :=
  if n.state ≠ .initializing then .error (startError n.state)
  else if n.phase ≠ .unstarted then .error consumedError
  else .ok { n with state := .running, phase := .running }

/-- Tells the loop to end; a loop that was not started never will be, and the relays are released right
away. -/
def signal (link : Link) (n : Node) (b : Broker) : Node × Broker :=
  match n.phase with
  | .unstarted => n.leave link b
  | .running => ({ n with signalled := true }, b)
  | .exited => (n, b)

/-- Shuts the node down. -/
def shutdown (link : Link) (n : Node) (b : Broker) : Node × Broker :=
  if n.state = .shuttingDown then (n, b)
  else ({ n with state := .shuttingDown } : Node).signal link b

/-- Throws the mailbox away.  A loop that was waiting for a place goes on. -/
def discardMailbox (n : Node) (b : Broker) : Node × Broker :=
  let (station, b') := n.station.discardMailbox b
  ({ n with station }, b')

/-- Drops the node, and with it the mailbox if nobody has taken it. -/
def drop (link : Link) (n : Node) (b : Broker) : Node × Broker :=
  let (kept, b₁) := if n.taken then (n, b) else n.discardMailbox b
  ({ kept with dropped := true } : Node).signal link b₁

end Node

end MessageRelay
