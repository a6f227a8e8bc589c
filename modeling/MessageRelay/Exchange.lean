import MessageRelay.Broker.Desk
import MessageRelay.Node

/-!
# Exchanges

An exchange is one broker together with all relays and nodes that use it.  It answers commands one
at a time, and after each of them everything that can go on does so until nothing can: those who
were given a place in a mailbox use it, messages that are due arrive, command loops take their
commands, direct relays begin to send what the loops have left to them, and consumers take what is in
their streams.

Time passes only while somebody waits for an answer.  It then goes on to the moment at which the next
message is due, as often as it takes; in between everything goes on as far as it can.

What a node with a direct relay meets on the network is given when it is brought up.  Peers call, and
answer calls, between commands.
-/

namespace MessageRelay

/-- A relay of an exchange. -/
structure Member where
  /-- The relay and its mailbox. -/
  station : Station
  /-- Whether the relay was dropped; its mailbox can still be emptied. -/
  dropped : Bool := false
  deriving DecidableEq

/-- A broker and everybody who uses it.  Relays and nodes are numbered in the order in which they
come up. -/
structure Exchange where
  /-- The broker. -/
  broker : Broker := {}
  /-- The way to the broker. -/
  link : Link := {}
  /-- The relays. -/
  relays : List Member := []
  /-- The nodes. -/
  nodes : List Node := []
  /-- The numbers of the nodes that have a message on its way, in the order in which they went. -/
  underway : List Nat := []
  /-- The number of milliseconds that have passed. -/
  clock : Nat := 0
  deriving DecidableEq

/-- Who has a mailbox. -/
inductive Seat where
  /-- The relay with the given number. -/
  | relay (n : Nat)
  /-- The node with the given number. -/
  | node (n : Nat)
  deriving DecidableEq, Repr

namespace Exchange

/-! ## Places -/

/-- The station at a seat. -/
def station? (x : Exchange) : Seat → Option Station
  | .relay n => x.relays[n]?.map (·.station)
  | .node n => x.nodes[n]?.map (·.station)

/-- Puts a station at a seat. -/
def setStation (x : Exchange) (seat : Seat) (s : Station) : Exchange :=
  match seat with
  | .relay n => { x with relays := x.relays.modify n fun m => { m with station := s } }
  | .node n => { x with nodes := x.nodes.modify n fun m => { m with station := s } }

/-- Lets a station and the broker do something. -/
def onStation (x : Exchange) (seat : Seat) (f : Station → Broker → Station × Broker) : Exchange :=
  match x.station? seat with
  | none => x
  | some s =>
    let (s', b') := f s x.broker
    ({ x with broker := b' } : Exchange).setStation seat s'

/-- Lets a node and the broker do something. -/
def onNode (x : Exchange) (n : Nat) (f : Node → Broker → Node × Broker) : Exchange :=
  match x.nodes[n]? with
  | none => x
  | some node =>
    let (node', b') := f node x.broker
    { x with broker := b', nodes := x.nodes.set n node' }

/-- All seats. -/
def seats (x : Exchange) : List Seat :=
  (List.range x.relays.length).map .relay ++ (List.range x.nodes.length).map .node

/-! ## Going on -/

/-- All consumers go on until they can do no more. -/
def runConsumers (x : Exchange) : Exchange :=
  x.seats.foldl (fun x seat => x.onStation seat Station.runConsumers) x

/-- Takes note that a node has a message on its way, if it has one. -/
def noteUnderway (x : Exchange) (n : Nat) : Exchange :=
  if x.nodes[n]?.any (·.publication.isSome) && !x.underway.contains n then
    { x with underway := x.underway ++ [n] }
  else x

/-- The loop of a node goes on for the given number of steps at most. -/
def runLoop (n : Nat) : Nat → Exchange → Exchange
  | 0, x => x
  | steps + 1, x => (x.onNode n (Node.stepLoop x.link x.clock)).runLoop n steps

/-- The loop of a node goes on until it can do no more. -/
def finishLoop (x : Exchange) (n : Nat) : Exchange :=
  match x.nodes[n]? with
  | none => x
  | some node => (x.runLoop n (node.commands.length + 1)).noteUnderway n

/-- The time at which the message of a node arrives. -/
def dueOf (x : Exchange) (n : Nat) : Option Nat :=
  x.nodes[n]?.bind fun node => node.publication.map (·.due)

/-- The message of a node arrives if it is due, and the loop goes on. -/
def arriveAt (x : Exchange) (n : Nat) : Exchange :=
  if (x.dueOf n).any (· ≤ x.clock) then
    let arrived := x.onNode n (Node.arrive x.link)
    ({ arrived with underway := arrived.underway.filter (· != n) } : Exchange).finishLoop n
  else x

/-- Those who were given a place in a mailbox use it, one after the other, and go on; `count` is how
many of them there are. -/
def useGrants (seat : Seat) : Nat → Exchange → Exchange
  | 0, x => x
  | count + 1, x =>
    match x.station? seat with
    | none => x
    | some s =>
      match s.mailbox.useGrant with
      | none => x
      | some (sender, m) =>
        let posted := x.setStation seat { s with mailbox := m }
        let resumed := match sender, seat with
          | .consumer stream, _ => posted.onStation seat fun s b => s.resume b stream
          | .loop, .node n => posted.finishLoop n
          | .loop, .relay _ | .call _, _ | .outgoing _, _ => posted
        resumed.useGrants seat count

/-- Those at a seat who were given a place go on. -/
def resumeSeat (x : Exchange) (seat : Seat) : Exchange :=
  match x.station? seat with
  | none => x
  | some s => x.useGrants seat s.mailbox.granted.length

/-- The direct relay of a node begins to send what it was asked to. -/
def beginTasksAt (x : Exchange) (n : Nat) : Exchange :=
  x.onNode n fun node b => (node.beginTasks, b)

/-- All direct relays begin to send what they were asked to. -/
def beginTasks (x : Exchange) : Exchange :=
  (List.range x.nodes.length).foldl beginTasksAt x

/-- Everything goes on until nothing can but with time. -/
def quiesce (x : Exchange) : Exchange :=
  let resumed := x.seats.foldl resumeSeat x
  let arrived := resumed.underway.foldl arriveAt resumed
  let looped := (List.range arrived.nodes.length).foldl finishLoop arrived
  looped.beginTasks.runConsumers

/-! ## Time -/

/-- The time at which the next message arrives. -/
def nextDue? (x : Exchange) : Option Nat :=
  (x.underway.filterMap x.dueOf).min?

/-- The number of messages that are, or may yet be, on their way. -/
def pendingCount (x : Exchange) : Nat :=
  x.nodes.foldl (fun count n => count + (n.commands.length + 1)) 0

/-- Time goes on, from one message to the next, until somebody has what he waits for, or there is
nothing more to wait for. -/
def waitFor (done : Exchange → Bool) : Nat → Exchange → Exchange
  | 0, x => x
  | fuel + 1, x =>
    if done x then x
    else
      match x.nextDue? with
      | none => x
      | some due => waitFor done fuel ({ x with clock := max x.clock due } : Exchange).quiesce

/-- Everything goes on, and time with it, until somebody has what he waits for.  Each time one message
at least arrives, so it does not take more times than there are messages. -/
def wait (x : Exchange) (done : Exchange → Bool) : Exchange :=
  let rested := x.quiesce
  waitFor done (rested.pendingCount + 1) rested

/-- Time passes; what is due in the meantime happens. -/
def pass (x : Exchange) (ms : Nat) : Exchange :=
  if ms = 0 then x
  else
    let passed := x.wait fun x' => x'.nextDue?.all (x.clock + ms ≤ ·)
    { passed with clock := x.clock + ms }

/-! ## Relays -/

/-- Makes a connection, for as long as it takes. -/
def openSession (x : Exchange) (config : QueueConfig) : Except RelayError Nat × Exchange :=
  let (result, ms, broker) := x.link.connect config x.broker
  (result, ({ x with broker } : Exchange).pass ms)

/-- Connects a relay with a mailbox of the given size. -/
def connect (x : Exchange) (config : QueueConfig) (capacity : Nat) :
    Except RelayError Nat × Exchange :=
  match x.openSession config with
  | (.error e, x') => (.error e, x')
  | (.ok session, x') =>
    let station : Station := { relay := { session, config }, mailbox := { capacity } }
    (.ok x'.relays.length, { x' with relays := x'.relays ++ [{ station }] })

/-- The last two parts of joining a queue, for the relay at a seat. -/
def finishJoin (x : Exchange) (seat : Seat) (queue : String) : Except RelayError Unit × Exchange :=
  match x.station? seat with
  | none => (.ok (), x)
  | some s =>
    let (result, relay, broker) := s.relay.finishJoin queue x.broker
    (result, ({ x with broker } : Exchange).setStation seat { s with relay })

/-- Lets the relay at a seat join a queue. -/
def join (x : Exchange) (seat : Seat) (queue : String) : Except RelayError Unit × Exchange :=
  match x.station? seat with
  | none => (.ok (), x)
  | some s =>
    match s.relay.beginJoin x.link queue x.broker with
    | (.error e, broker) => (.error e, { x with broker })
    | (.ok (), broker) =>
      if s.relay.hasJoined queue then (.ok (), { x with broker })
      else (({ x with broker } : Exchange).pass x.link.consumeMs).finishJoin seat queue

/-- Lets a relay publish one message. -/
def publish (x : Exchange) (n : Nat) (queue user text : String) : Except RelayError Unit × Exchange :=
  match x.station? (.relay n) with
  | none => (.ok (), x)
  | some s =>
    match s.relay.payloadOf user text with
    | .error e => (.error e, x)
    | .ok payload =>
      let passed := x.pass (s.relay.publishDelay x.link)
      let (result, broker) := s.relay.arrive x.link queue payload passed.broker
      (result, { passed with broker })

/-- Lets a relay publish messages one after the other; gives how the last one ended. -/
def publishAll (n : Nat) (queue user : String) :
    List String → Option (Except RelayError Unit) → Exchange →
      Option (Except RelayError Unit) × Exchange
  | [], last, x => (last, x)
  | text :: rest, _, x =>
    let (result, x') := x.publish n queue user text
    publishAll n queue user rest (some result) x'

/-- Closes a relay. -/
def close (x : Exchange) (n : Nat) : Except RelayError Unit × Exchange :=
  match x.station? (.relay n) with
  | none => (.ok (), x)
  | some s =>
    let (result, s', b) := s.close x.link x.broker
    (result, ({ x with broker := b } : Exchange).setStation (.relay n) s')

/-- Closes a relay that waits for the stream of a queue.  It counts as closed at once, and its session
ends when the stream has come. -/
def closeWhileJoining (x : Exchange) (n : Nat) (queue : String) :
    Except RelayError Unit × Except RelayError Unit × Exchange :=
  let passed := (x.onStation (.relay n) fun s b => (s.markClosed, b)).pass x.link.consumeMs
  match passed.station? (.relay n) with
  | none => (.ok (), .ok (), passed)
  | some s =>
    let (joined, b₁) := match passed.broker.consume s.relay.session queue s.relay.config.ackMode with
      | (.error e, b) => (.error e, b)
      | (.ok stream, b) =>
        let (result, _, b') := s.relay.startConsumer queue stream b
        (result, b')
    let (closed, s', b₂) := s.finishClose x.link b₁
    (joined, closed, ({ passed with broker := b₂ } : Exchange).setStation (.relay n) s')

/-- Closes a relay while it joins a queue.  If subscribing takes time, the relay is closed before it
gets the stream. -/
def joinThenClose (x : Exchange) (n : Nat) (queue : String) :
    Except RelayError Unit × Except RelayError Unit × Exchange :=
  match x.station? (.relay n) with
  | none => (.ok (), .ok (), x)
  | some s =>
    if x.link.consumeMs = 0 || s.relay.hasJoined queue then
      let (joined, x₁) := x.join (.relay n) queue
      let (closed, x₂) := x₁.quiesce.close n
      (joined, closed, x₂)
    else
      match s.relay.beginJoin x.link queue x.broker with
      | (.error e, broker) =>
        let (closed, x₁) := ({ x with broker } : Exchange).close n
        (.error e, closed, x₁)
      | (.ok (), broker) => ({ x with broker } : Exchange).closeWhileJoining n queue

/-- Drops a relay, which closes it; what it has posted can still be taken. -/
def drop (x : Exchange) (n : Nat) : Exchange :=
  let closed := (x.close n).2
  { closed with relays := closed.relays.modify n fun m => { m with dropped := true } }

/-- The stream that was given out last for a queue. -/
def lastStream? (x : Exchange) (queue : String) : Option Nat :=
  (List.range x.broker.streams.length).reverse.find? fun i =>
    x.broker.streams[i]?.any (·.queue == queue)

/-- Breaks a stream. -/
def breakStream (x : Exchange) (stream : Nat) : Exchange :=
  x.seats.foldl (fun x seat => x.onStation seat fun s b => (s.breakStream stream, b)) x

/-! ## Mailboxes -/

/-- Takes events from a mailbox. -/
def takeEvents (x : Exchange) (seat : Seat) (limit : Option Nat) : List Event × Exchange :=
  match x.station? seat with
  | none => ([], x)
  | some s =>
    let (events, mailbox) := s.mailbox.take limit
    (events, x.setStation seat { s with mailbox })

/-- Throws a mailbox away. -/
def discardMailbox (x : Exchange) (seat : Seat) : Exchange :=
  x.onStation seat Station.discardMailbox

/-! ## Nodes -/

/-- Closes the relay of a node that does not come up. -/
def giveUp (x : Exchange) (station : Station) : Exchange :=
  let (_, _, broker) := station.close x.link x.broker
  { x with broker }

/-- Brings up a node with a relay that is connected: the relay joins its queue. -/
def bringUp (x : Exchange) (relay : Relay) (transports : List Transport)
    (direct : Option DirectRelay := none) : Except RelayError Nat × Exchange :=
  let queue := relay.config.queueName
  let mailbox : Mailbox := { capacity := Node.maxEvents }
  match relay.beginJoin x.link queue x.broker with
  | (.error e, broker) => (.error e, ({ x with broker } : Exchange).giveUp { relay, mailbox })
  | (.ok (), broker) =>
    let passed := ({ x with broker } : Exchange).pass x.link.consumeMs
    match relay.finishJoin queue passed.broker with
    | (.error e, relay, broker) =>
      (.error e, ({ passed with broker } : Exchange).giveUp { relay, mailbox })
    | (.ok (), relay, broker) =>
      let node : Node := { station := { relay, mailbox }, direct, transports }
      (.ok passed.nodes.length, { passed with broker, nodes := passed.nodes ++ [node] })

/-- Brings up the direct relay of a node, if it is to have one, for as long as it takes. -/
def openDirect (x : Exchange) (outlook : Direct.Outlook) :
    Option DirectConfig → Except RelayError (Option DirectRelay) × Exchange
  | none => (.ok none, x)
  | some config =>
    let (result, ms) := Direct.bringUp outlook config
    (result.map fun address => some { address, client := { endpoint := config.peerEndpoint } },
      x.pass ms)

/-- Brings up a node: its direct relay first, then its queue relay.  If that fails, nothing of the
direct relay is left.  A node without a queue relay needs no exchange and gets no number. -/
def newNode (x : Exchange) (config : NodeConfig) (outlook : Direct.Outlook := Direct.offline) :
    Except RelayError (Option Nat) × Exchange :=
  match config.validate with
  | .error e => (.error e, x)
  | .ok () =>
    match x.openDirect outlook config.direct with
    | (.error e, x₁) => (.error e, x₁)
    | (.ok direct, x₁) =>
      match config.queue with
      | none => (.ok none, x₁)
      | some queue =>
        match x₁.openSession queue with
        | (.error e, x₂) => (.error e, x₂)
        | (.ok session, x₂) =>
          let (result, x₃) :=
            x₂.bringUp { session, config := queue } config.transports direct
          (result.map some, x₃)

/-- A peer calls a node.  Says whether the node has the call. -/
def peerCalls (x : Exchange) (n : Nat) (user text : String) : Bool × Exchange :=
  (x.nodes[n]?.any fun node => (node.peerCalls user text).1,
    x.onNode n fun node b => ((node.peerCalls user text).2, b))

/-- The peer of a node answers a call. -/
def peerAnswers (x : Exchange) (n task : Nat) (outcome : Except Direct.Status Unit) : Exchange :=
  x.onNode n fun node b => (node.peerAnswers task outcome, b)

end Exchange

end MessageRelay
