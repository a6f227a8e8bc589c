import MessageRelay.Exchange

/-!
# Runs of an exchange

Everything that can be done with an exchange, as commands with answers.  After every command
everything goes on until nothing can.  Some commands wait for something, which lets time pass; what
they wait for may never happen, and then their answer says so.  What the peers of nodes do is commands
too.
-/

namespace MessageRelay.Exchange

/-- What can be asked of an exchange. -/
inductive Command where
  /-- Connect a relay with a mailbox of the given size. -/
  | connect (config : QueueConfig) (capacity : Nat)
  /-- Let a relay join a queue. -/
  | join (relay : Nat) (queue : String)
  /-- Let a relay publish messages, one after the other. -/
  | publish (relay : Nat) (queue user : String) (texts : List String)
  /-- Close a relay. -/
  | close (relay : Nat)
  /-- Close a relay while it joins a queue. -/
  | joinThenClose (relay : Nat) (queue : String)
  /-- Drop a relay. -/
  | drop (relay : Nat)
  /-- Break a stream. -/
  | breakStream (stream : Nat)
  /-- Take events from a mailbox, all or up to a number of them. -/
  | takeEvents (seat : Seat) (limit : Option Nat)
  /-- Throw a mailbox away. -/
  | discardMailbox (seat : Seat)
  /-- Bring up a node; what it meets on the network is given. -/
  | newNode (config : NodeConfig) (outlook : Direct.Outlook := Direct.offline)
  /-- Take the mailbox of a node. -/
  | takeReceiver (node : Nat)
  /-- Start the loop of a node. -/
  | start (node : Nat)
  /-- Ask a node for several things, all at once. -/
  | burst (node : Nat) (calls : List NodeCall)
  /-- Ask a node about itself. -/
  | status (node : Nat)
  /-- Ask a node for something, if it has room for the command. -/
  | request (node : Nat) (command : NodeCommand)
  /-- Ask a node for something, and wait until it has room for the command. -/
  | submit (node : Nat) (command : NodeCommand)
  /-- Shut a node down, and wait until it is. -/
  | shutdown (node : Nat)
  /-- Drop a node. -/
  | dropNode (node : Nat)
  /-- A peer of a node calls it. -/
  | peerCalls (node : Nat) (user text : String)
  /-- The peer of a node answers a call. -/
  | peerAnswers (node task : Nat) (outcome : Except Direct.Status Unit)
  /-- Something that needs no session. -/
  | control (c : Broker.Control)

/-- What an exchange answers. -/
inductive Answer where
  /-- It is done. -/
  | done
  /-- It failed. -/
  | failed (e : RelayError)
  /-- The number of a new relay. -/
  | relay (n : Nat)
  /-- The number of a new node. -/
  | node (n : Nat)
  /-- What came of joining and of closing. -/
  | joinedAndClosed (joined closed : Except RelayError Unit)
  /-- Events that were taken. -/
  | events (es : List Event)
  /-- Whether it was accepted. -/
  | accepted (b : Bool)
  /-- Which requests of a burst were accepted. -/
  | burst (accepted : List Bool)
  /-- What a node says about itself. -/
  | status (s : NodeStatus)
  /-- There is nothing to give, or nothing any more. -/
  | gone
  /-- The answer to something that needs no session. -/
  | control (a : Broker.ControlAnswer)
  /-- The answer will never come. -/
  | never

/-- The answer of an operation that gives nothing but may fail. -/
def Answer.ofUnit : Except RelayError Unit → Answer
  | .ok () => done
  | .error e => failed e

/-- The failure of a question to a node whose loop has ended. -/
def loopExited : RelayError :=
  ⟨.closed, "node event loop has exited"⟩

/-- The failure of a question that the loop of a node has not come to before it ended. -/
def questionDropped : RelayError :=
  ⟨.closed, "node event loop dropped the status request"⟩

/-- Whether the loop of a node has ended. -/
def hasExited (x : Exchange) (n : Nat) : Bool :=
  x.nodes[n]?.any Node.hasExited

/-- Gives a node a command once it has room, unless its loop ends first.  Says whether the node has
the command, if it ever comes to that. -/
def hand (x : Exchange) (n : Nat) (c : NodeCommand) : Option Bool × Exchange :=
  let ready := x.wait fun x => x.nodes[n]?.any fun node => node.hasExited || node.hasRoom
  match ready.nodes[n]? with
  | none => (none, ready)
  | some node =>
    if node.hasExited then (some false, ready)
    else if node.hasRoom then
      (some true, { ready with nodes := ready.nodes.set n (node.enqueue c) })
    else (none, ready)

/-- Gives a node a command and waits until it has taken it in. -/
def submit (x : Exchange) (n : Nat) (c : NodeCommand) : Answer × Exchange :=
  match x.hand n c with
  | (some accepted, x') => (.accepted accepted, x')
  | (none, x') => (.never, x')

/-- Asks a node about itself and waits for the answer. -/
def askStatus (x : Exchange) (n : Nat) : Answer × Exchange :=
  match x.hand n .status with
  | (none, x') => (.never, x')
  | (some false, x') => (.failed loopExited, x')
  | (some true, asked) =>
    let fresh := { asked with nodes := asked.nodes.modify n fun node => { node with answer := none } }
    let waited := fresh.wait fun x =>
      x.nodes[n]?.any fun node => node.hasExited || node.answer.isSome
    match waited.nodes[n]?.bind (·.answer) with
    | some status => (.status status, waited)
    | none => (if waited.hasExited n then .failed questionDropped else .never, waited)

/-- Whether a node was told to shut down. -/
def isShuttingDown (x : Exchange) (n : Nat) : Bool :=
  x.nodes[n]?.any (·.state = .shuttingDown)

/-- Shuts a node down and waits until its loop has ended.  Whoever asks for it again does not wait. -/
def shutdown (x : Exchange) (n : Nat) : Answer × Exchange :=
  if x.isShuttingDown n then (.done, x)
  else
    let waited := (x.onNode n (Node.shutdown x.link)).wait (·.hasExited n)
    (if waited.hasExited n then .done else .never, waited)

/-- Starts the loop of a node. -/
def start (x : Exchange) (n : Nat) : Answer × Exchange :=
  match x.nodes[n]?.map Node.start with
  | none => (.never, x)
  | some (.error e) => (.failed e, x)
  | some (.ok node) => (.done, { x with nodes := x.nodes.set n node })

/-- Asks a node for something, if it has room for the command. -/
def request (x : Exchange) (n : Nat) (c : NodeCommand) : Answer × Exchange :=
  match x.nodes[n]?.map (·.request c) with
  | none => (.never, x)
  | some (accepted, node) => (.accepted accepted, { x with nodes := x.nodes.set n node })

/-- Asks a node for several things, all at once. -/
def burst (x : Exchange) (n : Nat) (calls : List NodeCall) : Answer × Exchange :=
  match x.nodes[n]?.map (·.burst calls) with
  | none => (.never, x)
  | some (accepted, node) => (.burst accepted, { x with nodes := x.nodes.set n node })

/-- Takes the mailbox of a node. -/
def takeReceiver (x : Exchange) (n : Nat) : Answer × Exchange :=
  match x.nodes[n]? with
  | none => (.gone, x)
  | some node =>
    if node.taken then (.gone, x)
    else (.done, { x with nodes := x.nodes.set n { node with taken := true } })

/-- Does what was asked; what follows from it has not happened yet. -/
def act (x : Exchange) : Command → Answer × Exchange
  | .connect config capacity =>
    match x.connect config capacity with
    | (.ok n, x') => (.relay n, x')
    | (.error e, x') => (.failed e, x')
  | .join n queue =>
    let (result, x') := x.join (.relay n) queue
    (.ofUnit result, x')
  | .publish n queue user texts =>
    let (last, x') := publishAll n queue user texts none x
    ((last.map .ofUnit).getD .gone, x')
  | .close n =>
    let (result, x') := x.close n
    (.ofUnit result, x')
  | .joinThenClose n queue =>
    let (joined, closed, x') := x.joinThenClose n queue
    (.joinedAndClosed joined closed, x')
  | .drop n => (.done, x.drop n)
  | .breakStream stream => (.done, x.breakStream stream)
  | .takeEvents seat limit =>
    let (events, x') := x.takeEvents seat limit
    (.events events, x')
  | .discardMailbox seat => (.done, x.discardMailbox seat)
  | .newNode config outlook =>
    match x.newNode config outlook with
    | (.ok (some n), x') => (.node n, x')
    | (.ok none, x') => (.done, x')
    | (.error e, x') => (.failed e, x')
  | .takeReceiver n => x.takeReceiver n
  | .start n => x.start n
  | .burst n calls => x.burst n calls
  | .status n => x.askStatus n
  | .request n c => x.request n c
  | .submit n c => x.submit n c
  | .shutdown n => x.shutdown n
  | .dropNode n => (.done, x.onNode n (Node.drop x.link))
  | .peerCalls n user text =>
    let (accepted, x') := x.peerCalls n user text
    (.accepted accepted, x')
  | .peerAnswers n task outcome => (.done, x.peerAnswers n task outcome)
  | .control c =>
    let (a, broker) := x.broker.control c
    (.control a, { x with broker })

/-- Does what was asked, and lets everything go on until nothing can.  Also gives the time that the
command took. -/
def step (x : Exchange) (c : Command) : Answer × Nat × Exchange :=
  let (a, acted) := x.act c
  let rested := acted.quiesce
  (a, rested.clock - x.clock, rested)

/-- Does everything that is asked, in order. -/
def run (x : Exchange) : List Command → List (Answer × Nat) × Exchange
  | [] => ([], x)
  | c :: rest =>
    let (a, ms, x') := x.step c
    let (as, final) := x'.run rest
    ((a, ms) :: as, final)

end MessageRelay.Exchange
