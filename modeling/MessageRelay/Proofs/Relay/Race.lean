import MessageRelay.Proofs.Broker.Custody
import MessageRelay.Relay

/-!
# Joining and closing at the same time

Several calls can be under way at one relay: any number of joins, and the call that closes it.  Each of
them goes on by itself up to the next point at which it waits, and so do the consumers that the joins
have started.  A `Race` is a relay in the middle of this, and an `Action` is what one of them does between
two such points; which action comes next is left open.  The broker is shared with other clients, who do
what they like in between (`Action.others`), but not through the session and the streams of the relay.

A join declares its queue, waits until no other join is inside, asks for a stream and starts a consumer.
The call that closes the relay signals the consumers, waits until no join is inside, takes the list of
consumers, waits until they have stopped, and ends the session.  A signal is received by the consumers
that are there when it is sent, and is lost when there is none.
-/

namespace MessageRelay

/-- How far a join has come. -/
inductive Race.Stage where
  /-- It was called. -/
  | called
  /-- It has found the relay open and the name of the queue in order. -/
  | begun
  /-- The queue is declared; it waits to go inside. -/
  | declared
  /-- It is inside, and asks for a stream. -/
  | entered
  /-- It is inside, and has the stream with the given number. -/
  | subscribed (stream : Nat)
  /-- It has returned. -/
  | returned (result : Except RelayError Unit)
  deriving DecidableEq

/-- A join. -/
structure Race.Join where
  /-- The queue. -/
  queue : String
  /-- How far it has come. -/
  stage : Race.Stage := .called
  /-- The messages that were waiting in the queue when it got its stream, and left it. -/
  drained : List Bytes := []
  deriving DecidableEq

/-- How far the call that closes the relay has come. -/
inductive Race.Closing where
  /-- The relay is not being closed. -/
  | uncalled
  /-- The consumers are signalled; it waits until no join is inside. -/
  | called
  /-- It waits until the consumers of these streams have stopped. -/
  | waiting (tasks : List Nat)
  /-- It has returned. -/
  | returned (result : Except RelayError Unit)
  deriving DecidableEq

/-- A relay in the middle of joins and of being closed. -/
structure Race where
  /-- The broker, and what other clients have taken from it. -/
  desk : Desk
  /-- The relay with the consumers that have not stopped, and its mailbox. -/
  station : Station
  /-- The streams that the joins were given. -/
  streams : List Nat := []
  /-- The streams of the consumers that have not begun to run. -/
  unstarted : List Nat := []
  /-- Whether consumers have been told to stop. -/
  signal : Bool := false
  /-- The consumers that joins have started, by queue; those that have stopped may be among them. -/
  tasks : List (String × Nat) := []
  /-- The joins. -/
  joins : List Race.Join := []
  /-- The call that closes the relay. -/
  closing : Race.Closing := .uncalled
  /-- What consumers have been handed since the session has ended, each with its queue. -/
  passedOn : List (String × Bytes) := []

namespace Race

/-- What can happen next. -/
inductive Action where
  /-- A join looks whether the relay is open and the name of the queue in order. -/
  | begin (join : Nat)
  /-- A join declares its queue. -/
  | declare (join : Nat)
  /-- A join goes inside. -/
  | enter (join : Nat)
  /-- A join gets its stream. -/
  | subscribe (join : Nat)
  /-- A join starts its consumer. -/
  | start (join : Nat)
  /-- The relay is marked as closed, and its consumers are signalled. -/
  | close
  /-- The call that closes the relay takes the list of consumers. -/
  | drain
  /-- The call that closes the relay ends the session. -/
  | finish
  /-- A consumer begins to run. -/
  | awake (stream : Nat)
  /-- A consumer takes a message, settles it and posts it, if it can. -/
  | serve (stream : Nat)
  /-- A consumer takes a message, settles it, and stops because it was told to. -/
  | abandon (stream : Nat)
  /-- A consumer stops because it was told to, with or without a message in hand. -/
  | obey (stream : Nat)
  /-- A consumer stops because its stream is broken. -/
  | fail (stream : Nat)
  /-- A stream breaks. -/
  | breakStream (stream : Nat)
  /-- The user takes events. -/
  | takeEvents (limit : Option Nat)
  /-- Free places are given to consumers that wait. -/
  | grant
  /-- A consumer uses the place that it was given. -/
  | useGrant
  /-- The user throws the mailbox away. -/
  | discardMailbox
  /-- Another client does something. -/
  | others (c : Desk.Command)
  deriving DecidableEq, Repr

/-- Whether a join is inside, where there is one at a time. -/
def Join.inside (j : Join) : Bool :=
  match j.stage with
  | .entered | .subscribed _ => true
  | .called | .begun | .declared | .returned _ => false

/-- Whether a join has returned. -/
def Join.isOver (j : Join) : Bool :=
  match j.stage with
  | .returned _ => true
  | _ => false

/-- Whether a join has failed. -/
def Join.failed (j : Join) : Bool :=
  match j.stage with
  | .returned (.error _) => true
  | _ => false

/-- Whether the session has ended. -/
def ended (r : Race) : Bool :=
  match r.closing with
  | .returned _ => true
  | _ => false

/-- Whether all calls have returned. -/
def isOver (r : Race) : Bool :=
  r.ended && r.joins.all Join.isOver

/-- Whether no join is inside. -/
def isFree (r : Race) : Bool :=
  r.joins.all (!·.inside)

/-- Whether the consumer of a stream has not stopped. -/
def isLive (r : Race) (stream : Nat) : Bool :=
  r.station.relay.consumers.any (·.stream == stream)

/-- Whether the consumer of a stream looks for its next message: it has begun to run, and has nothing in
hand. -/
def isIdle (r : Race) (stream : Nat) : Bool :=
  r.isLive stream && !r.unstarted.contains stream &&
    !r.station.mailbox.holds (.consumer stream)

/-- Whether the consumer of a stream has a stream that is broken. -/
def isBroken (r : Race) (stream : Nat) : Bool :=
  r.station.relay.consumers.any fun c => c.stream == stream && c.broken

/-- The race in which a join has come further. -/
def move (r : Race) (i : Nat) (stage : Stage) : Race :=
  { r with joins := r.joins.modify i fun j => { j with stage } }

/-- The race in which the broker and the relay are in a new state. -/
def put (r : Race) (s : Station) (b : Broker) : Race :=
  { r with station := s, desk := { r.desk with broker := b } }

/-- What was handed over between two moments, each message with its queue. -/
def handedOn (before after : Broker) : List (String × Bytes) :=
  (arrivals before.streams after.streams).map fun a => (a.1.queue, a.2.2)

/-- The race in which a join has got its stream, and what was waiting in the queue with it. -/
def giveStream (r : Race) (i : Nat) (queue : String) (stream : Nat) (b : Broker) : Race :=
  { r.put r.station b with
    streams := r.streams ++ [stream]
    joins := r.joins.set i ⟨queue, .subscribed stream, r.desk.broker.readyOf queue⟩ }

/-- The race in which a join has returned and its consumer is there, but has not begun to run. -/
def startTask (r : Race) (i : Nat) (queue : String) (stream : Nat) (relay : Relay) (b : Broker) :
    Race :=
  { (r.put { r.station with relay } b).move i (.returned (.ok ())) with
    unstarted := r.unstarted ++ [stream]
    tasks := (queue, stream) :: r.tasks.filter (·.1 != queue) }

/-- The race in which the relay counts as closed, and the consumers that there are have been told. -/
def markClosed (r : Race) : Race :=
  { r with
    station := r.station.markClosed
    signal := r.signal || !r.station.relay.consumers.isEmpty
    closing := .called }

/-- The race in which whoever closes the relay has taken the list of consumers. -/
def takeTasks (r : Race) : Race :=
  { r with closing := .waiting (r.tasks.map (·.2)), tasks := [] }

/-- The race in which the session has ended. -/
def endSession (r : Race) (result : Except RelayError Unit) (b : Broker) : Race :=
  { r.put r.station b with closing := .returned result, passedOn := handedOn r.desk.broker b }

/-- The race in which another client has done something. -/
def letOthers (r : Race) (c : Desk.Command) : Race :=
  let desk := (r.desk.step c).2
  { r with
    desk
    passedOn := if r.ended then r.passedOn ++ handedOn r.desk.broker desk.broker else r.passedOn }

/-- What another client may do: nothing with the session and the streams of the relay, but for
publishing. -/
def isForeign (r : Race) : Desk.Command → Bool
  | .connect | .publish .. | .settle .. | .control _ => true
  | .declare session _ | .consume session _ _ | .close session => session != r.station.relay.session
  | .next stream | .dropStream stream => !r.streams.contains stream

/-- What happens next, if it can. -/
def act (link : Link) (r : Race) : Action → Option Race
  | .begin i =>
    match r.joins[i]? with
    | some ⟨queue, .called, _⟩ =>
      if r.station.relay.closed then some (r.move i (.returned (.error (Relay.closedError "join"))))
      else
        match QueueName.validate queue with
        | .error e => some (r.move i (.returned (.error e)))
        | .ok () => some (r.move i .begun)
    | _ => none
  | .declare i =>
    match r.joins[i]? with
    | some ⟨queue, .begun, _⟩ =>
      match link.declare r.station.relay.session queue r.desk.broker with
      | (.error e, b) => some ((r.put r.station b).move i (.returned (.error e)))
      | (.ok (), b) => some ((r.put r.station b).move i .declared)
    | _ => none
  | .enter i =>
    match r.joins[i]? with
    | some ⟨queue, .declared, _⟩ =>
      if !r.isFree then none
      else if r.tasks.any fun t => t.1 == queue && r.isLive t.2 then
        some (r.move i (.returned (.ok ())))
      else if r.station.relay.closed then
        some (r.move i (.returned (.error (Relay.closedError "join"))))
      else some (r.move i .entered)
    | _ => none
  | .subscribe i =>
    match r.joins[i]? with
    | some ⟨queue, .entered, _⟩ =>
      match r.desk.broker.consume r.station.relay.session queue r.station.relay.config.ackMode with
      | (.error e, b) => some ((r.put r.station b).move i (.returned (.error e)))
      | (.ok stream, b) => some (r.giveStream i queue stream b)
    | _ => none
  | .start i =>
    match r.joins[i]? with
    | some ⟨queue, .subscribed stream, _⟩ =>
      match r.station.relay.startConsumer queue stream r.desk.broker with
      | (.error e, relay, b) =>
        some ((r.put { r.station with relay } b).move i (.returned (.error e)))
      | (.ok (), relay, b) => some (r.startTask i queue stream relay b)
    | _ => none
  | .close =>
    match r.closing with
    | .uncalled => some r.markClosed
    | _ => none
  | .drain =>
    match r.closing with
    | .called => if r.isFree then some r.takeTasks else none
    | _ => none
  | .finish =>
    match r.closing with
    | .waiting tasks =>
      if tasks.any r.isLive then none
      else
        let (result, b) := link.close r.station.relay.session r.desk.broker
        some (r.endSession result b)
    | _ => none
  | .awake stream =>
    if r.isLive stream && r.unstarted.contains stream && !r.signal then
      some { r with unstarted := r.unstarted.filter (· != stream) }
    else none
  | .serve stream =>
    if r.isIdle stream && !r.isBroken stream then
      let (s, b) := Station.consume stream 1 r.station r.desk.broker
      some (r.put s b)
    else none
  | .abandon stream =>
    if r.isIdle stream && !r.isBroken stream && r.signal then
      match r.desk.broker.poll stream with
      | (.delivery d, b) =>
        let (s, b') := r.station.stopConsumer stream (Relay.settle b d).2
        some (r.put s b')
      | _ => none
    else none
  | .obey stream =>
    if r.isLive stream && r.signal then
      let (s, b) := r.station.stopConsumer stream r.desk.broker
      some (r.put s b)
    else none
  | .fail stream =>
    if r.isIdle stream && r.isBroken stream then
      let (s, b) := r.station.stopConsumer stream r.desk.broker
      some (r.put s b)
    else none
  | .breakStream stream => some { r with station := r.station.breakStream stream }
  | .takeEvents limit =>
    some { r with station := { r.station with mailbox := (r.station.mailbox.take limit).2 } }
  | .grant => some { r with station := { r.station with mailbox := r.station.mailbox.grant } }
  | .useGrant =>
    match r.station.mailbox.useGrant with
    | some (_, mailbox) => some { r with station := { r.station with mailbox } }
    | none => none
  | .discardMailbox =>
    let (s, b) := r.station.discardMailbox r.desk.broker
    some (r.put s b)
  | .others c => if r.isForeign c then some (r.letOthers c) else none

/-- Everything that happens, in order, if it can. -/
def run (link : Link) (r : Race) : List Action → Option Race
  | [] => some r
  | a :: rest =>
    match r.act link a with
    | some r' => r'.run link rest
    | none => none

/-- A relay that has just been connected, with a mailbox of the given size, at which the given queues
will be joined. -/
def opening (desk : Desk) (session : Nat) (config : QueueConfig) (capacity : Nat)
    (queues : List String) : Race where
  desk := desk
  station := { relay := { session, config }, mailbox := { capacity } }
  joins := queues.map fun queue => { queue }

/-- Whether an action is one of the calls or of a consumer that was told to stop.  Such actions need
nobody else: no room in the mailbox, and no other client. -/
def Action.isOwn : Action → Bool
  | .begin _ | .declare _ | .enter _ | .subscribe _ | .start _ | .close | .drain | .finish | .obey _ =>
    true
  | .awake _ | .serve _ | .abandon _ | .fail _ | .breakStream _ | .takeEvents _ | .grant | .useGrant
  | .discardMailbox | .others _ => false

end Race

end MessageRelay
