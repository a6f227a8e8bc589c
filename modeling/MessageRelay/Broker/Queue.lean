import MessageRelay.Config.AckMode
import MessageRelay.Text.Bytes

/-!
# Queues

A queue keeps messages until a consumer takes them.  Consumers take turns.  What is handed to a
consumer that settles by hand stays with the queue, under a tag of its own, until the consumer says
what became of it; when the consumer's session ends before that, the message goes round again.

A consumer listens to a stream, and may have stopped listening without telling.  The queue finds out
when it next looks, so the operations below are told which streams still have a listener.
-/

namespace MessageRelay

/-- A consumer of a queue. -/
structure Slot where
  /-- The session that subscribed. -/
  session : Nat
  /-- When a message that is handed over is settled. -/
  mode : AckMode
  /-- The stream that carries messages to the consumer. -/
  stream : Nat
  deriving DecidableEq, Repr

/-- A message that was handed over and not yet settled. -/
structure Unsettled where
  /-- The tag under which it was handed over. -/
  tag : Nat
  /-- The session whose consumer has it. -/
  session : Nat
  /-- The message. -/
  payload : Bytes
  deriving DecidableEq, Repr

/-- A message on its way to a consumer. -/
structure Handover where
  /-- The stream that carries it. -/
  stream : Nat
  /-- The tag under which it is handed over. -/
  tag : Nat
  /-- The message. -/
  payload : Bytes
  deriving DecidableEq, Repr

/-- The state of a queue. -/
structure Queue where
  /-- Messages that wait for a consumer, oldest first. -/
  ready : List Bytes := []
  /-- The consumers, in the order in which they subscribed. -/
  slots : List Slot := []
  /-- Messages that were handed over and not yet settled, in the order of their tags. -/
  unacked : List Unsettled := []
  /-- How many messages have been handed over, which says whose turn it is. -/
  turn : Nat := 0
  /-- The tag of the next message that is handed over. -/
  nextTag : Nat := 0
  /-- How many messages consumers have accepted. -/
  acked : Nat := 0
  /-- How many messages consumers have refused. -/
  rejected : Nat := 0
  deriving DecidableEq, Repr

/-- What can be counted about a queue. -/
structure QueueStats where
  /-- Messages that wait for a consumer. -/
  ready : Nat
  /-- Consumers that still listen. -/
  consumers : Nat
  /-- Messages that consumers have accepted. -/
  acked : Nat
  /-- Messages that consumers have refused. -/
  rejected : Nat
  /-- Messages that were handed over and not yet settled. -/
  unacked : Nat
  deriving DecidableEq, Repr

namespace Queue

/-- Forgets the consumers that do not listen any more. -/
def prune (alive : Nat → Bool) (q : Queue) : Queue :=
  { q with slots := q.slots.filter fun slot => alive slot.stream }

/-- The consumer whose turn it is. -/
def current? (q : Queue) : Option Slot :=
  q.slots[q.turn % q.slots.length]?

/-- Hands a message to a consumer. -/
def handTo (q : Queue) (slot : Slot) (payload : Bytes) : Queue × Handover :=
  let entry : Unsettled := ⟨q.nextTag, slot.session, payload⟩
  ({ q with
      turn := q.turn + 1
      nextTag := q.nextTag + 1
      unacked := if slot.mode = .manual then q.unacked ++ [entry] else q.unacked },
    ⟨slot.stream, q.nextTag, payload⟩)

/-- Hands a message to the consumer whose turn it is, or keeps it when there is none. -/
def dispatch (alive : Nat → Bool) (q : Queue) (payload : Bytes) : Queue × List Handover :=
  let pruned := q.prune alive
  match pruned.current? with
  | some slot =>
    let (handed, handover) := pruned.handTo slot payload
    (handed, [handover])
  | none => ({ pruned with ready := pruned.ready ++ [payload] }, [])

/-- Dispatches several messages, one after the other. -/
def dispatchAll (alive : Nat → Bool) (q : Queue) : List Bytes → Queue × List Handover
  | [] => (q, [])
  | payload :: rest =>
    let (q₁, first) := q.dispatch alive payload
    let (q₂, others) := q₁.dispatchAll alive rest
    (q₂, first ++ others)

/-- Adds a consumer; all messages that have been waiting are dispatched. -/
def subscribe (alive : Nat → Bool) (q : Queue) (slot : Slot) : Queue × List Handover :=
  ({ q with slots := q.slots ++ [slot], ready := [] } : Queue).dispatchAll alive q.ready

/-- The messages that consumers of a session have not settled, oldest first. -/
def unsettledOf (q : Queue) (session : Nat) : List Bytes :=
  (q.unacked.filter (·.session == session)).map (·.payload)

/-- Forgets the consumers of a session and dispatches again what they have not settled, oldest
first. -/
def release (alive : Nat → Bool) (q : Queue) (session : Nat) : Queue × List Handover :=
  let kept : Queue := { q with
    slots := q.slots.filter (·.session != session)
    unacked := q.unacked.filter (·.session != session) }
  kept.dispatchAll alive (q.unsettledOf session)

/-- Whether a message with this tag waits to be settled. -/
def awaits (q : Queue) (tag : Nat) : Bool :=
  q.unacked.any (·.tag == tag)

/-- Takes a message off the list of those that wait to be settled. -/
def forget (q : Queue) (tag : Nat) : Queue :=
  { q with unacked := q.unacked.filter (·.tag != tag) }

/-- The counts of a queue. -/
def stats (q : Queue) : QueueStats where
  ready := q.ready.length
  consumers := q.slots.length
  acked := q.acked
  rejected := q.rejected
  unacked := q.unacked.length

/-! ## Dispatching, case by case -/

theorem dispatch_of_current {alive : Nat → Bool} {q : Queue} {payload : Bytes} {slot : Slot}
    (h : (q.prune alive).current? = some slot) :
    q.dispatch alive payload =
      (((q.prune alive).handTo slot payload).1, [((q.prune alive).handTo slot payload).2]) := by
  simp [dispatch, h]

theorem dispatch_of_no_current {alive : Nat → Bool} {q : Queue} {payload : Bytes}
    (h : (q.prune alive).current? = none) :
    q.dispatch alive payload =
      ({ q.prune alive with ready := q.ready ++ [payload] }, []) := by
  simp only [dispatch, h]
  rfl

theorem current?_eq_none_iff {q : Queue} : q.current? = none ↔ q.slots = [] := by
  unfold current?
  cases h : q.slots with
  | nil => simp
  | cons s rest =>
    have : q.turn % (s :: rest).length < (s :: rest).length := Nat.mod_lt _ (by simp)
    simp only [List.getElem?_eq_none_iff]
    constructor
    · intro h'
      omega
    · intro h'
      cases h'

@[simp]
theorem dispatchAll_nil (alive : Nat → Bool) (q : Queue) : q.dispatchAll alive [] = (q, []) :=
  rfl

end Queue

end MessageRelay
