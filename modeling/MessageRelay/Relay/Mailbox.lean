import MessageRelay.Event

/-!
# Mailboxes

A relay posts events into a mailbox of limited size, from which its user takes them.  Whoever finds
the mailbox full waits with the event in hand; when events are taken, those who have waited longest
get a place first.  A place that was given to somebody is his, even before he puts his event there.

When the user throws the mailbox away, everybody who waits, and everybody who comes later, is sent
off.
-/

namespace MessageRelay

/-- Who can post events. -/
inductive Sender where
  /-- The consumer that listens to the given stream. -/
  | consumer (stream : Nat)
  /-- The command loop of a node. -/
  | loop
  /-- The call of a peer with the given number. -/
  | call (n : Nat)
  /-- The task with the given number, which calls a peer. -/
  | outgoing (n : Nat)
  deriving DecidableEq, Repr

/-- Whether the sender is the call of a peer. -/
def Sender.isCall : Sender → Bool
  | call _ => true
  | _ => false

/-- A mailbox. -/
structure Mailbox where
  /-- The number of places. -/
  capacity : Nat
  /-- The events that can be taken, oldest first. -/
  posted : List Event := []
  /-- Those who were given a place and have not used it yet. -/
  granted : List (Sender × Event) := []
  /-- Those who wait for a place, each with an event in hand. -/
  waiting : List (Sender × Event) := []
  /-- Whether the user still has the mailbox. -/
  kept : Bool := true
  deriving DecidableEq

/-- What happens to somebody who wants to post an event. -/
inductive Posting where
  /-- The event is in the mailbox. -/
  | posted (m : Mailbox)
  /-- There is no place; he waits. -/
  | waits (m : Mailbox)
  /-- The mailbox was thrown away. -/
  | refused
  deriving DecidableEq

namespace Mailbox

/-- The number of places that are free. -/
def room (m : Mailbox) : Nat :=
  m.capacity - m.posted.length - m.granted.length

/-- Puts an event into the mailbox. -/
def put (m : Mailbox) (event : Event) : Mailbox :=
  { m with posted := m.posted ++ [event] }

/-- Posts an event, or waits for a place. -/
def offer (m : Mailbox) (sender : Sender) (event : Event) : Posting :=
  if !m.kept then .refused
  else if 0 < m.room then .posted (m.put event)
  else .waits { m with waiting := m.waiting ++ [(sender, event)] }

/-- Posts an event, now or when there is a place for it. -/
def leave (m : Mailbox) (sender : Sender) (event : Event) : Mailbox :=
  match m.offer sender event with
  | .posted m' | .waits m' => m'
  | .refused => m

/-- Posts an event if there is a place for it; nobody waits. -/
def tryPost (m : Mailbox) (event : Event) : Mailbox :=
  if m.kept && decide (0 < m.room) then m.put event else m

/-- Gives the free places to those who have waited longest. -/
def grant (m : Mailbox) : Mailbox :=
  { m with
    granted := m.granted ++ m.waiting.take m.room
    waiting := m.waiting.drop m.room }

/-- Takes events, all or up to a number of them. -/
def take (m : Mailbox) (limit : Option Nat) : List Event × Mailbox :=
  let n := limit.getD m.posted.length
  (m.posted.take n, ({ m with posted := m.posted.drop n } : Mailbox).grant)

/-- Whether somebody waits for a place or has not used his yet. -/
def holds (m : Mailbox) (sender : Sender) : Bool :=
  (m.waiting ++ m.granted).any (·.1 == sender)

/-- Nobody waits for a place with this name any more; the event in his hand is lost. -/
def forget (m : Mailbox) (sender : Sender) : Mailbox :=
  { m with
    waiting := m.waiting.filter (·.1 != sender)
    granted := m.granted.filter (·.1 != sender) }

/-- Everybody who waits goes away; the events in their hands are lost. -/
def sendOff (m : Mailbox) : Mailbox :=
  { m with waiting := [] }

/-- The calls of peers that wait go away; the events in their hands are lost. -/
def hangUp (m : Mailbox) : Mailbox :=
  { m with waiting := m.waiting.filter (!·.1.isCall) }

/-- All who were given a place use it, in order. -/
def useGrants (m : Mailbox) : Mailbox :=
  { m with posted := m.posted ++ m.granted.map (·.2), granted := [] }

/-- The next one who was given a place uses it. -/
def useGrant (m : Mailbox) : Option (Sender × Mailbox) :=
  match m.granted with
  | [] => none
  | (sender, event) :: rest => some (sender, ({ m with granted := rest } : Mailbox).put event)

/-- The user throws the mailbox away; those who waited are sent off. -/
def discard (m : Mailbox) : List Sender × Mailbox :=
  ((m.granted ++ m.waiting).map (·.1),
    { m with posted := [], granted := [], waiting := [], kept := false })

end Mailbox

end MessageRelay
