import MessageRelay.Envelope.Codec
import MessageRelay.Relay.Mailbox

/-!
# The service for peers

A peer hands over a message by a call.  The call is acknowledged once the message is in the mailbox,
or once it is clear that it never will be: because the mailbox was thrown away, or because the
service is told to stop while the mailbox is full.  A message that is none is acknowledged too; that
something was wrong with it is for the user of the service to know.
-/

namespace MessageRelay.Direct

/-- The state of a service. -/
structure Service where
  /-- Where the events go. -/
  mailbox : Mailbox
  /-- How many calls there have been. -/
  calls : Nat := 0
  /-- Whether the service is told to stop. -/
  stopping : Bool := false
  /-- Whether nobody can tell the service to stop any more. -/
  abandoned : Bool := false
  deriving DecidableEq

namespace Service

/-- What a call amounts to. -/
def eventOf (user text : String) : Event :=
  match Envelope.make user text with
  | .ok envelope => .received .direct envelope
  | .error e => .malformed .direct e.message

/-- Whether no call waits for a place. -/
def isClosing (s : Service) : Bool :=
  s.stopping || s.abandoned

/-- A peer calls; the number of the call is given. -/
def call (s : Service) (user text : String) : Nat × Service :=
  let next := { s with calls := s.calls + 1 }
  (s.calls,
    match s.mailbox.offer (.call s.calls) (eventOf user text) with
    | .posted m => { next with mailbox := m }
    | .waits m => if s.isClosing then next else { next with mailbox := m }
    | .refused => next)

/-- Takes one event; the call that has waited longest gets the place. -/
def receive (s : Service) : Option Event × Service :=
  let (events, m) := s.mailbox.take (some 1)
  (events.head?, { s with mailbox := m.useGrants })

/-- Tells the service to stop, or not to stop after all.  When it stops, nobody waits any more. -/
def signal (s : Service) (stop : Bool) : Service :=
  if stop then { s with stopping := true, mailbox := s.mailbox.sendOff }
  else { s with stopping := false }

/-- Nobody can tell the service to stop any more; it does not let anybody wait then. -/
def abandon (s : Service) : Service :=
  { s with abandoned := true, mailbox := s.mailbox.sendOff }

/-- Throws the mailbox away. -/
def discardMailbox (s : Service) : Service :=
  { s with mailbox := s.mailbox.discard.2 }

/-- The calls that have not been acknowledged, in order. -/
def waiting (s : Service) : List Nat :=
  s.mailbox.waiting.filterMap fun
    | (.call n, _) => some n
    | _ => none

/-- Whether a call has been acknowledged. -/
def isAcknowledged (s : Service) (n : Nat) : Bool :=
  decide (n < s.calls) && !s.waiting.contains n

end Service

end MessageRelay.Direct
