import MessageRelay.Direct.Call
import MessageRelay.Direct.Outlook

/-!
# Direct relays

A direct relay has a server for its peers and a client of its own peer, and shares a mailbox with
whatever else its node runs.

Its client sends a message in a task of its own.  The task begins when whoever asked for the message
can do no more, and finds out then whether there is anything to call the peer with.  How the peer
answers is not part of this program, and it may take as long as it likes; a failure is posted to the
mailbox, for which the task may have to wait.  Closing the client stops no task that has begun.

The server hands calls to a service as long as it listens.  A call that waits for a place in the mailbox
ends when the server is stopped.
-/

namespace MessageRelay

/-- A direct relay that came up. -/
structure DirectRelay where
  /-- The address that its server listens on. -/
  address : SocketAddress
  /-- Where its server is in its life. -/
  server : Direct.ServerState := .listening
  /-- How many calls of peers there have been. -/
  calls : Nat := 0
  /-- The client of its peer. -/
  client : Direct.Client
  /-- The messages whose tasks have not begun, oldest first, each with its sender. -/
  asked : List (String × String) := []
  /-- How many tasks have begun. -/
  begun : Nat := 0
  /-- The calls that the peer has not answered, each with the number of its task. -/
  underway : List (Nat × Envelope) := []
  deriving DecidableEq

namespace DirectRelay

/-- Asks for a message to be sent. -/
def send (d : DirectRelay) (user text : String) : DirectRelay :=
  { d with asked := d.asked ++ [(user, text)] }

/-- The next task begins: the peer is called, or it is reported why not. -/
def beginTask (d : DirectRelay) (m : Mailbox) (message : String × String) : DirectRelay × Mailbox :=
  let counted := { d with begun := d.begun + 1 }
  match d.client.outgoing message.1 message.2 with
  | .error e => (counted, m.leave (.outgoing d.begun) (.sendFailed .direct e.message))
  | .ok envelope => ({ counted with underway := d.underway ++ [(d.begun, envelope)] }, m)

/-- All tasks that have not begun do. -/
def beginTasks (d : DirectRelay) (m : Mailbox) : DirectRelay × Mailbox :=
  d.asked.foldl (fun acc message => acc.1.beginTask acc.2 message) ({ d with asked := [] }, m)

/-- The peer answers the call of a task; an answer to a call that was not made, or was answered before,
is none. -/
def answer (d : DirectRelay) (m : Mailbox) (task : Nat) (outcome : Except Direct.Status Unit) :
    DirectRelay × Mailbox :=
  if d.underway.any (·.1 == task) then
    ({ d with underway := d.underway.filter (·.1 != task) },
      match outcome with
      | .ok () => m
      | .error status => m.leave (.outgoing task) (.sendFailed .direct status.toError.message))
  else (d, m)

/-- A peer calls.  Says whether the server has the call. -/
def accept (d : DirectRelay) (m : Mailbox) (user text : String) : Bool × DirectRelay × Mailbox :=
  if d.server = .listening then
    let service : Direct.Service := { mailbox := m, calls := d.calls }
    let (_, called) := service.call user text
    (true, { d with calls := called.calls }, called.mailbox)
  else (false, d, m)

/-- The client is closed and the server stopped; calls that wait for a place end. -/
def release (d : DirectRelay) (m : Mailbox) : DirectRelay × Mailbox :=
  ({ d with client := d.client.close, server := .stopped }, m.hangUp)

end DirectRelay

end MessageRelay
