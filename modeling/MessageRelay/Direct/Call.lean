import MessageRelay.Direct.Client
import MessageRelay.Direct.Server

/-!
# Calls

A client hands an envelope to a server by a call.  What lies between them carries the two fields of the envelope, or
fails with a status; it is not part of this program.  A call that was carried is handed to the service.  It ends well
as soon as the service acknowledges it, and with a status of its own if that takes too long.
-/

namespace MessageRelay.Direct

/-- What lies between clients and servers. -/
structure Carrier where
  /-- What of an envelope comes to a server in the given state, or why nothing does. -/
  carry : ServerState → Envelope → Except Status (String × String)
  /-- How a call ends that is not acknowledged in time. -/
  late : Status

/-- A server is called. -/
def Server.accept (wire : Carrier) (s : Server) (e : Envelope) : Except Status Unit × Server :=
  match wire.carry s.state e with
  | .error status => (.error status, s)
  | .ok (user, text) =>
    let (n, service) := s.service.call user text
    (if service.isAcknowledged n then .ok () else .error wire.late, { s with service })

namespace Client

/-- The envelope with which a client calls its peer to send a message, or why it does not. -/
def outgoing (c : Client) (user text : String) : Except RelayError Envelope :=
  match Envelope.make user text with
  | .error e => .error e
  | .ok e =>
    if c.closed then .error closedError
    else
      match e.checkSize with
      | .error failure => .error failure
      | .ok () => .ok e

/-- Sends a message to a server. -/
def sendTo (wire : Carrier) (c : Client) (s : Server) (user text : String) : List Event × Server :=
  (c.send (fun e => (s.accept wire e).1) user text,
    match c.outgoing user text with
    | .error _ => s
    | .ok e => (s.accept wire e).2)

/-- A client says why it does not call, or why its call failed. -/
theorem send_eq (c : Client) (peer : PeerAnswer) (user text : String) :
    c.send peer user text = match c.outgoing user text with
      | .error failure => [.sendFailed .direct failure.message]
      | .ok e => match peer e with
        | .ok () => []
        | .error status => [.sendFailed .direct status.toError.message] := by
  unfold send outgoing deliver
  cases Envelope.make user text with
  | error failure => rfl
  | ok e =>
    cases c.closed with
    | true => rfl
    | false =>
      cases hsize : e.checkSize with
      | error failure => simp [hsize]
      | ok _ => cases hpeer : peer e <;> simp [hsize, hpeer]

/-- A client that does not call says why. -/
theorem send_of_error {c : Client} {user text : String} {failure : RelayError}
    (h : c.outgoing user text = .error failure) (peer : PeerAnswer) :
    c.send peer user text = [.sendFailed .direct failure.message] := by
  rw [send_eq, h]

/-- A client that calls says nothing, unless the call fails. -/
theorem send_of_ok {c : Client} {user text : String} {e : Envelope} (h : c.outgoing user text = .ok e)
    (peer : PeerAnswer) :
    c.send peer user text = match peer e with
      | .ok () => []
      | .error status => [.sendFailed .direct status.toError.message] := by
  rw [send_eq, h]

end Client

end MessageRelay.Direct
