import MessageRelay.Envelope.Codec
import MessageRelay.Event

/-!
# Sending to a peer

A client hands envelopes to one peer.  What a call comes to is a status; every status but success is
a failure to send, worded by its code.  An envelope that is too large is never sent.
-/

namespace MessageRelay.Direct

/-- The codes with which a call can end. -/
inductive StatusCode where
  | ok
  | cancelled
  | unknown
  | invalidArgument
  | deadlineExceeded
  | notFound
  | alreadyExists
  | permissionDenied
  | resourceExhausted
  | failedPrecondition
  | aborted
  | outOfRange
  | unimplemented
  | internal
  | unavailable
  | dataLoss
  | unauthenticated
  deriving DecidableEq, Repr

namespace StatusCode

/-- All codes, in the order of their numbers. -/
def all : List StatusCode :=
  [ok, cancelled, unknown, invalidArgument, deadlineExceeded, notFound, alreadyExists,
    permissionDenied, resourceExhausted, failedPrecondition, aborted, outOfRange, unimplemented,
    internal, unavailable, dataLoss, unauthenticated]

/-- The code with the given number; numbers without a code mean that nothing is known. -/
def ofNumber (n : Nat) : StatusCode :=
  all[n]?.getD unknown

/-- The name of a code. -/
def label : StatusCode → String
  | ok => "Ok"
  | cancelled => "Cancelled"
  | unknown => "Unknown"
  | invalidArgument => "InvalidArgument"
  | deadlineExceeded => "DeadlineExceeded"
  | notFound => "NotFound"
  | alreadyExists => "AlreadyExists"
  | permissionDenied => "PermissionDenied"
  | resourceExhausted => "ResourceExhausted"
  | failedPrecondition => "FailedPrecondition"
  | aborted => "Aborted"
  | outOfRange => "OutOfRange"
  | unimplemented => "Unimplemented"
  | internal => "Internal"
  | unavailable => "Unavailable"
  | dataLoss => "DataLoss"
  | unauthenticated => "Unauthenticated"

end StatusCode

/-- How a call that failed ended. -/
structure Status where
  /-- The code. -/
  code : StatusCode
  /-- What the peer says about it. -/
  message : String
  deriving DecidableEq, Repr

/-- The failure that a status means. -/
def Status.toError (s : Status) : RelayError :=
  let inBrackets (what : String) : String := what ++ " (" ++ s.message ++ ")"
  ⟨.sendFailure,
    match s.code with
    | .unavailable => inBrackets "peer unavailable"
    | .deadlineExceeded => inBrackets "request timed out"
    | .cancelled => inBrackets "request cancelled"
    | .resourceExhausted => inBrackets "message too large"
    | .unimplemented => inBrackets "peer does not implement MessageSender"
    | code => "rpc error " ++ code.label ++ ": " ++ s.message⟩

/-- A client of a peer. -/
structure Client where
  /-- The endpoint of the peer. -/
  endpoint : String
  /-- Whether the client was closed. -/
  closed : Bool := false
  deriving DecidableEq, Repr

/-- What a peer does with a message: nothing to report, or a status. -/
abbrev PeerAnswer : Type := Envelope → Except Status Unit

namespace Client

/-- The failure of a call by a client that was closed. -/
def closedError : RelayError :=
  ⟨.closed, "client closed"⟩

/-- Hands an envelope to the peer and waits for the outcome. -/
def deliver (c : Client) (peer : PeerAnswer) (e : Envelope) : Except RelayError Unit :=
  if c.closed then .error closedError
  else
    match e.checkSize with
    | .error failure => .error failure
    | .ok () =>
      match peer e with
      | .ok () => .ok ()
      | .error status => .error status.toError

/-- Sends a message without waiting; a failure is an event. -/
def send (c : Client) (peer : PeerAnswer) (user text : String) : List Event :=
  let outcome : Except RelayError Unit := match Envelope.make user text with
    | .error e => .error e
    | .ok e => c.deliver peer e
  match outcome with
  | .ok () => []
  | .error e => [.sendFailed .direct e.message]

/-- Closes the client. -/
def close (c : Client) : Client :=
  { c with closed := true }

end Client

end MessageRelay.Direct
