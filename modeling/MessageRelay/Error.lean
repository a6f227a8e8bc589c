/-!
# Failures

Every operation of a relay that can fail says so with a kind and a reason.  The kind is what a
caller branches on; the reason is for people.
-/

namespace MessageRelay

/-- What went wrong, as far as a caller can react to it. -/
inductive ErrorKind where
  /-- A peer could not be reached or an address not bound. -/
  | connectFailure
  /-- A message could not be handed over. -/
  | sendFailure
  /-- A message is not well formed. -/
  | malformedEnvelope
  /-- No connection to the broker could be made. -/
  | brokerUnavailable
  /-- The broker refused an operation on an open connection. -/
  | channelError
  /-- The relay has been closed. -/
  | closed
  /-- The configuration does not make sense. -/
  | configError
  deriving DecidableEq, Repr

/-- The words that open the message of an error of this kind. -/
def ErrorKind.heading : ErrorKind → String
  | connectFailure => "connect failure"
  | sendFailure => "send failure"
  | malformedEnvelope => "malformed envelope"
  | brokerUnavailable => "broker unavailable"
  | channelError => "channel error"
  | closed => "relay closed"
  | configError => "config error"

/-- A failure of a relay operation. -/
structure RelayError where
  /-- What a caller branches on. -/
  kind : ErrorKind
  /-- What a person reads. -/
  reason : String
  deriving DecidableEq, Repr

/-- The full text of an error. -/
def RelayError.message (e : RelayError) : String :=
  e.kind.heading ++ ": " ++ e.reason

end MessageRelay
