import MessageRelay.Envelope

/-!
# Events

What a relay reports to the person who uses it: a message came in, a message could not be sent, or
something came in that is no message.
-/

namespace MessageRelay

/-- The two ways a message can take. -/
inductive Transport where
  /-- From peer to peer. -/
  | direct
  /-- Through a queue of a broker. -/
  | queue
  deriving DecidableEq, Repr

namespace Transport

/-- The name of a transport in running text. -/
def display : Transport → String
  | direct => "direct"
  | queue => "queue"

/-- The name of a transport in data. -/
def label : Transport → String
  | direct => "Direct"
  | queue => "Queue"

end Transport

/-- Something that a relay reports. -/
inductive Event where
  /-- A message came in. -/
  | received (transport : Transport) (envelope : Envelope)
  /-- A message could not be sent. -/
  | sendFailed (transport : Transport) (reason : String)
  /-- Something came in that is no message. -/
  | malformed (transport : Transport) (reason : String)
  deriving DecidableEq

end MessageRelay
