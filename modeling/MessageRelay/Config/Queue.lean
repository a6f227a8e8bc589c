import MessageRelay.Config.AckMode
import MessageRelay.Config.Timeouts
import MessageRelay.Net.BrokerUri
import MessageRelay.Text.Blank

/-!
# Configuration of a queue relay

Which broker and which queue a relay uses, how it settles what it is handed, and how patient it is.
-/

namespace MessageRelay

namespace QueueName

/-- The most bytes a queue name may have. -/
def maxBytes : Nat := 255

/-- Refuses names that are blank or too long. -/
def validate (name : String) : Except RelayError Unit :=
  if Text.isBlank name then .error (.config "queue name must not be empty")
  else if maxBytes < name.utf8ByteSize then
    .error (.config ("queue name is " ++ toString name.utf8ByteSize ++ " bytes (max " ++
      toString maxBytes ++ ")"))
  else .ok ()

end QueueName

/-- The settings of a queue relay. -/
structure QueueConfig where
  /-- The URI of the broker. -/
  brokerUri : String := "amqp://127.0.0.1:5672/%2f"
  /-- The queue that is read from and written to. -/
  queueName : String := "chat"
  /-- When a message is settled. -/
  ackMode : AckMode := .manual
  /-- How often a connection is tried. -/
  connectAttempts : UInt32 := 3
  /-- The pause between two tries, in milliseconds. -/
  retryDelayMs : UInt64 := 500
  /-- The bounds for connections and calls. -/
  timeouts : Timeouts := {}
  deriving DecidableEq, Repr

namespace QueueConfig

/-- Refuses settings that make no sense. -/
def validate (c : QueueConfig) : Except RelayError Unit := do
  if !BrokerUri.isAccepted c.brokerUri then
    throw (.config ("broker uri '" ++ c.brokerUri ++ "' must start with one of " ++
      ", ".intercalate BrokerUri.schemes))
  QueueName.validate c.queueName
  if c.connectAttempts = 0 then throw (.config "connect_attempts must be greater than 0")
  c.timeouts.validate

/-- How the settings are written. -/
def shape : Json.Shape QueueConfig where
  expected := "struct QueueConfig"
  members := [
    ⟨"broker_uri", fun c => return { c with brokerUri := ← Json.text }⟩,
    ⟨"queue_name", fun c => return { c with queueName := ← Json.text }⟩,
    ⟨"ack_mode", fun c => return { c with ackMode := ← AckMode.reader }⟩,
    ⟨"connect_attempts", fun c => return { c with connectAttempts := (← Json.nat32).toUInt32 }⟩,
    ⟨"retry_delay_ms", fun c => return { c with retryDelayMs := (← Json.nat64).toUInt64 }⟩,
    ⟨"timeouts", fun c => return { c with timeouts := ← Timeouts.reader }⟩]

/-- Reads the settings; what is not given takes its default. -/
def reader : Json.Reader QueueConfig :=
  Json.record shape {}

/-- The JSON form of the settings, with all members. -/
def json (c : QueueConfig) : String :=
  Json.object [("broker_uri", Json.string c.brokerUri), ("queue_name", Json.string c.queueName),
    ("ack_mode", c.ackMode.json), ("connect_attempts", Json.nat c.connectAttempts.toNat),
    ("retry_delay_ms", Json.nat c.retryDelayMs.toNat), ("timeouts", c.timeouts.json)]

end QueueConfig

end MessageRelay
