import MessageRelay.Event
import MessageRelay.Json.Value
import MessageRelay.Json.Writer

/-!
# Events as data

The JSON form of envelopes and events: one object per event, named for what happened.
-/

namespace MessageRelay

/-- The JSON form of an envelope. -/
def Envelope.json (e : Envelope) : String :=
  Json.object [("user_name", Json.string e.user), ("message_text", Json.string e.text)]

/-- The JSON form of a transport. -/
def Transport.json (t : Transport) : String :=
  Json.string t.label

/-- Reads a transport. -/
def Transport.reader : Json.Reader Transport :=
  Json.choice [("Direct", direct), ("Queue", queue)]

/-- The JSON form of an event. -/
def Event.json : Event → String
  | received t e =>
    Json.object [("MessageReceived", Json.object [("transport", t.json), ("envelope", e.json)])]
  | sendFailed t reason =>
    Json.object [("SendFailed", Json.object [("transport", t.json), ("reason", Json.string reason)])]
  | malformed t reason =>
    Json.object
      [("MalformedEnvelope", Json.object [("transport", t.json), ("reason", Json.string reason)])]

end MessageRelay
