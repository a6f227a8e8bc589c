import MessageRelay.Error
import MessageRelay.Json.Value
import MessageRelay.Json.Writer

/-!
# Acknowledgement

A broker forgets a message either as soon as it has handed it over, or when the consumer says that
it has dealt with it.
-/

namespace MessageRelay

/-- When a message that was handed over is settled. -/
inductive AckMode where
  /-- At once. -/
  | auto
  /-- When the consumer says so. -/
  | manual
  deriving DecidableEq, Repr

namespace AckMode

/-- The name of a mode. -/
def display : AckMode → String
  | auto => "auto"
  | manual => "manual"

/-- A text with the capital letters of ASCII made small. -/
def lowercase (s : String) : String :=
  String.ofList (s.toList.map Char.toLower)

/-- The mode with the given name, in small or capital letters. -/
def parse (s : String) : Except RelayError AckMode :=
  match lowercase s with
  | "auto" => .ok auto
  | "manual" => .ok manual
  | other =>
    .error ⟨.configError, "unknown ack mode '" ++ other ++ "' (expected 'auto' or 'manual')"⟩

/-- Reads a mode; its name has to be in small letters. -/
def reader : Json.Reader AckMode :=
  Json.choice [("auto", auto), ("manual", manual)]

/-- The JSON form of a mode. -/
def json (m : AckMode) : String :=
  Json.string m.display

end AckMode

end MessageRelay
