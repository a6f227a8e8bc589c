import MessageRelay.Config.Node

/-!
# Configuration files

A configuration file holds a user name and the settings of the relays, each of them optional.  Other
members are refused, so that a misspelled one is not overlooked.
-/

namespace MessageRelay

/-- What a configuration file holds. -/
structure ConfigFile where
  /-- The display name of the user. -/
  user : Option String := none
  /-- The direct relay. -/
  direct : Option DirectConfig := none
  /-- The queue relay. -/
  queue : Option QueueConfig := none
  deriving DecidableEq, Repr

namespace ConfigFile

/-- How a configuration file is written. -/
def shape : Json.Shape ConfigFile where
  expected := "struct ConfigFile"
  members := [
    ⟨"user", fun f => return { f with user := ← Json.nullable Json.text }⟩,
    ⟨"direct", fun f => return { f with direct := ← Json.nullable DirectConfig.reader }⟩,
    ⟨"queue", fun f => return { f with queue := ← Json.nullable QueueConfig.reader }⟩]
  closed := true

/-- Reads a configuration file; what is not given is not configured. -/
def reader : Json.Reader ConfigFile :=
  Json.record shape {}

/-- The JSON form of a configuration file, with all members. -/
def json (f : ConfigFile) : String :=
  Json.object [("user", (f.user.map Json.string).getD Json.null),
    ("direct", (f.direct.map DirectConfig.json).getD Json.null),
    ("queue", (f.queue.map QueueConfig.json).getD Json.null)]

/-- The configuration in a file with the given name and content, or what is wrong with it. -/
def load (path : String) (content : Bytes) : Except String ConfigFile :=
  match Text.decode? content with
  | none => .error ("failed to read config file '" ++ path ++ "': stream did not contain valid UTF-8")
  | some text =>
    match Json.Reader.runWhole reader text with
    | .ok file => .ok file
    | .error failure => .error ("invalid config JSON: " ++ failure.message text)

end ConfigFile

end MessageRelay
