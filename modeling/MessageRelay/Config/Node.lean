import MessageRelay.Config.Direct
import MessageRelay.Config.Queue
import MessageRelay.Event

/-!
# Configuration of a node

A node runs a direct relay, a queue relay, or both, but not neither.
-/

namespace MessageRelay

/-- The settings of a node. -/
structure NodeConfig where
  /-- The direct relay, if there is one. -/
  direct : Option DirectConfig := none
  /-- The queue relay, if there is one. -/
  queue : Option QueueConfig := none
  deriving DecidableEq, Repr

namespace NodeConfig

/-- Refuses settings that make no sense. -/
def validate (c : NodeConfig) : Except RelayError Unit := do
  if c.direct.isNone && c.queue.isNone then
    throw (.config "at least one of direct or queue relay must be configured")
  match c.direct with
  | some direct => direct.validate
  | none => pure ()
  match c.queue with
  | some queue => queue.validate
  | none => pure ()

/-- The transports that are configured, direct first. -/
def transports (c : NodeConfig) : List Transport :=
  (if c.direct.isSome then [.direct] else []) ++ (if c.queue.isSome then [.queue] else [])

/-- How the settings are written. -/
def shape : Json.Shape NodeConfig where
  expected := "struct NodeConfig"
  members := [
    ⟨"direct", fun c => return { c with direct := ← Json.nullable DirectConfig.reader }⟩,
    ⟨"queue", fun c => return { c with queue := ← Json.nullable QueueConfig.reader }⟩]

/-- Reads the settings; what is not given is not configured. -/
def reader : Json.Reader NodeConfig :=
  Json.record shape {}

/-- The JSON form of the settings, with all members. -/
def json (c : NodeConfig) : String :=
  Json.object [("direct", (c.direct.map DirectConfig.json).getD Json.null),
    ("queue", (c.queue.map QueueConfig.json).getD Json.null)]

end NodeConfig

end MessageRelay
