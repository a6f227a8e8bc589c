import MessageRelay.ChatLog
import MessageRelay.Event.Json

/-!
# The display list as data

The JSON form of the lines of a log: when a line was added, what it records, and the line.
-/

namespace MessageRelay

/-- The JSON form of what a line of the log records. -/
def EntryKind.json : EntryKind → String
  | incoming t => Json.object [("Incoming", Json.object [("transport", t.json)])]
  | outgoing => Json.string "Outgoing"
  | problem t => Json.object [("Problem", Json.object [("transport", t.json)])]

/-- The JSON form of a line of the log. -/
def LogEntry.json (e : LogEntry) : String :=
  Json.object
    [("at", Json.string e.at_.full), ("kind", e.kind.json), ("text", Json.string e.text)]

end MessageRelay
