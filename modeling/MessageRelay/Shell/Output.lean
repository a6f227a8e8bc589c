import MessageRelay.ChatLog.Json
import MessageRelay.Shell.Style

/-!
# What is printed

Everything that the program says, for people and as data.  As data everything is one JSON object on
a line of its own, and nothing is styled.  The transcript of the chat goes to the standard output;
what went wrong goes to the standard error, so that it never gets into a transcript.
-/

namespace MessageRelay.Shell

/-- The two streams that a program writes to. -/
inductive Channel where
  /-- The standard output. -/
  | out
  /-- The standard error. -/
  | err
  deriving DecidableEq, Repr

/-- Something that is printed. -/
inductive Print where
  /-- A line of the chat. -/
  | line (channel : Channel) (l : Line)
  /-- A page about the command line. -/
  | page (channel : Channel) (p : Page)
  deriving DecidableEq, Repr

namespace Print

/-- Where something is printed. -/
def channel : Print → Channel
  | line channel _ | page channel _ => channel

/-- What is printed, up to the line end that follows it. -/
def render (styled : Bool) : Print → String
  | line _ l => l.render styled
  | page _ p => p.render styled

end Print

/-- How the program talks. -/
inductive Mode where
  /-- To people. -/
  | people
  /-- In JSON. -/
  | json
  deriving DecidableEq, Repr

/-- A line of the standard output. -/
def toOut (line : Line) : Print := .line .out line

/-- A line of the standard error. -/
def toErr (line : Line) : Print := .line .err line

namespace Mode

/-- Lines that only people get to see. -/
def chatter (m : Mode) (lines : List Line) : List Print :=
  match m with
  | people => lines.map toOut
  | json => []

/-- Something went well. -/
def success (m : Mode) (message : String) : Print :=
  toOut <| match m with
    | people => [⟨.boldGreen, "✓"⟩, plain (" " ++ message)]
    | json => [plain (Json.object [("message", Json.string message), ("status", Json.string "ok")])]

/-- A name and what it stands for. -/
def keyValue (m : Mode) (key value : String) : Print :=
  toOut <| match m with
    | people => [⟨.bold, key⟩, plain (": " ++ value)]
    | json => [plain (Json.object [(key, Json.string value)])]

/-- Something went wrong. -/
def failure (m : Mode) (message : String) : Print :=
  toErr <| match m with
    | people => [⟨.boldRed, "error:"⟩, plain (" " ++ message)]
    | json => [plain (Json.object [("error", Json.string message)])]

/-- What a relay reports, for people. -/
def showEvent : Event → Print
  | .received t e =>
    toOut [⟨.dimmed, "[" ++ t.display ++ "]"⟩, plain " ", ⟨.boldCyan, e.user⟩, plain " ",
      ⟨.dimmed, "|"⟩, plain (" " ++ e.text)]
  | .sendFailed t reason =>
    toErr [⟨.boldYellow, "send failed (" ++ t.display ++ "):"⟩, plain (" " ++ reason)]
  | .malformed t reason =>
    toErr [⟨.yellow, "dropped malformed message (" ++ t.display ++ "):"⟩, plain " ",
      ⟨.dimmed, reason⟩]

/-- What a relay reports. -/
def event (m : Mode) (e : Event) : Print :=
  match m with
  | people => showEvent e
  | json => toOut [plain e.json]

/-- The style of a line of the log. -/
def entryStyle : EntryKind → Style
  | .incoming _ => .plain
  | .outgoing => .green
  | .problem _ => .yellow

/-- A line of the log. -/
def logEntry (m : Mode) (e : LogEntry) : Print :=
  toOut <| match m with
    | people => [plain "  ", ⟨.dimmed, e.at_.clock⟩, plain " ", ⟨entryStyle e.kind, e.text⟩]
    | json => [plain e.json]

end Mode

end MessageRelay.Shell
