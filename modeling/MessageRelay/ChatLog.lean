import MessageRelay.Event

/-!
# The display list

A session shows the most recent lines only.  The log keeps them oldest first and drops the oldest
one when a new line finds it full; it always has room for at least one.
-/

namespace MessageRelay

/-- When a line was added, as it is shown. -/
structure Stamp where
  /-- The time of day. -/
  clock : String := ""
  /-- Date and time. -/
  full : String := ""
  deriving DecidableEq, Repr

/-- What a line of the log records. -/
inductive EntryKind where
  /-- A message that came in. -/
  | incoming (transport : Transport)
  /-- A message of this session. -/
  | outgoing
  /-- A message that could not be sent, or something that is no message. -/
  | problem (transport : Transport)
  deriving DecidableEq, Repr

/-- One line of the log. -/
structure LogEntry where
  /-- When the line was added. -/
  at_ : Stamp := {}
  /-- What the line records. -/
  kind : EntryKind
  /-- The line itself. -/
  text : String
  deriving DecidableEq, Repr

/-- The lines a session shows. -/
structure ChatLog where
  /-- The lines kept, oldest first. -/
  entries : List LogEntry
  /-- How many lines are kept at most. -/
  capacity : Nat
  deriving DecidableEq, Repr

namespace ChatLog

/-- The number of lines that an interactive session keeps. -/
def defaultCapacity : Nat := 500

/-- An empty log for the given number of lines, but for one at least. -/
def new (capacity : Nat) : ChatLog :=
  ⟨[], max capacity 1⟩

/-- Adds a line; the oldest one makes room if the log is full. -/
def push (log : ChatLog) (entry : LogEntry) : ChatLog :=
  let kept := if log.entries.length = log.capacity then log.entries.tail else log.entries
  { log with entries := kept ++ [entry] }

/-- The line at the end, which is the one that was added last. -/
def newest? (log : ChatLog) : Option LogEntry :=
  log.entries[log.entries.length - 1]?

/-- Forgets every line. -/
def clear (log : ChatLog) : ChatLog :=
  { log with entries := [] }

/-- The line that records an event. -/
def entryOf (stamp : Stamp) : Event → LogEntry
  | .received t e => ⟨stamp, .incoming t, e.display⟩
  | .sendFailed t reason => ⟨stamp, .problem t, "send failed: " ++ reason⟩
  | .malformed t reason => ⟨stamp, .problem t, "malformed message dropped: " ++ reason⟩

/-- Adds the line that records an event. -/
def record (log : ChatLog) (stamp : Stamp) (event : Event) : ChatLog :=
  log.push (entryOf stamp event)

end ChatLog

end MessageRelay
