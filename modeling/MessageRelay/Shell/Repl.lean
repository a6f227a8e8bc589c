import MessageRelay.Node
import MessageRelay.Shell.Output
import MessageRelay.Text.Blank
import MessageRelay.Text.Split

/-!
# The interactive mode

A line that the user enters is a message, unless it starts with a slash: then it is a command.
Nothing else is ever sent, and a command never is.  What is sent and what comes in is shown and kept
in the log of the session.

The interactive mode is a machine that is given one thing after the other, lines and events in
whatever order they come, and answers each with what is to be done about it.  Once it has been left
it does nothing any more.
-/

namespace MessageRelay.Shell

/-- What a line asks for. -/
inductive Entered where
  /-- Nothing: the line is blank. -/
  | nothing
  /-- Send a message. -/
  | message (text : String)
  /-- Leave. -/
  | quit
  /-- Use another name; the name may be missing. -/
  | setUser (name : String)
  /-- Show the log. -/
  | history
  /-- Forget the log. -/
  | clear
  /-- Show what the node says about itself. -/
  | status
  /-- Show the commands. -/
  | help
  /-- A command that does not exist. -/
  | unknown (word : String)
  deriving DecidableEq, Repr

namespace Entered

/-- The command with the given first word and the given rest. -/
def ofWord (word argument : String) : Entered :=
  match word with
  | "/quit" | "/exit" | "/q" => quit
  | "/user" => setUser argument
  | "/history" => history
  | "/clear" => clear
  | "/status" => status
  | "/help" => help
  | _ => unknown word

/-- The command in a text: its first word ends at the first space. -/
def ofCommand (cs : List Char) : Entered :=
  match Text.cutFirst? [' '] cs with
  | some (word, argument) =>
    ofWord (String.ofList word) (String.ofList (Text.trimChars argument))
  | none => ofWord (String.ofList cs) ""

/-- What a line asks for. -/
def ofLine (line : String) : Entered :=
  match Text.trimChars line.toList with
  | [] => nothing
  | '/' :: rest => ofCommand ('/' :: rest)
  | c :: rest => message (String.ofList (c :: rest))

end Entered

/-- What the interactive mode is given. -/
inductive Input where
  /-- A line that the user entered. -/
  | line (text : String)
  /-- The input cannot be read any further. -/
  | unreadable (reason : String)
  /-- The input has ended. -/
  | ended
  /-- The user interrupted the program. -/
  | interrupted
  /-- Something that a relay reports. -/
  | event (e : Event)
  deriving DecidableEq

/-- What is to be done. -/
inductive Effect where
  /-- Print something. -/
  | print (p : Print)
  /-- Give the node a message to send. -/
  | send (user text : String)
  /-- Ask the node about itself, and print its answer. -/
  | askStatus
  deriving DecidableEq

/-- The interactive mode. -/
structure Repl where
  /-- How it talks. -/
  mode : Mode
  /-- The name that is attached to messages. -/
  user : String
  /-- What was sent and what came in. -/
  log : ChatLog := .new ChatLog.defaultCapacity
  /-- Whether it has been left. -/
  left : Bool := false
  deriving DecidableEq

namespace Repl

/-- What is printed at the start. -/
def banner (r : Repl) (transports : List Transport) : List Print :=
  r.mode.chatter
    [[plain ""],
     [⟨.boldBrightCyan, "chatrelay interactive mode"⟩],
     [plain "  User:       ", ⟨.green, r.user⟩],
     [plain ("  Transports: " ++ ", ".intercalate (transports.map Transport.display))],
     [plain "Commands: ", ⟨.bold, "/user <name>"⟩, plain " ", ⟨.bold, "/history"⟩, plain " ",
       ⟨.bold, "/clear"⟩, plain " ", ⟨.bold, "/status"⟩, plain " ", ⟨.bold, "/quit"⟩],
     [plain ""]]

/-- The commands and what they do. -/
def helpLines : List Line :=
  [[plain "  /user <name>  set the name attached to your messages"],
   [plain "  /history      show this session's messages"],
   [plain "  /clear        forget this session's messages"],
   [plain "  /status       show node status"],
   [plain "  /quit         exit interactive mode"]]

/-- What is printed for what a node says about itself. -/
def statusPrints (m : Mode) (s : NodeStatus) : List Print :=
  [m.keyValue "State" s.state.display] ++
    (s.listenAddress.map fun address => m.keyValue "Listening" address.display).toList ++
    (s.peerEndpoint.map fun endpoint => m.keyValue "Peer" endpoint).toList ++
    [m.keyValue "Queue" s.queueName,
      m.keyValue "Ack mode" s.ackMode.display,
      m.keyValue "Sent" (toString s.sent)]

/-- Only prints something. -/
def tell (r : Repl) (prints : List Print) : List Effect × Repl :=
  (prints.map .print, r)

/-- Prints something, says goodbye, and leaves. -/
def leave (r : Repl) (prints : List Print) : List Effect × Repl :=
  ((prints ++ r.mode.chatter [[⟨.dimmed, "Goodbye."⟩]]).map .print, { r with left := true })

/-- What is printed for the log. -/
def historyPrints (r : Repl) : List Print :=
  if r.log.entries.isEmpty then r.mode.chatter [[plain "  ", ⟨.dimmed, "(no messages yet)"⟩]]
  else r.log.entries.map r.mode.logEntry

/-- Does what the user entered. -/
def enter (r : Repl) (stamp : Stamp) : Entered → List Effect × Repl
  | .nothing => ([], r)
  | .message text =>
    let entry : LogEntry := ⟨stamp, .outgoing, r.user ++ " | " ++ text⟩
    ([.send r.user text], { r with log := r.log.push entry })
  | .quit => r.leave []
  | .setUser name =>
    if name.isEmpty then r.tell [r.mode.failure "usage: /user <name>"]
    else
      ({ r with user := name } : Repl).tell
        (r.mode.chatter [[plain "  ", ⟨.green, "user set:"⟩, plain (" " ++ name)]])
  | .history => r.tell r.historyPrints
  | .clear =>
    ({ r with log := r.log.clear } : Repl).tell
      (r.mode.chatter [[plain "  ", ⟨.dimmed, "history cleared"⟩]])
  | .status => ([.askStatus], r)
  | .help => r.tell (r.mode.chatter helpLines)
  | .unknown word =>
    r.tell [r.mode.failure ("unknown command '" ++ word ++ "' (try /help)")]

/-- Deals with what it is given, unless it has been left. -/
def step (r : Repl) (stamp : Stamp) (input : Input) : List Effect × Repl :=
  if r.left then ([], r)
  else
    match input with
    | .line text => r.enter stamp (.ofLine text)
    | .unreadable reason => r.leave [r.mode.failure ("failed to read input: " ++ reason)]
    | .ended => r.leave []
    | .interrupted =>
      r.leave (r.mode.chatter [[plain ""], [⟨.dimmed, "Exiting interactive mode."⟩]])
    | .event e =>
      ({ r with log := r.log.record stamp e } : Repl).tell [r.mode.event e]

/-- Deals with one thing after the other. -/
def run (r : Repl) : List (Stamp × Input) → List Effect × Repl
  | [] => ([], r)
  | (stamp, input) :: rest =>
    let (effects, r') := r.step stamp input
    let (more, final) := r'.run rest
    (effects ++ more, final)

end Repl

end MessageRelay.Shell
