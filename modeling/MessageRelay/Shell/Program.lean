import MessageRelay.Exchange.Standalone
import MessageRelay.Shell.Session
import MessageRelay.Shell.Usage

/-!
# The program

From the command line to what happens: help, a complaint, a message that is sent, or a session.
-/

namespace MessageRelay.Shell

/-- What the program finds around it. -/
structure Surroundings where
  /-- The login name of the user. -/
  loginName : Option String
  /-- The content of a file, or why it cannot be read. -/
  contentOf : String → Except String Bytes

/-- How the program has started. -/
inductive Started where
  /-- It has printed something and is done, with an exit code. -/
  | done (prints : List Print) (code : Nat)
  /-- It has printed something and goes on. -/
  | running (prints : List Print) (session : Session)

namespace Program

/-- The configuration file that the command line names. -/
def loadFile (around : Surroundings) : Option String → Except String ConfigFile
  | none => .ok {}
  | some path =>
    match around.contentOf path with
    | .ok content => ConfigFile.load path content
    | .error reason => .error ("failed to read config file '" ++ path ++ "': " ++ reason)

/-- Brings up a node and starts it. -/
def startNode (config : NodeConfig) : Except String Exchange :=
  match Exchange.standalone config with
  | .error e => .error e.message
  | .ok x =>
    let (_, _, taken) := x.step (.takeReceiver 0)
    match taken.step (.start 0) with
    | (.failed e, _) => .error e.message
    | (_, _, started) => .ok started

/-- The failures among what a node reports. -/
def sendFailures (events : List Event) : List String :=
  events.filterMap fun
    | .sendFailed t reason => some (t.display ++ ": " ++ reason)
    | _ => none

/-- Sends one message and shows what the node reports in the given time. -/
def sendOne (mode : Mode) (x : Exchange) (user message : String) (waitMs : UInt64) : Started :=
  let (_, _, sent) := x.step (.burst 0 [.send user message])
  let events := match sent.step (.takeEvents (.node 0) none) with
    | (.events es, _) => if waitMs = 0 then [] else es
    | _ => []
  let shown := events.map mode.event
  let failures := sendFailures events
  if failures.isEmpty then .done (shown ++ [mode.success "sent"]) 0
  else .done (shown ++ [mode.failure ("send failed on " ++ "; ".intercalate failures)]) 1

/-- Starts the interactive mode. -/
def interact (mode : Mode) (x : Exchange) (config : ChatConfig) : Started :=
  let repl : Repl := { mode, user := config.user }
  .running (repl.banner config.node.transports) { exchange := x, repl }

/-- The settings and the node that an invocation asks for. -/
def prepare (around : Surroundings) (i : Invocation) : Except String (ChatConfig × Exchange) := do
  let file ← loadFile around i.config
  let config ← ChatConfig.resolve file i.overrides around.loginName
  return (config, ← startNode config.node)

/-- Does what an invocation asks for. -/
def perform (around : Surroundings) (i : Invocation) : Started :=
  let mode : Mode := if i.json then .json else .people
  match prepare around i with
  | .error message => .done [mode.failure message] 1
  | .ok (config, x) =>
    match i.action with
    | .interactive => interact mode x config
    | .send message waitMs => sendOne mode x config.user message waitMs

/-- Starts the program with the given arguments. -/
def start (around : Surroundings) (args : List String) : Started :=
  match Invocation.read args with
  | .error stop => .done [stop.print] stop.exitCode
  | .ok invocation => perform around invocation

end Program

end MessageRelay.Shell
