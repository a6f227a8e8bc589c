import MessageRelay.Exchange.Command
import MessageRelay.Shell.Repl
import MessageRelay.Text.Utf8Fault

/-!
# Sessions

A session is the interactive mode with its node.  It is given what the user types, byte by byte, and
takes it in line by line.  After each line everything that follows from it happens: messages go
round, and what the node reports is shown.
-/

namespace MessageRelay.Shell

/-- The interactive mode with its node. -/
structure Session where
  /-- The node, alone in an exchange. -/
  exchange : Exchange
  /-- The interactive mode. -/
  repl : Repl
  /-- What was typed of a line that has not ended yet. -/
  unread : Bytes := []
  deriving DecidableEq

/-- The lines in a sequence of bytes, each with its end, and what follows the last one. -/
def cutLines : Bytes → List Bytes × Bytes
  | [] => ([], [])
  | b :: rest =>
    let (lines, last) := cutLines rest
    if b = 10 then ([b] :: lines, last)
    else
      match lines with
      | [] => ([], b :: last)
      | line :: more => ((b :: line) :: more, last)

/-- What a line gives the interactive mode.  Its end is blank and makes no difference. -/
def Input.ofBytes (line : Bytes) : Input :=
  match Text.decode line with
  | .ok text => .line text
  | .error fault => .unreadable fault.message

namespace Session

/-- Does what is to be done. -/
def perform (s : Session) : Effect → List Print × Session
  | .print p => ([p], s)
  | .send user text =>
    let (_, _, exchange) := s.exchange.step (.burst 0 [.send user text])
    ([], { s with exchange })
  | .askStatus =>
    let (answer, _, exchange) := s.exchange.step (.status 0)
    let prints := match answer with
      | .status status => Repl.statusPrints s.repl.mode status
      | .failed e => [s.repl.mode.failure e.message]
      | _ => []
    (prints, { s with exchange })

/-- Does everything that is to be done, in order. -/
def performAll (s : Session) : List Effect → List Print × Session
  | [] => ([], s)
  | effect :: rest =>
    let (prints, s') := s.perform effect
    let (more, final) := s'.performAll rest
    (prints ++ more, final)

/-- Gives the interactive mode something. -/
def give (s : Session) (stamp : Stamp) (input : Input) : List Print × Session :=
  let (effects, repl) := s.repl.step stamp input
  ({ s with repl } : Session).performAll effects

/-- Gives the interactive mode one thing after the other. -/
def giveAll (s : Session) (stamp : Stamp) : List Input → List Print × Session
  | [] => ([], s)
  | input :: rest =>
    let (prints, s') := s.give stamp input
    let (more, final) := s'.giveAll stamp rest
    (prints ++ more, final)

/-- Gives the interactive mode what the node reports. -/
def collect (s : Session) (stamp : Stamp) : List Print × Session :=
  if s.repl.left then ([], s)
  else
    let (answer, _, exchange) := s.exchange.step (.takeEvents (.node 0) none)
    let events := match answer with
      | .events es => es
      | _ => []
    ({ s with exchange } : Session).giveAll stamp (events.map .event)

/-- Gives the interactive mode something, and lets everything that follows from it happen. -/
def react (s : Session) (stamp : Stamp) (input : Input) : List Print × Session :=
  let (prints, given) := s.give stamp input
  let (more, final) := given.collect stamp
  (prints ++ more, final)

/-- Lets one thing after the other happen. -/
def reactAll (s : Session) (stamp : Stamp) : List Input → List Print × Session
  | [] => ([], s)
  | input :: rest =>
    let (prints, s') := s.react stamp input
    let (more, final) := s'.reactAll stamp rest
    (prints ++ more, final)

/-- Takes in what the user typed. -/
def feed (s : Session) (stamp : Stamp) (bytes : Bytes) : List Print × Session :=
  let (lines, unread) := cutLines (s.unread ++ bytes)
  ({ s with unread } : Session).reactAll stamp (lines.map .ofBytes)

/-- Takes in that the user types nothing any more: a line without an end is a line as well. -/
def hangUp (s : Session) (stamp : Stamp) : List Print × Session :=
  let last := if s.unread.isEmpty then [] else [Input.ofBytes s.unread]
  ({ s with unread := [] } : Session).reactAll stamp (last ++ [.ended])

end Session

end MessageRelay.Shell
