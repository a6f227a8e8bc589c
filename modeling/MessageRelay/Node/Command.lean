import MessageRelay.Text.Quoted

/-!
# Commands

What a node can be asked to do, and how that is done without waiting.  When a command is shown, the text of a
message is left out: it is nobody's business but the receiver's.
-/

namespace MessageRelay

/-- Something that a node is asked to do. -/
inductive NodeCommand where
  /-- Send a message over every transport. -/
  | send (user text : String)
  /-- Say what the node's state is. -/
  | status
  /-- Stop. -/
  | shutdown
  deriving DecidableEq, Repr

/-- Something that is asked of a node without waiting for it. -/
inductive NodeCall where
  /-- Send a message.  If it is refused, that is reported as an event. -/
  | send (user text : String)
  /-- Do something, if there is room for the command.  Whoever asks is told whether there was. -/
  | request (command : NodeCommand)
  deriving DecidableEq, Repr

/-- A command as it is shown to a person. -/
def NodeCommand.describe : NodeCommand → String
  | send user _ => "SendMessage \x7b user_name: " ++ Text.quoted user ++ ", .. \x7d"
  | status => "GetStatus"
  | shutdown => "Shutdown"

end MessageRelay
