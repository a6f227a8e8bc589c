/-!
# The command line

The program has two commands and can print help.  All options can be given before the command and
behind it, except for those that belong to one command only.
-/

namespace MessageRelay.Shell

/-- The parts of the command line: what stands before the command, and what stands behind it. -/
inductive Level where
  /-- Before the command, or without one. -/
  | general
  /-- Behind the command that starts the interactive mode. -/
  | run
  /-- Behind the command that sends one message. -/
  | send
  /-- Behind the command that prints help. -/
  | help
  deriving DecidableEq, Repr

/-- The options. -/
inductive Opt where
  | json
  | config
  | user
  | listenPort
  | peer
  | broker
  | queue
  | ackMode
  | connectAttempts
  | connectTimeout
  | requestTimeout
  | waitMs
  | help
  | version
  deriving DecidableEq, Repr

namespace Opt

/-- The name of an option, which follows two dashes. -/
def name : Opt → String
  | json => "json"
  | config => "config"
  | user => "user"
  | listenPort => "listen-port"
  | peer => "peer"
  | broker => "broker"
  | queue => "queue"
  | ackMode => "ack-mode"
  | connectAttempts => "connect-attempts"
  | connectTimeout => "connect-timeout"
  | requestTimeout => "request-timeout"
  | waitMs => "wait-ms"
  | help => "help"
  | version => "version"

/-- The letter of an option that has one, which follows one dash. -/
def letter? : Opt → Option Char
  | help => some 'h'
  | version => some 'V'
  | _ => none

/-- What the value of an option is called, if it takes one. -/
def value? : Opt → Option String
  | json | help | version => none
  | config => some "<CONFIG>"
  | user => some "<USER>"
  | listenPort => some "<LISTEN_PORT>"
  | peer => some "<PEER>"
  | broker => some "<BROKER>"
  | queue => some "<QUEUE>"
  | ackMode => some "<ACK_MODE>"
  | connectAttempts => some "<CONNECT_ATTEMPTS>"
  | connectTimeout => some "<CONNECT_TIMEOUT>"
  | requestTimeout => some "<REQUEST_TIMEOUT>"
  | waitMs => some "<WAIT_MS>"

/-- What an option is for. -/
def about : Opt → String
  | json => "Output in JSON format (no colors, machine-readable)"
  | config => "JSON config file. Flags override its values"
  | user => "Display name attached to outgoing messages"
  | listenPort => "Port the direct relay listens on"
  | peer => "Direct relay peer, as host:port or http(s):// URI"
  | broker => "Broker URI (amqp://, amqps:// or memory://)"
  | queue => "Queue joined on startup"
  | ackMode => "Acknowledgement mode for consumed messages: auto or manual"
  | connectAttempts => "Connection attempts before giving up on a peer or broker"
  | connectTimeout => "Connect timeout in milliseconds"
  | requestTimeout => "Per-request timeout in milliseconds"
  | waitMs => "How long to keep listening after sending, in milliseconds [default: 500]"
  | help => "Print help"
  | version => "Print version"

/-- An option as it is typed. -/
def flag (o : Opt) : String :=
  "--" ++ o.name

/-- An option with what its value is called. -/
def display (o : Opt) : String :=
  match o.value? with
  | some value => o.flag ++ " " ++ value
  | none => o.flag

/-- The options that take a value and can be given everywhere. -/
def common : List Opt :=
  [config, user, listenPort, peer, broker, queue, ackMode, connectAttempts, connectTimeout,
    requestTimeout]

end Opt

/-- What can be given at a level besides commands. -/
inductive Part where
  /-- An option. -/
  | option (o : Opt)
  /-- The message. -/
  | message
  deriving DecidableEq, Repr

/-- A part among others of which one can be given. -/
def Part.display : Part → String
  | option o => o.display
  | message => "TEXT"

namespace Level

/-- The name of the program. -/
def program : String := "chatrelay"

/-- The word that leads to a level. -/
def word : Level → String
  | general => program
  | run => "run"
  | send => "send"
  | help => "help"

/-- A level as it is reached. -/
def path : Level → String
  | general => program
  | l => program ++ " " ++ l.word

/-- What a level is for. -/
def about : Level → String
  | general => "Terminal chat shell for the chatrelay node"
  | run => "Interactive chat mode (REPL). The default"
  | send => "Send one message, print what arrives for a moment, then exit"
  | help => "Print this message or the help of the given subcommand(s)"

/-- The commands that can be given at a level. -/
def commands : Level → List Level
  | general => [run, send, help]
  | _ => []

/-- The options that can be given at a level, in the order in which they are listed. -/
def options : Level → List Opt
  | general => .json :: Opt.common ++ [.help, .version]
  | run => .json :: Opt.common ++ [.help]
  | send => .json :: .waitMs :: Opt.common ++ [.help]
  | help => []

/-- What else can be given at a level. -/
def operand? : Level → Option String
  | general => some "[COMMAND]"
  | run => none
  | send => some "<TEXT>"
  | help => some "[COMMAND]..."

/-- The parts that belong to a level itself and not to all levels. -/
def group : Level → List Part
  | general => (.json :: Opt.common).map .option
  | send => [.message, .option .waitMs]
  | run | help => []

/-- The command with the given name. -/
def command? (l : Level) (word : String) : Option Level :=
  l.commands.find? (·.word == word)

/-- The option with the given name. -/
def option? (l : Level) (name : String) : Option Opt :=
  l.options.find? (·.name == name)

/-- The option with the given letter. -/
def letter? (l : Level) (c : Char) : Option Opt :=
  l.options.find? (·.letter? == some c)

end Level

end MessageRelay.Shell
