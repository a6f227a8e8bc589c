import MessageRelay.Config.Resolve
import MessageRelay.Decimal.Whole
import MessageRelay.Shell.Grammar
import MessageRelay.Text.Similarity

/-!
# Reading the command line

Arguments are read from left to right.  The value of an option is looked at only when the argument
behind it is understood; whatever starts with a dash is never taken for a value.  The first thing
that is wrong is what the user is told about, together with how the program is used and, if there is
one, a tip.

An option that is given before the command and again behind it has the value it was given behind it.
-/

namespace MessageRelay.Shell

/-! ## Complaints -/

/-- What may help the user. -/
inductive Tip where
  /-- There is an option with a similar name. -/
  | similarOption (o : Opt)
  /-- There are commands with similar names. -/
  | similarCommands (words : List String)
  /-- There is such an option behind a command. -/
  | optionOf (command : Level) (o : Opt)
  /-- The argument can be given as a message. -/
  | asMessage
  /-- The argument is a command if the two dashes are left out. -/
  | dropDashes
  deriving DecidableEq, Repr

/-- What is wrong with a command line. -/
inductive Complaint where
  /-- An argument that has no place. -/
  | unexpected (argument : String) (tip : Option Tip)
  /-- A command that does not exist. -/
  | unknownCommand (word : String) (tip : Option Tip)
  /-- An option that is given twice. -/
  | repeated (o : Opt)
  /-- An option whose value makes no sense. -/
  | badValue (o : Opt) (value reason : String)
  /-- An option without its value. -/
  | noValue (o : Opt)
  /-- An option with a value that it does not take. -/
  | unneededValue (o : Opt) (value : String)
  /-- The message is missing. -/
  | noMessage
  deriving DecidableEq, Repr

/-- How the program is used. -/
inductive UsageLine where
  /-- All that can be given at a level. -/
  | full (l : Level)
  /-- What has to be given at a level, and some options. -/
  | brief (l : Level) (options : List Opt)
  /-- Some options and, all together, the parts that belong to a level itself. -/
  | grouped (l : Level) (options : List Opt)
  deriving DecidableEq, Repr

/-- Why a command line is not followed. -/
inductive Stop where
  /-- Help was asked for. -/
  | help (l : Level)
  /-- The version was asked for. -/
  | version
  /-- Something is wrong at a level. -/
  | wrong (l : Level) (complaint : Complaint) (usage : Option UsageLine)
  deriving DecidableEq, Repr

/-! ## Values -/

/-- What was given at a level. -/
structure Given where
  /-- Whether the program is to talk in JSON. -/
  json : Bool := false
  /-- The name of the configuration file. -/
  config : Option String := none
  /-- Settings that win over those in the file. -/
  overrides : Overrides := {}
  /-- How long to wait after sending. -/
  waitMs : Option UInt64 := none
  /-- The message. -/
  message : Option String := none
  deriving DecidableEq, Repr

/-- The whole number, from 0 to the given one, that a text denotes. -/
def readUpTo (limit : Nat) (value : String) : Except String Nat :=
  match Decimal.readSigned64 value with
  | .error fault => .error fault.message
  | .ok (.ofNat n) =>
    if n ≤ limit then .ok n
    else .error (toString n ++ " is not in 0..=" ++ toString limit)
  | .ok n => .error (toString n ++ " is not in 0..=" ++ toString limit)

/-- The whole number of 64 bits that a text denotes. -/
def readWord64 (value : String) : Except String UInt64 :=
  match Decimal.readUnsigned (UInt64.size - 1) value with
  | .error fault => .error fault.message
  | .ok n => .ok (UInt64.ofNat n)

namespace Given

/-- Takes the value of an option. -/
def set (g : Given) (o : Opt) (value : String) : Except String Given :=
  let o' := g.overrides
  match o with
  | .json => .ok { g with json := true }
  | .config => .ok { g with config := some value }
  | .user => .ok { g with overrides := { o' with user := some value } }
  | .listenPort => do
    let n ← readUpTo 65535 value
    return { g with overrides := { o' with listenPort := some (UInt16.ofNat n) } }
  | .peer => .ok { g with overrides := { o' with peer := some value } }
  | .broker => .ok { g with overrides := { o' with broker := some value } }
  | .queue => .ok { g with overrides := { o' with queue := some value } }
  | .ackMode =>
    match AckMode.parse value with
    | .ok mode => .ok { g with overrides := { o' with ackMode := some mode } }
    | .error e => .error e.message
  | .connectAttempts => do
    let n ← readUpTo 4294967295 value
    return { g with overrides := { o' with connectAttempts := some (UInt32.ofNat n) } }
  | .connectTimeout => do
    return { g with overrides := { o' with connectTimeoutMs := some (← readWord64 value) } }
  | .requestTimeout => do
    return { g with overrides := { o' with requestTimeoutMs := some (← readWord64 value) } }
  | .waitMs => do return { g with waitMs := some (← readWord64 value) }
  | .help | .version => .ok g

/-- What was given behind the command, and else what was given before it. -/
def orElse (later earlier : Given) : Given where
  json := later.json || earlier.json
  config := later.config.or earlier.config
  overrides :=
    let l := later.overrides
    let e := earlier.overrides
    { user := l.user.or e.user
      listenPort := l.listenPort.or e.listenPort
      peer := l.peer.or e.peer
      broker := l.broker.or e.broker
      queue := l.queue.or e.queue
      ackMode := l.ackMode.or e.ackMode
      connectAttempts := l.connectAttempts.or e.connectAttempts
      connectTimeoutMs := l.connectTimeoutMs.or e.connectTimeoutMs
      requestTimeoutMs := l.requestTimeoutMs.or e.requestTimeoutMs }
  waitMs := later.waitMs.or earlier.waitMs
  message := later.message.or earlier.message

end Given

/-! ## One level -/

/-- An option that was seen and whose value, if it has been seen, was not looked at yet. -/
structure Pending where
  /-- The option. -/
  option : Opt
  /-- Its value. -/
  value : Option String := none
  deriving DecidableEq, Repr

/-- How far the arguments of a level have been read. -/
structure Scan where
  /-- The level. -/
  level : Level
  /-- What was given. -/
  given : Given := {}
  /-- The options that were given, in order. -/
  used : List Opt := []
  /-- The option that comes next. -/
  pending : Option Pending := none
  /-- Whether a message was given and looked at. -/
  seen : Bool := false
  /-- Whether two dashes were seen, behind which nothing is an option or a command. -/
  dashed : Bool := false
  deriving DecidableEq, Repr

namespace Scan

/-- A complaint with all that can be given. -/
def complain (s : Scan) (c : Complaint) : Stop :=
  .wrong s.level c (some (.full s.level))

/-- A complaint about a value, which comes without usage. -/
def complainValue (s : Scan) (c : Complaint) : Stop :=
  .wrong s.level c none

/-- Whether the next argument is the value of an option, unless it starts with a dash. -/
def awaitsValue (s : Scan) : Bool :=
  s.pending.any (·.value.isNone)

/-- Looks at an option and its value. -/
def take (s : Scan) (o : Opt) (value : String) : Except Stop Scan :=
  if o ∈ s.used then .error (s.complain (.repeated o))
  else if o = .config && value.isEmpty then .error (s.complainValue (.noValue o))
  else
    match s.given.set o value with
    | .ok given => .ok { s with given, used := s.used ++ [o], pending := none }
    | .error reason => .error (s.complainValue (.badValue o value reason))

/-- Looks at the message and the option that come next, if there are any. -/
def settle (s : Scan) : Except Stop Scan :=
  let s := { s with seen := s.given.message.isSome }
  match s.pending with
  | none => .ok s
  | some ⟨o, none⟩ => .error (s.complainValue (.noValue o))
  | some ⟨o, some value⟩ => s.take o value

/-- The options that have been used once the one that comes next has been, right or wrong. -/
def settledUse (s : Scan) : List Opt :=
  match s.pending with
  | none | some ⟨_, none⟩ => s.used
  | some ⟨o, some _⟩ => if o ∈ s.used then s.used.erase o else s.used ++ [o]

/-- How the program is used, given what has been used so far. -/
def usageWith (s : Scan) (used : List Opt) : UsageLine :=
  if used.isEmpty && s.given.message.isNone then .full s.level else .brief s.level used.eraseDups

/-- Whether something was given that belongs to the level itself. -/
def hasOwn (s : Scan) : Bool :=
  s.level.group.any fun
    | .option o => s.used.contains o
    | .message => s.seen

/-- How the program is used by somebody who gives an option a value that it does not take. -/
def usageOfFlag (s : Scan) (o : Opt) : UsageLine :=
  let options := (s.used ++ [o]).eraseDups
  if s.hasOwn then .grouped s.level options else .brief s.level options

/-- The option that may have been meant by a name. -/
def meant? (l : Level) (name : String) : Option Opt :=
  (Text.similarWords name (l.options.map (·.name))).getLast?.bind l.option?

/-- The command, among those whose names follow, behind which a name may have been meant; of several
the one that follows first. -/
def meantBehind? (l : Level) (name : String) (rest : List String) : Option (Level × Opt) :=
  rest.findSome? fun word =>
    (l.command? word).bind fun command => (meant? command name).map fun o => (command, o)

/-- The tip for an option that does not exist. -/
def optionTip (s : Scan) (name : String) (rest : List String) : Option Tip :=
  match meant? s.level name, meantBehind? s.level name rest with
  | some o, _ => some (.similarOption o)
  | none, some (command, o) => some (.optionOf command o)
  | none, none => if s.level = .send then some .asMessage else none

/-- The complaint about an option that does not exist. -/
def unknownOption (s : Scan) (name : String) (rest : List String) : Stop :=
  let tip := s.optionTip name rest
  let used := match tip with
    | some (.similarOption o) => s.settledUse ++ [o]
    | _ => s.settledUse
  .wrong s.level (.unexpected ("--" ++ name) tip) (some (s.usageWith used))

/-- The complaint about a letter that is no option. -/
def unknownLetter (s : Scan) (c : Char) : Stop :=
  let tip := if s.level = .send then some Tip.asMessage else none
  s.complain (.unexpected (String.ofList ['-', c]) tip)

/-- The complaint about a word that has no place. -/
def misplaced (s : Scan) (word : String) : Stop :=
  let similar := Text.similarWords word (s.level.commands.map (·.word))
  if s.dashed && (s.level.command? word).isSome then
    s.complain (.unexpected word (some .dropDashes))
  else if !similar.isEmpty then
    s.complain (.unknownCommand word (some (.similarCommands similar)))
  else if !s.level.commands.isEmpty then s.complain (.unknownCommand word none)
  else s.complain (.unexpected word none)

/-- An option without a value. -/
def flag (s : Scan) (o : Opt) : Except Stop Scan := do
  let s ← s.settle
  match o with
  | .help => throw (.help s.level)
  | .version => throw .version
  | o => s.take o ""

/-- An argument that starts with two dashes. -/
def long (s : Scan) (name : String) (value : Option String) (rest : List String) :
    Except Stop Scan :=
  match s.level.option? name with
  | none => .error (s.unknownOption name rest)
  | some o =>
    match o.value?, value with
    | some _, some value => do (← s.settle).take o value
    | some _, none => do return { ← s.settle with pending := some { option := o } }
    | none, some value =>
      .error (.wrong s.level (.unneededValue o value) (some (s.usageOfFlag o)))
    | none, none => s.flag o

/-- Letters behind one dash. -/
def letters (s : Scan) : List Char → Except Stop Scan
  | [] => .ok s
  | c :: rest =>
    match s.level.letter? c with
    | none => .error (s.unknownLetter c)
    | some o => do (← s.flag o).letters rest

/-- An argument that is no option and no value: the message, if there is a place for it. -/
def word (s : Scan) (w : String) : Except Stop Scan :=
  if s.level = .send && s.given.message.isNone then do
    let s ← s.settle
    return { s with given := { s.given with message := some w } }
  else .error (s.misplaced w)

/-- The name and the value of an option in one argument. -/
def cutOption (cs : List Char) : String × Option String :=
  match Text.cutFirst? ['='] cs with
  | some (name, value) => (String.ofList name, some (String.ofList value))
  | none => (String.ofList cs, none)

/-- Reads one argument that is no command. -/
def argument (s : Scan) (arg : String) (rest : List String) : Except Stop Scan :=
  if s.dashed then s.word arg
  else
    match arg.toList with
    | ['-', '-'] => .ok { s with dashed := true }
    | '-' :: '-' :: cs => let (name, value) := cutOption cs; s.long name value rest
    | '-' :: c :: cs => s.letters (c :: cs)
    | _ =>
      match s.pending with
      | some ⟨o, none⟩ => .ok { s with pending := some ⟨o, some arg⟩ }
      | _ => s.word arg

/-- The command that an argument names, where one can be given. -/
def commandHere? (s : Scan) (arg : String) : Option Level :=
  if s.dashed || s.awaitsValue then none else s.level.command? arg

/-- Reads arguments up to a command; the command comes with the arguments behind it. -/
def arguments (s : Scan) : List String → Except Stop (Scan × Option (Level × List String))
  | [] => .ok (s, none)
  | arg :: rest =>
    match s.commandHere? arg with
    | some command => .ok (s, some (command, rest))
    | none => do (← s.argument arg rest).arguments rest

/-- What was given at a level, once all of its arguments have been read. -/
def finish (s : Scan) : Except Stop Given := do
  let s ← s.settle
  if s.level = .send && s.given.message.isNone then
    throw (.wrong s.level .noMessage (some (.brief s.level s.used)))
  return s.given

end Scan

/-! ## The whole line -/

/-- What the program is to do. -/
inductive Action where
  /-- Start the interactive mode. -/
  | interactive
  /-- Send one message and wait for a while. -/
  | send (message : String) (waitMs : UInt64)
  deriving DecidableEq, Repr

/-- What a command line asks for. -/
structure Invocation where
  /-- Whether the program is to talk in JSON. -/
  json : Bool
  /-- The name of the configuration file. -/
  config : Option String
  /-- Settings that win over those in the file. -/
  overrides : Overrides
  /-- What to do. -/
  action : Action
  deriving DecidableEq, Repr

namespace Invocation

/-- How long the program waits after sending if nothing else is asked for. -/
def defaultWaitMs : UInt64 := 500

/-- What was given as a whole asks for. -/
def ofGiven (g : Given) : Invocation where
  json := g.json
  config := g.config
  overrides := g.overrides
  action := match g.message with
    | some message => .send message (g.waitMs.getD defaultWaitMs)
    | none => .interactive

/-- The help that is asked for by the names of commands. -/
def helpFor (l : Level) : List String → Stop
  | [] => .help l
  | word :: rest =>
    match l.command? word with
    | some command => helpFor command rest
    | none => .wrong l (.unknownCommand word none) (some (.full l))

/-- Reads a command line. -/
def read (args : List String) : Except Stop Invocation := do
  match ← ({ level := .general } : Scan).arguments args with
  | (general, none) => return ofGiven (← general.finish)
  | (_, some (.help, rest)) => throw (helpFor .general rest)
  | (general, some (command, rest)) =>
    let (scan, _) ← ({ level := command } : Scan).arguments rest
    let behind ← scan.finish
    return ofGiven (behind.orElse (← general.finish))

end Invocation

end MessageRelay.Shell
