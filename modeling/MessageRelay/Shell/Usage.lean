import MessageRelay.Shell.Arguments
import MessageRelay.Shell.Output

/-!
# Help and complaints

The texts about the command line: how the program is used, what its commands and options are, and
what is wrong with what was given.
-/

namespace MessageRelay.Shell

/-! ## Usage -/

/-- An option with what its value is called. -/
def Opt.spans (o : Opt) : Line :=
  ⟨.bold, o.flag⟩ :: match o.value? with
    | some value => [plain (" " ++ value)]
    | none => []

namespace UsageLine

/-- The spans of what has to be given at a level. -/
def operandSpans (operand : Option String) : Line :=
  match operand with
  | some operand => [plain (" " ++ operand)]
  | none => []

/-- How the program is used, behind the heading. -/
def spans : UsageLine → Line
  | full l =>
    ⟨.bold, l.path⟩ :: (if l.options.isEmpty then [] else [plain " [OPTIONS]"]) ++
      operandSpans l.operand?
  | brief l options =>
    ⟨.bold, l.path⟩ :: options.flatMap (fun o => plain " " :: o.spans) ++
      operandSpans (if l = .general then none else l.operand?)
  | grouped l options =>
    ⟨.bold, l.path⟩ ::
      (options.filter fun o => !l.group.contains (.option o)).flatMap (fun o => plain " " :: o.spans) ++
      [plain (" <" ++ "|".intercalate (l.group.map Part.display) ++ ">")]

/-- How the program is used. -/
def line (u : UsageLine) : Line :=
  ⟨.heading, "Usage:"⟩ :: plain " " :: u.spans

end UsageLine

/-! ## Help -/

namespace Level

/-- A command and what it is for. -/
def commandLine (width : Nat) (l : Level) : Line :=
  [plain "  ", ⟨.bold, l.word⟩,
    plain (String.ofList (List.replicate (width - l.word.length + 2) ' ') ++ l.about)]

/-- The list of commands. -/
def commandLines (l : Level) : List Line :=
  if l.commands.isEmpty then []
  else [plain ""] :: [⟨.heading, "Commands:"⟩] :: l.commands.map (commandLine 4)

/-- What else can be given. -/
def operandLines (l : Level) : List Line :=
  match l with
  | send => [[plain ""], [⟨.heading, "Arguments:"⟩], [plain "  <TEXT>  Message text"]]
  | help =>
    [[plain ""], [⟨.heading, "Arguments:"⟩],
      [plain "  [COMMAND]...  Print help for the subcommand(s)"]]
  | general | run => []

/-- An option and, on the next line, what it is for. -/
def optionLine (o : Opt) : List Line :=
  [match o.letter? with
    | some c => [plain "  ", ⟨.bold, String.ofList ['-', c]⟩, plain ", "] ++ o.spans
    | none => plain "      " :: o.spans,
   [plain ("          " ++ o.about)]]

/-- The list of options. -/
def optionLines (l : Level) : List Line :=
  if l.options.isEmpty then []
  else [plain ""] :: [⟨.heading, "Options:"⟩] :: l.options.flatMap optionLine

/-- The help for a level. -/
def helpLines (l : Level) : List Line :=
  [plain l.about] :: [plain ""] :: (UsageLine.full l).line ::
    (l.commandLines ++ l.operandLines ++ l.optionLines)

end Level

/-- The version of the program. -/
def versionLine : Line := [plain (Level.program ++ " 0.1.0")]

/-! ## Complaints -/

/-- A text between quotes. -/
def inQuotes (style : Style) (text : String) : Line :=
  [plain "'", ⟨style, text⟩, plain "'"]

namespace Complaint

/-- What is wrong. -/
def spans : Complaint → Line
  | unexpected argument _ =>
    plain "unexpected argument " :: inQuotes .yellow argument ++ [plain " found"]
  | unknownCommand word _ => plain "unrecognized subcommand " :: inQuotes .yellow word
  | repeated o =>
    plain "the argument " :: inQuotes .yellow o.display ++ [plain " cannot be used multiple times"]
  | badValue o value reason =>
    plain "invalid value " :: inQuotes .yellow value ++ plain " for " :: inQuotes .bold o.display ++
      [plain (": " ++ reason)]
  | noValue o =>
    plain "a value is required for " :: inQuotes .yellow o.display ++
      [plain " but none was supplied"]
  | unneededValue o value =>
    plain "unexpected value " :: inQuotes .yellow value ++ plain " for " :: inQuotes .bold o.display
      ++ [plain " found; no more were expected"]
  | noMessage => [plain "the following required arguments were not provided:"]

/-- The tip that belongs to a complaint. -/
def tip? : Complaint → Option Tip
  | unexpected _ tip => tip
  | unknownCommand _ tip => tip
  | _ => none

/-- The argument that a complaint is about. -/
def argument : Complaint → String
  | unexpected argument _ => argument
  | unknownCommand word _ => word
  | _ => ""

end Complaint

namespace Tip

/-- What may help with the given argument. -/
def spans (argument : String) : Tip → Line
  | similarOption o => plain "a similar argument exists: " :: inQuotes .green o.flag
  | similarCommands [word] => plain "a similar subcommand exists: " :: inQuotes .green word
  | similarCommands words =>
    plain "some similar subcommands exist: " ::
      [plain ", "].intercalate (words.map (inQuotes .green))
  | optionOf command o => inQuotes .green (command.word ++ " " ++ o.flag) ++ [plain " exists"]
  | asMessage =>
    plain "to pass " :: inQuotes .yellow argument ++ plain " as a value, use " ::
      inQuotes .green ("-- " ++ argument)
  | dropDashes =>
    plain "subcommand " :: inQuotes .green argument ++ plain " exists; to use it, remove the " ::
      inQuotes .yellow "--" ++ [plain " before it"]

/-- A tip on a line of its own. -/
def line (argument : String) (t : Tip) : Line :=
  plain "  " :: ⟨.green, "tip:"⟩ :: plain " " :: t.spans argument

end Tip

namespace Stop

/-- What stands below the first line of a complaint. -/
def detailLines : Complaint → List Line
  | .noMessage => [[plain "  ", ⟨.green, "<TEXT>"⟩]]
  | c =>
    match c.tip? with
    | some tip => [[plain ""], tip.line c.argument]
    | none => []

/-- Where more can be learned. -/
def moreLines (l : Level) : List Line :=
  if l.options.isEmpty then []
  else [[plain ""], plain "For more information, try " :: inQuotes .bold Opt.help.flag ++ [plain "."]]

/-- The lines of a complaint. -/
def complaintLines (l : Level) (c : Complaint) (usage : Option UsageLine) : List Line :=
  (⟨.complaint, "error:"⟩ :: plain " " :: c.spans) :: detailLines c ++
    (match usage with
      | some usage => [[plain ""], usage.line]
      | none => []) ++
    moreLines l

/-- What is printed instead of following the command line. -/
def print : Stop → Print
  | help l => .page .out l.helpLines
  | version => .page .out [versionLine]
  | wrong l c usage => .page .err (complaintLines l c usage)

/-- How the program exits instead of following the command line. -/
def exitCode : Stop → Nat
  | help _ | version => 0
  | wrong _ _ _ => 2

end Stop

end MessageRelay.Shell
