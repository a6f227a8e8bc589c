import Std.Time.Format
import MessageRelay.Shell.Program

/-!
# The executable

Reads the command line, the configuration file and what the user types, and prints what the program
says.  Everything else is decided elsewhere, without side effects.
-/

namespace MessageRelay.Executable

open Shell

/-- The time of day, and date and time. -/
def now : IO Stamp := do
  let time ← Std.Time.DateTime.now
  return { clock := time.format "HH:mm:ss"
           full := time.format "uuuu-MM-dd'T'HH:mm:ss.SSSSSSSSSxxx" }

/-- Whether a variable of the environment is set to something that means yes. -/
def isSwitchedOn (name : String) : BaseIO (Option Bool) := do
  return (← IO.getEnv name).map (· != "0")

/-- Whether styles are shown: if the environment asks for it, or on a terminal unless the
environment forbids it. -/
def wantsStyles : IO Bool := do
  if (← isSwitchedOn "CLICOLOR_FORCE") == some true then return true
  else if (← isSwitchedOn "NO_COLOR").isSome then return false
  else return (← isSwitchedOn "CLICOLOR").getD true && (← (← IO.getStdout).isTty)

/-- Why a file cannot be read. -/
def readError : IO.Error → String
  | .noFileOrDirectory _ _ _ => "No such file or directory (os error 2)"
  | .permissionDenied _ _ _ => "Permission denied (os error 13)"
  | .inappropriateType _ _ _ => "Is a directory (os error 21)"
  | e => toString e

/-- The content of a file. -/
def contentOf (path : String) : IO (Except String Bytes) := do
  try return .ok (← IO.FS.readBinFile path).data.toList
  catch e => return .error (readError e)

/-- The configuration file that the command line names, if it names one. -/
def configContent (args : List String) : IO (Except String Bytes) :=
  match Invocation.read args with
  | .ok { config := some path, .. } => contentOf path
  | _ => return .ok []

/-- Prints something. -/
def print (styled : Bool) (p : Print) : IO Unit := do
  let stream ← match p.channel with
    | .out => IO.getStdout
    | .err => IO.getStderr
  stream.putStrLn (p.render styled)
  stream.flush

/-- What the user types up to the end of a line, or of the input. -/
partial def readLine (stdin : IO.FS.Stream) (soFar : ByteArray) : IO ByteArray := do
  let next ← stdin.read 1
  if next.isEmpty then return soFar
  else if next.data.contains 10 then return soFar ++ next
  else readLine stdin (soFar ++ next)

/-- Goes on with a session until it is left. -/
partial def converse (styled : Bool) (stdin : IO.FS.Stream) (s : Session) : IO Unit := do
  let line ← readLine stdin ByteArray.empty
  let stamp ← now
  let (prints, s') := if line.isEmpty then s.hangUp stamp else s.feed stamp line.data.toList
  prints.forM (print styled)
  if s'.repl.left then return else converse styled stdin s'

/-- Runs the program; the result is its exit code. -/
def run (args : List String) : IO UInt32 := do
  let styled ← wantsStyles
  let content ← configContent args
  let around : Surroundings := { loginName := ← IO.getEnv "USER", contentOf := fun _ => content }
  match Program.start around args with
  | .done prints code =>
    prints.forM (print styled)
    return code.toUInt32
  | .running prints s =>
    prints.forM (print styled)
    converse styled (← IO.getStdin) s
    return 0

end MessageRelay.Executable

/-- Runs the program. -/
def main (args : List String) : IO UInt32 :=
  MessageRelay.Executable.run args
