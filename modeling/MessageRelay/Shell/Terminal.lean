import MessageRelay.Shell.Program

/-!
# The program in a terminal

A terminal types into the program and keeps what the program prints, line by line, until somebody
reads it.  When the program is done nothing that is typed has an effect, but what was printed can
still be read.
-/

namespace MessageRelay.Shell

/-- A terminal in which the program runs. -/
structure Terminal where
  /-- Whether styles are shown. -/
  styled : Bool
  /-- The session of the program, while it runs. -/
  session : Option Session := none
  /-- The exit code of the program, once it is done. -/
  code : Nat := 0
  /-- The lines of the standard output that nobody has read. -/
  out : List String := []
  /-- The lines of the standard error that nobody has read. -/
  err : List String := []
  deriving DecidableEq

namespace Terminal

/-- A line without the return that may stand in front of its end. -/
def withoutReturn (line : String) : String :=
  let cs := line.toList
  if cs.getLast? = some '\r' then String.ofList cs.dropLast else line

/-- The lines that prints come to on a channel. -/
def linesOn (styled : Bool) (channel : Channel) (prints : List Print) : List String :=
  (prints.filter (·.channel == channel)).flatMap fun p =>
    ((p.render styled).splitOn "\n").map withoutReturn

/-- Keeps what is printed. -/
def keep (t : Terminal) (prints : List Print) : Terminal :=
  { t with
    out := t.out ++ linesOn t.styled .out prints
    err := t.err ++ linesOn t.styled .err prints }

/-- Goes on with a session, unless it has been left. -/
def goOn (t : Terminal) (next : List Print × Session) : Terminal :=
  ({ t with session := if next.2.repl.left then none else some next.2 } : Terminal).keep next.1

/-- The terminal in which a program has started. -/
def launch (styled : Bool) : Started → Terminal
  | .done prints code => ({ styled, code } : Terminal).keep prints
  | .running prints s => ({ styled } : Terminal).goOn (prints, s)

/-- Types something. -/
def type (t : Terminal) (stamp : Stamp) (bytes : Bytes) : Terminal :=
  match t.session with
  | none => t
  | some s => t.goOn (s.feed stamp bytes)

/-- Types nothing any more. -/
def close (t : Terminal) (stamp : Stamp) : Terminal :=
  match t.session with
  | none => t
  | some s => t.goOn (s.hangUp stamp)

/-- Reads lines, up to the given numbers of them. -/
def read (t : Terminal) (out err : Nat) : (List String × List String) × Terminal :=
  ((t.out.take out, t.err.take err), { t with out := t.out.drop out, err := t.err.drop err })

end Terminal

end MessageRelay.Shell
