import MessageRelay.Json.Fault

/-!
# Readers

A reader takes characters from the front of a text and either gives a value together with the
characters that follow it, or fails.  A failure shows either at the place that was reached or one
byte further, when the next character is what is wrong.
-/

namespace MessageRelay.Json

/-- The number of bytes of some characters. -/
def byteCount (cs : List Char) : Nat :=
  cs.foldl (fun n c => n + c.utf8Size) 0

/-- Takes a value from the front of a text. -/
abbrev Reader (α : Type) : Type := StateT (List Char) (Except Failure) α

/-- A failure at the place in front of the given characters. -/
def Failure.here (fault : Fault) (cs : List Char) : Failure :=
  ⟨fault, byteCount cs⟩

/-- A failure that the next byte shows, or the end of the text if there is none. -/
def Failure.next (fault : Fault) (cs : List Char) : Failure :=
  ⟨fault, byteCount cs - 1⟩

/-- Fails at the place that was reached. -/
def fail {α : Type} (fault : Fault) : Reader α :=
  fun cs => .error (.here fault cs)

/-- Fails because of the next character. -/
def failNext {α : Type} (fault : Fault) : Reader α :=
  fun cs => .error (.next fault cs)

/-- The characters that may stand between any two parts of a JSON text. -/
def isSpace (c : Char) : Bool :=
  c == ' ' || c == '\n' || c == '\t' || c == '\r'

/-- The next character, which stays where it is. -/
def peek : Reader (Option Char) :=
  fun cs => .ok (cs.head?, cs)

/-- Passes over the next character. -/
def advance : Reader Unit :=
  fun cs => .ok ((), cs.tail)

/-- The next character after any spaces, which stays where it is. -/
def peekToken : Reader (Option Char) :=
  fun cs => let rest := cs.dropWhile isSpace; .ok (rest.head?, rest)

/-- Takes the rest of a word whose first letter has been passed. -/
def wordRest : List Char → Reader Unit
  | [] => pure ()
  | w :: ws => fun cs =>
    match cs with
    | [] => .error (.here .endBeforeValue [])
    | c :: rest => if c = w then wordRest ws rest else .error (.next .unknownWord cs)

/-- Takes the colon after a name. -/
def colon : Reader Unit := do
  match ← peekToken with
  | some ':' => advance
  | some _ => failNext .noColon
  | none => failNext .endInObject

/-- The value of a reader that takes a text to its end; only spaces may follow the value. -/
def Reader.runWhole {α : Type} (r : Reader α) (text : String) : Except Failure α :=
  match r text.toList with
  | .error f => .error f
  | .ok (a, rest) =>
    match rest.dropWhile isSpace with
    | [] => .ok a
    | left => .error (.next .trailingCharacters left)

end MessageRelay.Json
