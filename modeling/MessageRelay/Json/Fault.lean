import MessageRelay.Decimal.Notation
import MessageRelay.Text.Bytes
import MessageRelay.Text.Quoted

/-!
# What can be wrong with a JSON text

A fault says what is wrong; a failure adds where, as the number of bytes that had not been read
when it showed.  From that and the text itself follow the line and the column that a person is told.
-/

namespace MessageRelay.Json

/-- A number as it stands in a text. -/
inductive Number where
  /-- A whole number that is not negative. -/
  | natural (n : Nat)
  /-- A negative whole number, given by its magnitude. -/
  | negative (n : Nat)
  /-- A number with a fraction or an exponent, or one too large for a whole number. -/
  | real (x : Float)

/-- What stands where something else was expected. -/
inductive Found where
  | null
  | bool (b : Bool)
  | number (n : Number)
  | text (s : String)
  | list
  | object

/-- What is wrong with a text. -/
inductive Fault where
  /-- The text ends inside a list. -/
  | endInList
  /-- The text ends inside an object. -/
  | endInObject
  /-- The text ends inside a quoted text. -/
  | endInText
  /-- The text ends where a value should stand. -/
  | endBeforeValue
  /-- A name is not followed by a colon. -/
  | noColon
  /-- An element is followed neither by a comma nor by the end of the list. -/
  | listNotContinued
  /-- A member is followed neither by a comma nor by the end of the object. -/
  | objectNotContinued
  /-- A word other than `null`, `true` and `false`. -/
  | unknownWord
  /-- No value starts with this character. -/
  | noValue
  /-- An escape that does not exist. -/
  | badEscape
  /-- A number that is not written as numbers are. -/
  | badNumber
  /-- A number beyond the largest one. -/
  | hugeNumber
  /-- One half of a character that needs two escapes. -/
  | loneSurrogate
  /-- The second half of a character that needs two escapes is missing. -/
  | cutSurrogate
  /-- A control character inside a quoted text. -/
  | controlCharacter
  /-- A member without a quoted name. -/
  | nameNotText
  /-- A comma with nothing after it. -/
  | trailingComma
  /-- Something follows the value. -/
  | trailingCharacters
  /-- A value of another kind than expected. -/
  | wrongKind (found : Found) (expected : String)
  /-- A number outside of the expected range. -/
  | outOfRange (number : Number) (expected : String)
  /-- A member that the object does not have. -/
  | unknownMember (name : String) (known : List String)
  /-- A name that is none of the choices. -/
  | unknownChoice (name : String) (known : List String)
  /-- A member that stands there twice. -/
  | repeatedMember (name : String)
  /-- A quoted text that is no socket address. -/
  | badSocketAddress

/-- A fault and where it shows. -/
structure Failure where
  /-- What is wrong. -/
  fault : Fault
  /-- The number of bytes that follow the place where it shows. -/
  unread : Nat

/-! ## Places in a text -/

/-- A place as a person counts: lines from one, columns in bytes since the last line end. -/
structure Place where
  line : Nat
  column : Nat
  deriving DecidableEq, Repr

namespace Place

/-- The start of a text. -/
def start : Place := ⟨1, 0⟩

/-- The place after one more byte. -/
def step (p : Place) (b : UInt8) : Place :=
  if b = 10 then ⟨p.line + 1, 0⟩ else ⟨p.line, p.column + 1⟩

/-- The place that the given number of bytes follows. -/
def before (text : String) (unread : Nat) : Place :=
  let bytes := Text.encode text
  (bytes.take (bytes.length - unread)).foldl step start

end Place

/-! ## Wording -/

/-- The description of a number. -/
def Number.describe : Number → String
  | natural n => "integer `" ++ toString n ++ "`"
  | negative n => "integer `-" ++ toString n ++ "`"
  | real x => "floating point `" ++ Decimal.ofFloat x ++ "`"

/-- The description of what was found. -/
def Found.describe : Found → String
  | null => "null"
  | bool b => "boolean `" ++ (if b then "true" else "false") ++ "`"
  | number n => n.describe
  | text s => "string " ++ Text.quoted s
  | list => "sequence"
  | object => "map"

/-- The names one can choose from. -/
def alternatives (names : List String) : String :=
  match names.map fun n => "`" ++ n ++ "`" with
  | [a] => a
  | [a, b] => a ++ " or " ++ b
  | all => "one of " ++ ", ".intercalate all

/-- What is wrong, in words. -/
def Fault.describe : Fault → String
  | endInList => "EOF while parsing a list"
  | endInObject => "EOF while parsing an object"
  | endInText => "EOF while parsing a string"
  | endBeforeValue => "EOF while parsing a value"
  | noColon => "expected `:`"
  | listNotContinued => "expected `,` or `]`"
  | objectNotContinued => "expected `,` or `\x7d`"
  | unknownWord => "expected ident"
  | noValue => "expected value"
  | badEscape => "invalid escape"
  | badNumber => "invalid number"
  | hugeNumber => "number out of range"
  | loneSurrogate => "lone leading surrogate in hex escape"
  | cutSurrogate => "unexpected end of hex escape"
  | controlCharacter => "control character (\\u0000-\\u001F) found while parsing a string"
  | nameNotText => "key must be a string"
  | trailingComma => "trailing comma"
  | trailingCharacters => "trailing characters"
  | wrongKind found expected => "invalid type: " ++ found.describe ++ ", expected " ++ expected
  | outOfRange number expected => "invalid value: " ++ number.describe ++ ", expected " ++ expected
  | unknownMember name known =>
    "unknown field `" ++ name ++ "`, expected " ++ alternatives known
  | unknownChoice name known =>
    "unknown variant `" ++ name ++ "`, expected " ++ alternatives known
  | repeatedMember name => "duplicate field `" ++ name ++ "`"
  | badSocketAddress => "invalid socket address syntax"

/-- What is wrong with the given text, and where. -/
def Failure.message (f : Failure) (text : String) : String :=
  let place := Place.before text f.unread
  f.fault.describe ++ " at line " ++ toString place.line ++ " column " ++ toString place.column

end MessageRelay.Json
