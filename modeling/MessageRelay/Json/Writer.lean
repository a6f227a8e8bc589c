/-!
# Writing JSON

JSON text in its most compact form: no blanks, members in the order given.  A text is written
between quotes; the quote, the backslash and the characters below U+0020 are escaped and nothing
else is, so the written form never spans two lines.
-/

namespace MessageRelay.Json

/-- The lower-case hexadecimal digit of a number below 16. -/
def hexDigit (n : Nat) : Char :=
  if n < 10 then Char.ofNat (48 + n) else Char.ofNat (87 + n)

/-- The letter that follows the backslash for a character with a short escape. -/
def shortEscape? (c : Char) : Option Char :=
  match c.toNat with
  | 0x22 => some '"'
  | 0x5C => some '\\'
  | 0x08 => some 'b'
  | 0x09 => some 't'
  | 0x0A => some 'n'
  | 0x0C => some 'f'
  | 0x0D => some 'r'
  | _ => none

/-- One character inside a quoted text. -/
def escapeChar (c : Char) : List Char :=
  match shortEscape? c with
  | some letter => ['\\', letter]
  | none =>
    if c.toNat < 0x20 then
      ['\\', 'u', '0', '0', hexDigit (c.toNat / 16), hexDigit (c.toNat % 16)]
    else [c]

/-- The characters of a text with everything escaped that has to be. -/
def escape (cs : List Char) : List Char :=
  cs.flatMap escapeChar

/-- A text between quotes. -/
def string (s : String) : String :=
  String.ofList ('"' :: escape s.toList ++ ['"'])

/-- A whole number. -/
def nat (n : Nat) : String :=
  toString n

/-- An absent value. -/
def null : String := "null"

/-- An object with the given members; the values are already written. -/
def object (members : List (String × String)) : String :=
  "\x7b" ++ ",".intercalate (members.map fun m => string m.1 ++ ":" ++ m.2) ++ "\x7d"

end MessageRelay.Json
