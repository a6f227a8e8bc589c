import MessageRelay.Text.Hidden

/-!
# Quoted text

A text as it stands in a message to a person who has to see exactly what was given: between
quotes, with the quote, the backslash and every character that does not show spelled out.
-/

namespace MessageRelay.Text

/-- One character of a quoted text. -/
def quoteChar (c : Char) : List Char :=
  match c.toNat with
  | 0x00 => ['\\', '0']
  | 0x09 => ['\\', 't']
  | 0x0A => ['\\', 'n']
  | 0x0D => ['\\', 'r']
  | 0x22 => ['\\', '"']
  | 0x5C => ['\\', '\\']
  | n => if isHidden c then "\\u\x7b".toList ++ Nat.toDigits 16 n ++ ['\x7d'] else [c]

/-- A text between quotes, with everything spelled out that would not show. -/
def quoted (s : String) : String :=
  String.ofList ('"' :: s.toList.flatMap quoteChar ++ ['"'])

end MessageRelay.Text
