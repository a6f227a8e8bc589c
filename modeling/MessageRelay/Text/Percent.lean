import MessageRelay.Text.Utf8Fault

/-!
# Bytes behind percent signs

In a URI any byte can be written as a percent sign and two hexadecimal digits.  A percent sign that
two digits do not follow stands for itself.  The fields of a form are written the same way, with a
plus sign for the space, an equals sign behind each name and an ampersand between two fields.
-/

namespace MessageRelay.Text

/-- The value of a hexadecimal digit. -/
def hexValue? (b : UInt8) : Option UInt8 :=
  if 0x30 ≤ b ∧ b ≤ 0x39 then some (b - 0x30)
  else if 0x41 ≤ b ∧ b ≤ 0x46 then some (b - 0x37)
  else if 0x61 ≤ b ∧ b ≤ 0x66 then some (b - 0x57)
  else none

/-- The byte that three bytes stand for, if they are a percent sign and two digits. -/
def escaped? (mark high low : UInt8) : Option UInt8 :=
  if mark = 0x25 then
    match hexValue? high, hexValue? low with
    | some h, some l => some (16 * h + l)
    | _, _ => none
  else none

/-- The bytes that are meant. -/
def unpercent : Bytes → Bytes
  | mark :: high :: low :: rest =>
    match escaped? mark high low with
    | some b => b :: unpercent rest
    | none => mark :: unpercent (high :: low :: rest)
  | rest => rest

/-- The text that is meant, which has to be UTF-8. -/
def percentDecode (cs : List Char) : Except Utf8Fault String :=
  decode (unpercent (encode (String.ofList cs)))

/-- The parts of a list between occurrences of a mark. -/
def splitAt (mark : Char) : List Char → List (List Char)
  | [] => [[]]
  | c :: rest =>
    if c = mark then [] :: splitAt mark rest
    else
      match splitAt mark rest with
      | [] => [[c]]
      | part :: parts => (c :: part) :: parts

/-- The name or the value of a field of a form. -/
def formDecode (cs : List Char) : String :=
  decodeLossy (unpercent (encode (String.ofList (cs.map fun c => if c = '+' then ' ' else c))))

/-- The fields of a form, in order. -/
def formFields (cs : List Char) : List (String × String) :=
  ((splitAt '&' cs).filter (!·.isEmpty)).map fun field =>
    let (name, value) := field.span (· != '=')
    (formDecode name, formDecode (value.drop 1))

end MessageRelay.Text
