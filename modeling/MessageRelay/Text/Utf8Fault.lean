import MessageRelay.Text.Bytes

/-!
# Where UTF-8 goes wrong

A reader that refuses bytes says where the first character that is none starts, and how many bytes
could still have been part of one.  When the bytes end inside a character it says only where that
character starts.

The first byte of a character says which bytes may follow: a list of ranges, one per byte that is
still owed.  The scan takes one byte at a time and remembers what is owed.
-/

namespace MessageRelay.Text

/-- Why bytes are not the UTF-8 form of a text. -/
inductive Utf8Fault where
  /-- So many bytes from there on are part of no character. -/
  | invalid (index length : Nat)
  /-- The bytes end inside the character that starts there. -/
  | incomplete (index : Nat)
  deriving DecidableEq, Repr

/-- What a person is told. -/
def Utf8Fault.message : Utf8Fault → String
  | invalid index length =>
    "invalid utf-8 sequence of " ++ toString length ++ " bytes from index " ++ toString index
  | incomplete index => "incomplete utf-8 byte sequence from index " ++ toString index

/-- A closed range of bytes. -/
structure ByteRange where
  /-- The least byte. -/
  low : Nat
  /-- The greatest byte. -/
  high : Nat
  deriving DecidableEq, Repr

/-- Whether a byte lies in a range. -/
def ByteRange.contains (r : ByteRange) (b : UInt8) : Bool :=
  r.low ≤ b.toNat && b.toNat ≤ r.high

/-- The bytes that continue a character. -/
def continuation : ByteRange := ⟨0x80, 0xBF⟩

/-- The bytes that have to follow the first byte of a character, if it can be one. -/
def owedAfter? (first : UInt8) : Option (List ByteRange) :=
  let n := first.toNat
  if n < 0x80 then some []
  else if n < 0xC2 then none
  else if n < 0xE0 then some [continuation]
  else if n = 0xE0 then some [⟨0xA0, 0xBF⟩, continuation]
  else if n = 0xED then some [⟨0x80, 0x9F⟩, continuation]
  else if n < 0xF0 then some [continuation, continuation]
  else if n = 0xF0 then some [⟨0x90, 0xBF⟩, continuation, continuation]
  else if n < 0xF4 then some [continuation, continuation, continuation]
  else if n = 0xF4 then some [⟨0x80, 0x8F⟩, continuation, continuation]
  else none

/-- Scans bytes.  A character started at `index`, of which `seen` bytes have been seen and the bytes
in `owed` are still to come. -/
def scanUtf8 (index seen : Nat) : List ByteRange → Bytes → Option Utf8Fault
  | [], [] => none
  | _ :: _, [] => some (.incomplete index)
  | [], b :: rest =>
    match owedAfter? b with
    | none => some (.invalid (index + seen) 1)
    | some owed => scanUtf8 (index + seen) 1 owed rest
  | r :: owed, b :: rest =>
    if r.contains b then scanUtf8 index (seen + 1) owed rest else some (.invalid index seen)

/-- The first fault of bytes that are not the UTF-8 form of a text. -/
def utf8Fault? (b : Bytes) : Option Utf8Fault :=
  scanUtf8 0 0 [] b

/-- The text whose UTF-8 form is given, or where it goes wrong. -/
def decode (b : Bytes) : Except Utf8Fault String :=
  match decode? b with
  | some s => .ok s
  | none => .error ((utf8Fault? b).getD (.incomplete b.length))

/-- The text whose UTF-8 form is given; what is part of no character is replaced by the character
that stands for an unknown one.  Each replacement takes a byte, so there are no more than bytes. -/
def decodeLossyFrom : Nat → Bytes → String
  | 0, _ => ""
  | fuel + 1, b =>
    let start (n : Nat) : String := ((decode? (b.take n)).getD "") ++ "\uFFFD"
    match utf8Fault? b with
    | none => (decode? b).getD ""
    | some (.incomplete index) => start index
    | some (.invalid index length) => start index ++ decodeLossyFrom fuel (b.drop (index + length))

/-- The text whose UTF-8 form is given, with a replacement for what is part of no character. -/
def decodeLossy (b : Bytes) : String :=
  decodeLossyFrom (b.length + 1) b

@[simp]
theorem decode_encode (s : String) : decode (encode s) = .ok s := by
  simp [decode]

end MessageRelay.Text
