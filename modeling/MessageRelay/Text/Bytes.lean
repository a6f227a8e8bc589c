/-!
# Texts as bytes

Everything that travels is a list of bytes; a text travels in UTF-8.  The two directions are kept
next to each other: `encode` always succeeds, `decode?` refuses what is not UTF-8, and each undoes
the other.
-/

namespace MessageRelay

/-- What travels over a transport: a finite sequence of bytes. -/
abbrev Bytes : Type := List UInt8

namespace Text

/-- The UTF-8 form of a text. -/
def encode (s : String) : Bytes :=
  s.toByteArray.data.toList

/-- The text whose UTF-8 form is given, if there is one. -/
def decode? (b : Bytes) : Option String :=
  String.fromUTF8? ⟨b.toArray⟩

/-- The number of bytes of a text's UTF-8 form. -/
def byteLength (s : String) : Nat :=
  s.utf8ByteSize

@[simp]
theorem length_encode (s : String) : (encode s).length = byteLength s := by
  rfl

@[simp]
theorem decode?_encode (s : String) : decode? (encode s) = some s := by
  simp [decode?, encode, String.fromUTF8?, String.fromUTF8, s.isValidUTF8]

/-- Only the UTF-8 form of a text decodes to it. -/
theorem eq_encode_of_decode? {b : Bytes} {s : String} (h : decode? b = some s) :
    b = encode s := by
  unfold decode? String.fromUTF8? at h
  split at h
  · cases h
    simp [encode, String.fromUTF8]
  · cases h

end Text

end MessageRelay
