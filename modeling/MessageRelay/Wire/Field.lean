import MessageRelay.Wire.Varint

/-!
# Tagged fields

An encoded message is a sequence of fields.  Each starts with a key, a number that holds the field
number and the wire type; the wire type alone says how long the field is, so that a reader can step
over fields it does not know.  A group is a field that contains fields and lasts until the end key
with its own number; groups nest, up to a fixed depth.
-/

namespace MessageRelay.Wire

/-- How the value of a field is laid out. -/
inductive WireType where
  /-- A variable-length number. -/
  | varint
  /-- Eight bytes. -/
  | fixed64
  /-- A length and that many bytes. -/
  | delimited
  /-- The start of a group of fields. -/
  | groupStart
  /-- The end of a group of fields. -/
  | groupEnd
  /-- Four bytes. -/
  | fixed32
  deriving DecidableEq, Repr

namespace WireType

/-- The wire type with a given code; the codes 6 and 7 have none. -/
def ofCode? : Nat → Option WireType
  | 0 => some .varint
  | 1 => some .fixed64
  | 2 => some .delimited
  | 3 => some .groupStart
  | 4 => some .groupEnd
  | 5 => some .fixed32
  | _ => none

/-- The name of a wire type in error texts. -/
def name : WireType → String
  | varint => "Varint"
  | fixed64 => "SixtyFourBit"
  | delimited => "LengthDelimited"
  | groupStart => "StartGroup"
  | groupEnd => "EndGroup"
  | fixed32 => "ThirtyTwoBit"

end WireType

/-- Why a sequence of fields cannot be read. -/
inductive FieldError where
  /-- A number is cut off or does not fit in 64 bits. -/
  | varint
  /-- A key does not fit in 32 bits. -/
  | key (value : Nat)
  /-- A key has a wire type that does not exist. -/
  | wireTypeCode (code : Nat)
  /-- A key has the field number 0. -/
  | fieldNumber
  /-- A known field does not have the layout that it must have. -/
  | layout (found : WireType)
  /-- A field reaches beyond the input. -/
  | underflow
  /-- A text is not UTF-8. -/
  | notUtf8
  /-- A group ends that is not the innermost open one. -/
  | groupEnd
  /-- Groups are nested too deeply. -/
  | depth
  deriving DecidableEq, Repr

/-- The wording of a field error. -/
def FieldError.message : FieldError → String
  | varint => "invalid varint"
  | key value => s!"invalid key value: {value}"
  | wireTypeCode code => s!"invalid wire type value: {code}"
  | fieldNumber => "invalid tag value: 0"
  | layout found => s!"invalid wire type: {found.name} (expected {WireType.delimited.name})"
  | underflow => "buffer underflow"
  | notUtf8 => "invalid string value: data is not UTF-8 encoded"
  | groupEnd => "unexpected end group tag"
  | depth => "recursion limit reached"

/-- The key of a field. -/
structure Key where
  /-- The field number, never 0. -/
  number : Nat
  /-- The layout of the value that follows. -/
  wireType : WireType
  deriving DecidableEq, Repr

/-- The number that stands for a key on the wire. -/
def keyCode (number : Nat) (code : Nat) : Nat :=
  number * 8 + code

/-- Reads a number, naming the failure. -/
def readVarint (b : Bytes) : Except FieldError (Nat × Bytes) :=
  match Varint.read? b with
  | none => .error .varint
  | some r => .ok r

/-- Reads a key.  The value is checked first, then the wire type, then the field number. -/
def readKey (b : Bytes) : Except FieldError (Key × Bytes) :=
  match Varint.read? b with
  | none => .error .varint
  | some (value, rest) =>
    if UInt32.size ≤ value then .error (.key value)
    else
      match WireType.ofCode? (value % 8) with
      | none => .error (.wireTypeCode (value % 8))
      | some wireType =>
        if value / 8 = 0 then .error .fieldNumber else .ok (⟨value / 8, wireType⟩, rest)

/-- Steps over the given number of bytes. -/
def skipBytes (count : Nat) (b : Bytes) : Except FieldError Bytes :=
  if b.length < count then .error .underflow else .ok (b.drop count)

/-- Reads a length and that many bytes. -/
def readDelimited (b : Bytes) : Except FieldError (Bytes × Bytes) :=
  match Varint.read? b with
  | none => .error .varint
  | some (count, rest) =>
    if rest.length < count then .error .underflow else .ok (rest.take count, rest.drop count)

/-- The greatest depth at which a field may be stepped over; the fields of the message itself are
at depth 1. -/
def maxDepth : Nat := 100

theorem readKey_length {b rest : Bytes} {k : Key} (h : readKey b = .ok (k, rest)) :
    rest.length < b.length := by
  unfold readKey at h
  split at h
  · cases h
  · rename_i value r hr
    split at h
    · cases h
    · split at h
      · cases h
      · split at h
        · cases h
        · cases h
          exact Varint.read?_length hr

theorem skipBytes_length {count : Nat} {b rest : Bytes} (h : skipBytes count b = .ok rest) :
    rest.length ≤ b.length := by
  unfold skipBytes at h
  split at h
  · cases h
  · cases h
    simp

theorem readDelimited_length {b value rest : Bytes} (h : readDelimited b = .ok (value, rest)) :
    rest.length < b.length := by
  unfold readDelimited at h
  split at h
  · cases h
  · rename_i count r hr
    split at h
    · cases h
    · cases h
      have := Varint.read?_length hr
      simp only [List.length_drop]
      omega

/-- Steps over a value that is not a group. -/
def skipValue (wireType : WireType) (b : Bytes) : Except FieldError Bytes :=
  match wireType with
  | .varint => (readVarint b).map (·.2)
  | .fixed64 => skipBytes 8 b
  | .fixed32 => skipBytes 4 b
  | .delimited => (readDelimited b).map (·.2)
  | .groupStart => .ok b
  | .groupEnd => .error .groupEnd

theorem skipValue_length {wireType : WireType} {b rest : Bytes}
    (h : skipValue wireType b = .ok rest) : rest.length ≤ b.length := by
  cases wireType with
  | varint =>
    simp only [skipValue, readVarint] at h
    split at h
    · cases h
    · rename_i r hr
      cases h
      exact Nat.le_of_lt (Varint.read?_length (n := r.1) hr)
  | fixed64 => exact skipBytes_length h
  | delimited =>
    simp only [skipValue] at h
    cases hr : readDelimited b with
    | error e => rw [hr] at h; cases h
    | ok r =>
      obtain ⟨value, rest'⟩ := r
      rw [hr] at h
      cases h
      exact Nat.le_of_lt (readDelimited_length hr)
  | groupStart => cases h; exact Nat.le_refl _
  | groupEnd => cases h
  | fixed32 => exact skipBytes_length h

/-- Reads on inside the groups with the given numbers, the innermost first, until all of them have
ended. -/
def skipGroups (groups : List Nat) (b : Bytes) : Except FieldError Bytes :=
  match groups with
  | [] => .ok b
  | innermost :: outer =>
    match h : readKey b with
    | .error e => .error e
    | .ok (⟨number, .groupEnd⟩, rest) =>
      if number = innermost then
        have := readKey_length h
        skipGroups outer rest
      else .error .groupEnd
    | .ok (⟨number, .groupStart⟩, rest) =>
      if maxDepth ≤ (innermost :: outer).length then .error .depth
      else
        have := readKey_length h
        skipGroups (number :: innermost :: outer) rest
    | .ok (⟨_, wireType⟩, rest) =>
      if maxDepth ≤ (innermost :: outer).length then .error .depth
      else
        match h' : skipValue wireType rest with
        | .error e => .error e
        | .ok rest' =>
          have := readKey_length h
          have := skipValue_length h'
          skipGroups (innermost :: outer) rest'
  termination_by b.length

/-- Steps over the value of a field of the message itself. -/
def skipField (key : Key) (b : Bytes) : Except FieldError Bytes :=
  match key.wireType with
  | .groupStart => skipGroups [key.number] b
  | wireType => skipValue wireType b

theorem skipGroups_length {groups : List Nat} {b rest : Bytes}
    (h : skipGroups groups b = .ok rest) : rest.length ≤ b.length := by
  fun_induction skipGroups groups b with
  | case1 b => cases h; exact Nat.le_refl _
  | case2 => cases h
  | case3 b innermost outer rest' _ hlt ih => exact Nat.le_trans (ih h) (Nat.le_of_lt hlt)
  | case4 => cases h
  | case5 => cases h
  | case6 b innermost outer number rest' _ _ hlt ih => exact Nat.le_trans (ih h) (Nat.le_of_lt hlt)
  | case7 => cases h
  | case8 => cases h
  | case9 b innermost outer number wireType rest' _ _ _ _ _ _ hlt hle ih =>
    exact Nat.le_trans (ih h) (Nat.le_trans hle (Nat.le_of_lt hlt))

theorem skipField_length {key : Key} {b rest : Bytes} (h : skipField key b = .ok rest) :
    rest.length ≤ b.length := by
  unfold skipField at h
  split at h
  · exact skipGroups_length h
  · exact skipValue_length h

end MessageRelay.Wire
