import MessageRelay.Envelope
import MessageRelay.Wire.Field

/-!
# The wire form of an envelope

An envelope travels as two length-delimited fields, the sender in field 1 and the text in field 2;
an empty value is left out.  No message longer than `maxBytes` is sent, and none is accepted.
Reading takes the fields in any order, steps over fields it does not know, and lets a later value
replace an earlier one.
-/

namespace MessageRelay.Envelope

open Wire

/-- The greatest length of an encoded envelope, in bytes. -/
def maxBytes : Nat := 65536

/-- The two fields of an envelope. -/
inductive Slot where
  /-- Field 1: the sender. -/
  | user
  /-- Field 2: the text. -/
  | text
  deriving DecidableEq, Repr

namespace Slot

/-- The slot with a given field number. -/
def ofNumber? : Nat → Option Slot
  | 1 => some user
  | 2 => some text
  | _ => none

/-- The field number of a slot. -/
def number : Slot → Nat
  | user => 1
  | text => 2

/-- The name of a slot in error texts. -/
def path : Slot → String
  | user => "Envelope.user_name"
  | text => "Envelope.message_text"

end Slot

/-! ## Writing -/

/-- The wire form of one text field; an empty one takes no room. -/
def encodeField (slot : Slot) (value : String) : Bytes :=
  if value = "" then []
  else
    Varint.encode (keyCode slot.number 2) ++ Varint.encode (Text.byteLength value)
      ++ Text.encode value

/-- The wire form of an envelope. -/
def encode (e : Envelope) : Bytes :=
  encodeField .user e.user ++ encodeField .text e.text

/-- The failure of a message that is too long to be sent. -/
def tooLong (length : Nat) : RelayError :=
  ⟨.sendFailure, s!"message is {length} bytes encoded, limit is {maxBytes}"⟩

/-- The length of a number on the wire, read off its top bit: every byte holds seven bits, and zero
takes a byte as well. -/
def varintLength (n : Nat) : Nat :=
  n.log2 / 7 + 1

/-- The length of one text field on the wire. -/
def fieldLength (slot : Slot) (value : String) : Nat :=
  if value = "" then 0
  else
    varintLength (keyCode slot.number 2) + varintLength (Text.byteLength value)
      + Text.byteLength value

/-- The length of the wire form, found without writing it. -/
def encodedLength (e : Envelope) : Nat :=
  fieldLength .user e.user + fieldLength .text e.text

/-- Refuses an envelope that is too long to be sent. -/
def checkSize (e : Envelope) : Except RelayError Unit :=
  if maxBytes < e.encodedLength then .error (tooLong e.encodedLength) else .ok ()

/-- The wire form of an envelope that may be sent. -/
def encodeForSend (e : Envelope) : Except RelayError Bytes :=
  match checkSize e with
  | .error err => .error err
  | .ok () => .ok e.encode

/-- Without its lowest group of seven bits a number has its top bit seven places lower. -/
theorem log2_eq_log2_div_add {n : Nat} (h : 128 ≤ n) : n.log2 = (n / 128).log2 + 7 := by
  have hlow := Nat.log2_self_le (n := n / 128) (by omega)
  have hhigh := Nat.lt_log2_self (n := n / 128)
  rw [Nat.log2_eq_iff (by omega)]
  -- with the seven split off the exponents, what is left is linear in the power of two
  rw [Nat.pow_add, Nat.pow_add, Nat.pow_add]
  rw [Nat.pow_add] at hhigh
  omega

theorem length_encode_varint (n : Nat) : (Varint.encode n).length = varintLength n := by
  induction n using Varint.encode.induct with
  | case1 n hlast =>
    have htop : n.log2 < 7 := by
      by_cases hzero : n = 0
      · simp [hzero]
      · exact (Nat.log2_lt hzero).2 hlast
    rw [Varint.encode, if_pos hlast, varintLength, Nat.div_eq_of_lt htop]
    rfl
  | case2 n hmore ih =>
    rw [Varint.encode, if_neg hmore, List.length_cons, ih, varintLength, varintLength,
      log2_eq_log2_div_add (Nat.le_of_not_lt hmore), Nat.add_div_right _ (by decide)]

theorem length_encodeField (slot : Slot) (value : String) :
    (encodeField slot value).length = fieldLength slot value := by
  unfold encodeField fieldLength
  split
  · rfl
  · simp [length_encode_varint, Nat.add_assoc]

theorem length_encode (e : Envelope) : e.encode.length = e.encodedLength := by
  simp [encode, encodedLength, length_encodeField]

/-! ## Reading -/

/-- Why a message cannot be read: a field error, and the slot that was being read if any. -/
structure DecodeError where
  /-- The slot whose value is at fault. -/
  slot? : Option Slot
  /-- What is wrong. -/
  cause : FieldError
  deriving DecidableEq, Repr

/-- The wording of a decoding error. -/
def DecodeError.message (e : DecodeError) : String :=
  let place :=
    match e.slot? with
    | none => ""
    | some slot => slot.path ++ ": "
  "protobuf decode failed: failed to decode Protobuf message: " ++ place ++ e.cause.message

/-- What has been read of an envelope so far. -/
structure Draft where
  /-- The last sender read, empty at first. -/
  user : String := ""
  /-- The last text read, empty at first. -/
  text : String := ""
  deriving DecidableEq, Repr

/-- A new value for one slot. -/
def Draft.put (d : Draft) (value : String) : Slot → Draft
  | .user => { d with user := value }
  | .text => { d with text := value }

/-- Reads the value of a known field. -/
def readSlot (wireType : WireType) (b : Bytes) : Except FieldError (String × Bytes) :=
  if wireType ≠ .delimited then .error (.layout wireType)
  else
    match readDelimited b with
    | .error e => .error e
    | .ok (value, rest) =>
      match Text.decode? value with
      | none => .error .notUtf8
      | some s => .ok (s, rest)

theorem readSlot_length {wireType : WireType} {b rest : Bytes} {s : String}
    (h : readSlot wireType b = .ok (s, rest)) : rest.length < b.length := by
  unfold readSlot at h
  split at h
  · cases h
  · split at h
    · cases h
    · rename_i hr
      split at h
      · cases h
      · cases h
        exact readDelimited_length hr

/-- Reads fields until the input ends. -/
def readFields (d : Draft) (b : Bytes) : Except DecodeError Draft :=
  if b = [] then .ok d
  else
    match h : readKey b with
    | .error e => .error ⟨none, e⟩
    | .ok (key, rest) =>
      match Slot.ofNumber? key.number with
      | some slot =>
        match h' : readSlot key.wireType rest with
        | .error e => .error ⟨some slot, e⟩
        | .ok (value, rest') =>
          have := readKey_length h
          have := readSlot_length h'
          readFields (d.put value slot) rest'
      | none =>
        match h' : skipField key rest with
        | .error e => .error ⟨none, e⟩
        | .ok rest' =>
          have := readKey_length h
          have := skipField_length h'
          readFields d rest'
  termination_by b.length

/-- The failure of a message that is too long to be accepted. -/
def oversized (length : Nat) : RelayError :=
  ⟨.malformedEnvelope, s!"payload is {length} bytes, limit is {maxBytes}"⟩

/-- The failure of a message that cannot be read. -/
def unreadable (e : DecodeError) : RelayError :=
  ⟨.malformedEnvelope, e.message⟩

/-- Reads an envelope. -/
def decode (b : Bytes) : Except RelayError Envelope :=
  if maxBytes < b.length then .error (oversized b.length)
  else
    match readFields {} b with
    | .error e => .error (unreadable e)
    | .ok d => make d.user d.text

end MessageRelay.Envelope
