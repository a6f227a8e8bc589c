import MessageRelay.Proofs.Envelope.Grammar

/-!
# What is sent can be read

The wire form of an envelope is a message whose last sender and text are those of the envelope, so it is
accepted and gives the envelope back, unless it is too long.  The limit is the same on both sides: what
may be sent may be received, and what may not be sent would be refused (`encodeForSend_agrees_with_decode`).
-/

namespace MessageRelay.Envelope

open Wire

variable {slot : Slot} {value : String}

/-! ## The wire form is a message -/

/-- The key of a slot is written in its shortest form. -/
lemma isKey_encode (slot : Slot) :
    IsKey (Varint.encode (keyCode slot.number 2)) slot.number .delimited := by
  have hsmall : keyCode slot.number 2 < UInt32.size := by cases slot <;> decide
  have hsize : UInt32.size ≤ UInt64.size := by decide
  exact ⟨Varint.isVarint_encode (Nat.lt_of_lt_of_le hsmall hsize), hsmall, by cases slot <;> decide⟩

/-- A value that is not empty is one item. -/
lemma isItem_encodeField (hne : value ≠ "") (hlen : (Text.encode value).length < UInt64.size) :
    IsItem (some (slot, value)) (encodeField slot value) := by
  rw [encodeField, if_neg hne]
  exact isItem_slot (isKey_encode slot) (Varint.isVarint_encode hlen)

/-- The items of a slot: one, or none if the value is empty. -/
def itemsOf (slot : Slot) (value : String) : List (Option (Slot × String) × Bytes) :=
  if value = "" then [] else [(some (slot, value), encodeField slot value)]

lemma concat_itemsOf (slot : Slot) (value : String) :
    concat (itemsOf slot value) = encodeField slot value := by
  unfold itemsOf
  split
  · next h => rw [encodeField, if_pos h]; rfl
  · simp [concat]

lemma valuesOf_itemsOf (slot other : Slot) (value : String) :
    valuesOf other (itemsOf slot value) = if value ≠ "" ∧ slot = other then [value] else [] := by
  by_cases hvalue : value = "" <;> by_cases hslot : slot = other <;>
    simp [valuesOf, itemsOf, hvalue, hslot]

lemma valuesOf_append (slot : Slot) (items more : List (Option (Slot × String) × Bytes)) :
    valuesOf slot (items ++ more) = valuesOf slot items ++ valuesOf slot more := by
  simp [valuesOf]

lemma length_encode_le_encodeField (slot : Slot) (value : String) :
    (Text.encode value).length ≤ (encodeField slot value).length := by
  rw [length_encodeField, fieldLength]
  split
  · next h => rw [h]; decide
  · simp

/-- The items of an envelope; an empty value has none, so there are at most two of them. -/
def items (e : Envelope) : List (Option (Slot × String) × Bytes) :=
  itemsOf .user e.user ++ itemsOf .text e.text

lemma concat_items (e : Envelope) : concat e.items = e.encode := by
  rw [items, concat_append, concat_itemsOf, concat_itemsOf, encode]

/-- The items of an envelope are items, as long as their lengths fit in 64 bits. -/
lemma isItem_of_mem_items (e : Envelope) (h : e.encode.length < UInt64.size) :
    ∀ item ∈ e.items, IsItem item.1 item.2 := by
  have huser := length_encode_le_encodeField .user e.user
  have htext := length_encode_le_encodeField .text e.text
  rw [encode, List.length_append] at h
  have hitems : ∀ {slot : Slot} {value : String}, (Text.encode value).length < UInt64.size →
      ∀ item ∈ itemsOf slot value, IsItem item.1 item.2 := by
    intro slot value hlen item hmem
    unfold itemsOf at hmem
    split at hmem
    · cases hmem
    · next hne =>
      rw [List.mem_singleton.1 hmem]
      exact isItem_encodeField hne hlen
  intro item hmem
  rcases List.mem_append.1 hmem with hmem | hmem
  · exact hitems (by omega) item hmem
  · exact hitems (by omega) item hmem

/-- **The wire form of an envelope is a message**, as long as its lengths fit in 64 bits. -/
lemma isMessage_encode (e : Envelope) (h : e.encode.length < UInt64.size) :
    IsMessage e.encode e.user e.text := by
  refine ⟨e.items, (concat_items e).symm, isItem_of_mem_items e h, ?_, ?_⟩
  · rw [items, lastValue, valuesOf_append, valuesOf_itemsOf, valuesOf_itemsOf]
    by_cases hempty : e.user = "" <;> simp [hempty]
  · rw [items, lastValue, valuesOf_append, valuesOf_itemsOf, valuesOf_itemsOf]
    by_cases hempty : e.text = "" <;> simp [hempty]

/-! ## Both limits -/

lemma tooLong_eq (length : Nat) :
    tooLong length = ⟨.sendFailure, s!"message is {length} bytes encoded, limit is 65536"⟩ := by
  have hlimit : toString " bytes encoded, limit is " ++ toString maxBytes =
      toString " bytes encoded, limit is 65536" := by decide
  rw [tooLong, String.append_assoc, hlimit]

lemma oversized_eq (length : Nat) :
    oversized length = ⟨.malformedEnvelope, s!"payload is {length} bytes, limit is 65536"⟩ := by
  have hlimit : toString " bytes, limit is " ++ toString maxBytes =
      toString " bytes, limit is 65536" := by decide
  rw [oversized, String.append_assoc, hlimit]

/-- An envelope may be sent if and only if its wire form is not too long. -/
lemma encodeForSend_eq (e : Envelope) :
    e.encodeForSend =
      if e.encode.length ≤ maxBytes then .ok e.encode else .error (tooLong e.encode.length) := by
  rw [encodeForSend, checkSize, ← length_encode]
  by_cases h : e.encode.length ≤ maxBytes
  · rw [if_neg (Nat.not_lt.2 h), if_pos h]
  · rw [if_pos (Nat.not_le.1 h), if_neg h]

/-- **What may be sent can be read, and what may not be sent would be refused.**  Both sides compare the
length of the wire form with the same limit, and the failures name that length. -/
theorem encodeForSend_agrees_with_decode (e : Envelope) :
    ((∃ b, e.encodeForSend = .ok b) ↔ e.encode.length ≤ 65536) ∧
    (∀ b, e.encodeForSend = .ok b → b = e.encode ∧ decode b = .ok e) ∧
    (¬ e.encode.length ≤ 65536 →
      e.encodeForSend = .error ⟨.sendFailure,
        s!"message is {e.encode.length} bytes encoded, limit is 65536"⟩ ∧
      e.checkSize = .error ⟨.sendFailure,
        s!"message is {e.encode.length} bytes encoded, limit is 65536"⟩ ∧
      decode e.encode = .error ⟨.malformedEnvelope,
        s!"payload is {e.encode.length} bytes, limit is 65536"⟩) := by
  have hsend := encodeForSend_eq e
  by_cases h : e.encode.length ≤ maxBytes
  · rw [if_pos h] at hsend
    -- the limit is far below what a varint can hold
    have hdecode : decode e.encode = .ok e := by
      exact decode_eq_ok_iff.2 ⟨h, isMessage_encode e (Nat.lt_of_le_of_lt h (by decide))⟩
    refine ⟨⟨fun _ => h, fun _ => ⟨_, hsend⟩⟩, ?_, fun hlong => absurd h hlong⟩
    intro b hb
    rw [hsend] at hb
    cases hb
    exact ⟨rfl, hdecode⟩
  · have hcheck : e.checkSize = .error (tooLong e.encode.length) := by
      rw [checkSize, ← length_encode, if_pos (Nat.not_le.1 h)]
    have hdecode : decode e.encode = .error (oversized e.encode.length) := by
      rw [decode, if_pos (Nat.not_le.1 h)]
    rw [if_neg h, tooLong_eq] at hsend
    rw [tooLong_eq] at hcheck
    rw [oversized_eq] at hdecode
    refine ⟨⟨?_, fun hshort => absurd hshort h⟩, ?_, fun _ => ⟨hsend, hcheck, hdecode⟩⟩
    · rintro ⟨b, hb⟩
      rw [hsend] at hb
      cases hb
    · intro b hb
      rw [hsend] at hb
      cases hb

end MessageRelay.Envelope
