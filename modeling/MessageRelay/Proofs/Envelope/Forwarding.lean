import MessageRelay.Proofs.Envelope.RoundTrip
import Mathlib.Algebra.Order.BigOperators.Group.List

/-!
# What was received can be sent on

A message may be written in many ways: with fields that nobody knows, with a sender or a text that is replaced
later, with the fields in another order, and with numbers that take more bytes than they need.  Writing its
envelope anew gives the one form of it that has nothing of this.

That form is never longer.  The sender and the text that count were written somewhere in the message, in two
different items, and each of them took at least as many bytes as the shortest form of it
(`length_encodeField_le_room`).  So what was accepted may be sent, and it is accepted again
(`received_can_be_forwarded`).
-/

namespace MessageRelay.Envelope

open Wire

variable {slot : Slot} {value : String} {b piece : Bytes} {items : List (Option (Slot × String) × Bytes)}

/-- What is sent on of a message that was received: its envelope, written anew. -/
def forward (b : Bytes) : Except RelayError Bytes :=
  match decode b with
  | .ok e => e.encodeForSend
  | .error err => .error err

/-! ## The room that a value takes -/

/-- Whether an item is a value of a slot. -/
def fills (slot : Slot) (item : Option (Slot × String) × Bytes) : Bool :=
  item.1.map (·.1) == some slot

/-- The number of bytes that the values of a slot take. -/
def room (slot : Slot) (items : List (Option (Slot × String) × Bytes)) : Nat :=
  ((items.filter (fills slot)).map (·.2.length)).sum

/-- An item takes at least the bytes of the shortest form of its value. -/
lemma IsItem.length_encodeField_le (h : IsItem (some (slot, value)) piece) :
    (encodeField slot value).length ≤ piece.length := by
  have hpiece : ∀ {key size : Bytes}, IsKey key slot.number .delimited →
      IsVarint size (Text.encode value).length →
      (encodeField slot value).length ≤ (key ++ size ++ Text.encode value).length := by
    intro key size hkey hsize
    have hkeyLength : (Varint.encode (keyCode slot.number 2)).length ≤ key.length :=
      Varint.length_encode_le_of_groups hkey.varint.groups
    have hsizeLength := Varint.length_encode_le_of_groups hsize.groups
    rw [Text.length_encode] at hsizeLength
    rw [length_encodeField, fieldLength]
    split
    · exact Nat.zero_le _
    · simp only [← length_encode_varint, List.length_append, Text.length_encode]
      omega
  cases h with
  | user hkey hsize => exact hpiece hkey hsize
  | text hkey hsize => exact hpiece hkey hsize

/-- A value of a slot was written in an item that fills the slot. -/
lemma exists_of_mem_valuesOf (h : value ∈ valuesOf slot items) :
    ∃ item ∈ items, item.1 = some (slot, value) := by
  obtain ⟨⟨what, piece⟩, hmem, hvalue⟩ := List.mem_filterMap.1 h
  obtain ⟨⟨other, written⟩, rfl, hslot⟩ := Option.bind_eq_some_iff.1 hvalue
  simp only [Option.ite_none_right_eq_some, Option.some.injEq] at hslot
  obtain ⟨rfl, rfl⟩ := hslot
  exact ⟨_, hmem, rfl⟩

/-- **The value that counts took room for its shortest form.** -/
lemma length_encodeField_le_room (hitems : ∀ item ∈ items, IsItem item.1 item.2) (slot : Slot) :
    (encodeField slot (lastValue slot items)).length ≤ room slot items := by
  cases hlast : (valuesOf slot items).getLast? with
  | none =>
    rw [lastValue, hlast]
    simp [encodeField]
  | some value =>
    obtain ⟨item, hmem, hwhat⟩ := exists_of_mem_valuesOf (List.mem_of_getLast? hlast)
    have hitem := hitems item hmem
    rw [hwhat] at hitem
    have hfills : item ∈ items.filter (fills slot) := List.mem_filter.2 ⟨hmem, by simp [fills, hwhat]⟩
    rw [lastValue, hlast, Option.getD_some]
    exact Nat.le_trans hitem.length_encodeField_le
      (List.single_le_sum (fun _ _ => Nat.zero_le _) _ (List.mem_map_of_mem hfills))

/-- No item fills both slots, so both have room in the message. -/
lemma room_add_room_le (items : List (Option (Slot × String) × Bytes)) :
    room .user items + room .text items ≤ (concat items).length := by
  induction items with
  | nil => exact Nat.le_refl _
  | cons item items ih =>
    rw [concat_cons, List.length_append]
    obtain ⟨_ | ⟨slot, value⟩, piece⟩ := item
    · exact Nat.le_trans ih (Nat.le_add_left _ _)
    · cases slot <;> simp [room, fills] at ih ⊢ <;> omega

/-! ## Writing anew -/

/-- **The envelope of a message is no longer than the message** when it is written anew. -/
lemma length_encode_le_of_decode {e : Envelope} (h : decode b = .ok e) : e.encode.length ≤ b.length := by
  obtain ⟨-, items, rfl, hitems, huser, htext⟩ := decode_eq_ok_iff.1 h
  have hroomUser := length_encodeField_le_room hitems .user
  have hroomText := length_encodeField_le_room hitems .text
  have hroom := room_add_room_le items
  rw [encode, List.length_append, ← huser, ← htext]
  omega

/-- **What was received can be sent on.**  The envelope of an accepted message is no longer when it is written
anew, so it may be sent, and it is accepted and gives the same envelope.  To send on what was sent on changes
nothing any more. -/
theorem received_can_be_forwarded (b : Bytes) (e : Envelope) (h : decode b = .ok e) :
    e.encode.length ≤ b.length ∧ e.encodeForSend = .ok e.encode ∧ decode e.encode = .ok e ∧
      forward b = .ok e.encode ∧ forward e.encode = .ok e.encode := by
  have hle := length_encode_le_of_decode h
  have hlimit : e.encode.length ≤ maxBytes := Nat.le_trans hle (decode_eq_ok_iff.1 h).1
  have hsend : e.encodeForSend = .ok e.encode := by
    rw [encodeForSend_eq, if_pos hlimit]
  have hself : decode e.encode = .ok e :=
    decode_eq_ok_iff.2 ⟨hlimit, isMessage_encode e (Nat.lt_of_le_of_lt hlimit (by decide))⟩
  refine ⟨hle, hsend, hself, ?_, ?_⟩
  · simp only [forward, h, hsend]
  · simp only [forward, hself, hsend]

/-- A message whose text comes first, under a key of three bytes, and whose sender is replaced; in between
there is a group with a field of its own that has the number of the sender. -/
def roundabout : Bytes :=
  [0x92, 0x80, 0x00, 0x02, 0x68, 0x69, 0x0A, 0x01, 0x78, 0x1B, 0x0A, 0x01, 0x79, 0x1C, 0x0A, 0x83, 0x00, 0x61, 0x6E,
    0x6E]

theorem received_can_be_forwarded_roundabout :
    let e : Envelope := ⟨"ann", "hi", by decide⟩
    decode roundabout = .ok e ∧ e.encode = [0x0A, 0x03, 0x61, 0x6E, 0x6E, 0x12, 0x02, 0x68, 0x69] ∧
      e.encode.length ≤ roundabout.length ∧ e.encodeForSend = .ok e.encode ∧ decode e.encode = .ok e ∧
      forward roundabout = .ok e.encode ∧ forward e.encode = .ok e.encode := by
  intro e
  have h : decode roundabout = .ok e := by decide +kernel
  exact ⟨h, by decide +kernel, received_can_be_forwarded roundabout e h⟩

end MessageRelay.Envelope
