import MessageRelay.Envelope.Codec
import MessageRelay.Proofs.Wire.Grammar

/-!
# Which inputs are envelopes

An encoded envelope is a sequence of items: values of the two slots, and fields that have other numbers.
The last value of a slot counts, and a slot without a value is empty.  `IsMessage` says so without any
reader, and the main result is `decode_accepts_messages`: an input is accepted if and only if it is not
too long, is a message, and names a sender; every other input is refused as malformed.
-/

namespace MessageRelay.Envelope

open Wire

/-! ## The grammar -/

/-- One item of an encoded envelope: a sender in field 1, a text in field 2, or any other field. -/
inductive IsItem : Option (Slot × String) → Bytes → Prop
  | user {value : String} {key size : Bytes} (hkey : IsKey key 1 .delimited)
    (hsize : IsVarint size (Text.encode value).length) :
    IsItem (some (.user, value)) (key ++ size ++ Text.encode value)
  | text {value : String} {key size : Bytes} (hkey : IsKey key 2 .delimited)
    (hsize : IsVarint size (Text.encode value).length) :
    IsItem (some (.text, value)) (key ++ size ++ Text.encode value)
  | other {number : Nat} {field : Bytes} (huser : number ≠ 1) (htext : number ≠ 2)
    (hfield : IsField 1 number field) : IsItem none field

/-- The values of a slot, in their order. -/
def valuesOf (slot : Slot) (items : List (Option (Slot × String) × Bytes)) : List String :=
  items.filterMap fun item => item.1.bind fun v => if v.1 = slot then some v.2 else none

/-- The last value of a slot; it is empty if there is none. -/
def lastValue (slot : Slot) (items : List (Option (Slot × String) × Bytes)) : String :=
  (valuesOf slot items).getLast?.getD ""

/-- The input is a sequence of items, of which the last ones give the sender and the text. -/
def IsMessage (b : Bytes) (user text : String) : Prop :=
  ∃ items : List (Option (Slot × String) × Bytes), b = concat items ∧
    (∀ item ∈ items, IsItem item.1 item.2) ∧
    lastValue .user items = user ∧ lastValue .text items = text

/-! ## Reading items -/

variable {b rest : Bytes} {number : Nat} {wireType : WireType} {value : String} {slot : Slot}

lemma ofNumber?_eq_some_iff : Slot.ofNumber? number = some slot ↔ slot.number = number := by
  constructor
  · intro h
    unfold Slot.ofNumber? at h
    split at h <;> cases h <;> rfl
  · rintro rfl
    cases slot <;> rfl

lemma ofNumber?_eq_none_iff : Slot.ofNumber? number = none ↔ number ≠ 1 ∧ number ≠ 2 := by
  unfold Slot.ofNumber?
  split <;> simp_all

/-- A value of either slot, by the number of the slot. -/
lemma isItem_slot {key size : Bytes} (hkey : IsKey key slot.number .delimited)
    (hsize : IsVarint size (Text.encode value).length) :
    IsItem (some (slot, value)) (key ++ size ++ Text.encode value) := by
  cases slot with
  | user => exact .user hkey hsize
  | text => exact .text hkey hsize

/-- The value of a slot is delimited, and it is the UTF-8 form of a text. -/
lemma readSlot_eq_ok_iff :
    readSlot wireType b = .ok (value, rest) ↔ wireType = .delimited ∧
      ∃ size, b = size ++ Text.encode value ++ rest ∧ IsVarint size (Text.encode value).length := by
  unfold readSlot
  constructor
  · intro h
    split at h
    · cases h
    · next hw =>
      refine ⟨not_not.1 hw, ?_⟩
      split at h
      · cases h
      · next content rest' hread =>
        split at h
        · cases h
        · next s hs =>
          cases h
          -- a text has only one UTF-8 form, so the bytes are known from the text
          rw [Text.eq_encode_of_decode? hs] at hread
          exact readDelimited_eq_ok_iff.1 hread
  · rintro ⟨rfl, size, rfl, hsize⟩
    have hread : readDelimited (size ++ Text.encode value ++ rest) = .ok (Text.encode value, rest) :=
      readDelimited_eq_ok_iff.2 ⟨size, rfl, hsize⟩
    rw [if_neg (not_not.2 rfl), hread]
    simp only [Text.decode?_encode]

/-! ## Reading messages -/

/-- What a draft becomes by an item. -/
def Draft.take (d : Draft) (item : Option (Slot × String) × Bytes) : Draft :=
  match item.1 with
  | some (slot, value) => d.put value slot
  | none => d

/-- What a draft has in a slot. -/
def Draft.get (d : Draft) : Slot → String
  | .user => d.user
  | .text => d.text

lemma Draft.get_put (d : Draft) (value : String) (slot other : Slot) :
    (d.put value slot).get other = if slot = other then value else d.get other := by
  cases slot <;> cases other <;> rfl

/-- The last value of a slot counts. -/
lemma get_foldl_take (items : List (Option (Slot × String) × Bytes)) (d : Draft) (slot : Slot) :
    (items.foldl Draft.take d).get slot =
      (valuesOf slot items).getLast?.getD (d.get slot) := by
  induction items generalizing d with
  | nil => rfl
  | cons item rest ih =>
    rw [List.foldl_cons, ih]
    obtain ⟨_ | ⟨other, value⟩, piece⟩ := item
    · rfl
    · by_cases hslot : other = slot
      · simp [valuesOf, Draft.take, Draft.get_put, hslot, List.getLast?_cons]
      · simp [valuesOf, Draft.take, Draft.get_put, hslot]

lemma ne_nil_of_readKey {key : Key} (h : readKey b = .ok (key, rest)) : b ≠ [] := by
  rintro rfl
  exact Nat.not_lt_zero _ (readKey_length h)

lemma readFields_slot {d : Draft} {b' : Bytes} {key : Key} (hread : readKey b = .ok (key, b'))
    (hslot : Slot.ofNumber? key.number = some slot)
    (hvalue : readSlot key.wireType b' = .ok (value, rest)) :
    readFields d b = readFields (d.put value slot) rest := by
  rw [readFields, if_neg (ne_nil_of_readKey hread)]
  split
  · next heq => rw [hread] at heq; cases heq
  · next heq =>
    rw [hread] at heq
    cases heq
    rw [hslot]
    simp only
    split
    · next heq' => rw [hvalue] at heq'; cases heq'
    · next heq' => rw [hvalue] at heq'; cases heq'; rfl

lemma readFields_other {d : Draft} {b' : Bytes} {key : Key} (hread : readKey b = .ok (key, b'))
    (hnone : Slot.ofNumber? key.number = none) (hskip : skipField key b' = .ok rest) :
    readFields d b = readFields d rest := by
  rw [readFields, if_neg (ne_nil_of_readKey hread)]
  split
  · next heq => rw [hread] at heq; cases heq
  · next heq =>
    rw [hread] at heq
    cases heq
    rw [hnone]
    simp only
    split
    · next heq' => rw [hskip] at heq'; cases heq'
    · next heq' => rw [hskip] at heq'; cases heq'; rfl

/-- What the reader finds at the front of the input, and what it leaves: a value for a slot, or a field
that it steps over. -/
inductive ReadsItem (b rest : Bytes) : Option (Slot × String) → Prop
  | slot {key : Key} {b' : Bytes} {slot : Slot} {value : String} (hread : readKey b = .ok (key, b'))
    (hslot : Slot.ofNumber? key.number = some slot)
    (hvalue : readSlot key.wireType b' = .ok (value, rest)) : ReadsItem b rest (some (slot, value))
  | other {key : Key} {b' : Bytes} (hread : readKey b = .ok (key, b'))
    (hnone : Slot.ofNumber? key.number = none) (hskip : skipField key b' = .ok rest) :
    ReadsItem b rest none

/-- An item is found in front of anything. -/
lemma IsItem.reads {what : Option (Slot × String)} {piece : Bytes} (h : IsItem what piece) (rest : Bytes) :
    ReadsItem (piece ++ rest) rest what := by
  have hslot : ∀ (slot : Slot) {value : String} {key size : Bytes},
      IsKey key slot.number .delimited → IsVarint size (Text.encode value).length →
      ReadsItem (key ++ size ++ Text.encode value ++ rest) rest (some (slot, value)) := by
    intro slot value key size hkey hsize
    have hread : readKey (key ++ size ++ Text.encode value ++ rest) =
        .ok (⟨slot.number, .delimited⟩, size ++ Text.encode value ++ rest) := by
      rw [List.append_assoc, List.append_assoc, ← List.append_assoc size]
      exact readKey_append hkey _
    exact .slot hread (ofNumber?_eq_some_iff.2 rfl) (readSlot_eq_ok_iff.2 ⟨rfl, size, rfl, hsize⟩)
  cases h with
  | user hkey hsize => exact hslot .user hkey hsize
  | text hkey hsize => exact hslot .text hkey hsize
  | other huser htext hfield =>
    obtain ⟨wireType, b', hread, hskip⟩ := readKey_skipField_iff.2 ⟨piece, rfl, hfield⟩
    exact .other hread (ofNumber?_eq_none_iff.2 ⟨huser, htext⟩) hskip

/-- One item is read, and the rest is read after it. -/
lemma readFields_item {item : Option (Slot × String) × Bytes} (h : IsItem item.1 item.2) (d : Draft)
    (rest : Bytes) : readFields d (item.2 ++ rest) = readFields (d.take item) rest := by
  obtain ⟨what, piece⟩ := item
  cases h.reads rest with
  | slot hread hslot hvalue => exact readFields_slot hread hslot hvalue
  | other hread hnone hskip => exact readFields_other hread hnone hskip

/-- **Reading accepts sequences of items, and nothing else.** -/
lemma readFields_eq_ok_iff {d d' : Draft} :
    readFields d b = .ok d' ↔ ∃ items : List (Option (Slot × String) × Bytes), b = concat items ∧
      (∀ item ∈ items, IsItem item.1 item.2) ∧ items.foldl Draft.take d = d' := by
  constructor
  · intro h
    fun_induction readFields d b with
    | case1 d =>
      cases h
      exact ⟨[], rfl, by simp, rfl⟩
    | case2 => cases h
    | case3 => cases h
    -- a value for a slot, which stands for one item
    | case4 d b _ key rest hread slot hslot value rest' hvalue _ _ ih =>
      obtain ⟨items, rfl, hitems, hfold⟩ := ih h
      obtain ⟨bytes, rfl, hkey⟩ := readKey_eq_ok_iff.1 hread
      obtain ⟨hw, size, rfl, hsize⟩ := readSlot_eq_ok_iff.1 hvalue
      rw [hw, ← ofNumber?_eq_some_iff.1 hslot] at hkey
      refine ⟨(some (slot, value), bytes ++ size ++ Text.encode value) :: items, ?_, ?_, hfold⟩
      · rw [concat_cons]
        simp only [List.append_assoc]
      · exact List.forall_mem_cons.2 ⟨isItem_slot hkey hsize, hitems⟩
    | case5 => cases h
    -- a field that is skipped, groups and all
    | case6 d b _ key rest hread hnone rest' hskip _ _ ih =>
      obtain ⟨items, rfl, hitems, hfold⟩ := ih h
      obtain ⟨field, rfl, hfield⟩ := readKey_skipField_iff.1 ⟨key.wireType, rest, hread, hskip⟩
      refine ⟨(none, field) :: items, by rw [concat_cons], ?_, hfold⟩
      obtain ⟨huser, htext⟩ := ofNumber?_eq_none_iff.1 hnone
      exact List.forall_mem_cons.2 ⟨.other huser htext hfield, hitems⟩
  · rintro ⟨items, rfl, hitems, rfl⟩
    induction items generalizing d with
    | nil => rw [concat_nil, readFields, if_pos rfl]; rfl
    | cons item items ih =>
      rw [List.forall_mem_cons] at hitems
      rw [concat_cons, readFields_item hitems.1, ih hitems.2, List.foldl_cons]

/-- A message is read from the start, with nothing in either slot. -/
lemma isMessage_iff {user text : String} :
    IsMessage b user text ↔ ∃ d, readFields {} b = .ok d ∧ d.user = user ∧ d.text = text := by
  have hlast : ∀ items slot, (items.foldl Draft.take {}).get slot = lastValue slot items := by
    intro items slot
    rw [get_foldl_take]
    cases slot <;> rfl
  constructor
  · rintro ⟨items, rfl, hitems, huser, htext⟩
    refine ⟨_, readFields_eq_ok_iff.2 ⟨items, rfl, hitems, rfl⟩, ?_, ?_⟩
    · exact (hlast items .user).trans huser
    · exact (hlast items .text).trans htext
  · rintro ⟨d, hread, rfl, rfl⟩
    obtain ⟨items, rfl, hitems, rfl⟩ := readFields_eq_ok_iff.1 hread
    exact ⟨items, rfl, hitems, (hlast items .user).symm, (hlast items .text).symm⟩

/-! ## The main result -/

/-- An input that is accepted is a message that names a sender. -/
lemma decode_eq_ok_iff {e : Envelope} :
    decode b = .ok e ↔ b.length ≤ maxBytes ∧ IsMessage b e.user e.text := by
  unfold decode
  constructor
  · intro h
    split at h
    · cases h
    · next hlen =>
      refine ⟨Nat.not_lt.1 hlen, ?_⟩
      split at h
      · cases h
      · next d hread =>
        obtain ⟨huser, htext⟩ := make_eq_ok_iff.1 h
        exact isMessage_iff.2 ⟨d, hread, huser.symm, htext.symm⟩
  · rintro ⟨hlen, hmessage⟩
    obtain ⟨d, hread, huser, htext⟩ := isMessage_iff.1 hmessage
    rw [if_neg (Nat.not_lt.2 hlen), hread]
    exact make_eq_ok_iff.2 ⟨huser.symm, htext.symm⟩

/-- Whatever is refused is refused as malformed. -/
lemma kind_of_decode_eq_error {err : RelayError} (h : decode b = .error err) :
    err.kind = .malformedEnvelope := by
  unfold decode at h
  split at h
  · cases h; rfl
  · split at h
    · cases h; rfl
    · unfold make at h
      split at h
      · cases h
      · cases h; rfl

/-- **An input is accepted if and only if it is an envelope.**  It must not be too long, it must be a
sequence of items, and the last sender must not be blank; sender and text are the last ones.  Every
other input is refused as malformed. -/
theorem decode_accepts_messages (b : Bytes) :
    (∀ user text : String, (∃ e, decode b = .ok e ∧ e.user = user ∧ e.text = text) ↔
      b.length ≤ 65536 ∧ IsMessage b user text ∧ Text.isBlank user = false) ∧
    ((∃ err, decode b = .error err ∧ err.kind = .malformedEnvelope) ↔
      ¬ ∃ user text : String, b.length ≤ 65536 ∧ IsMessage b user text ∧
        Text.isBlank user = false) := by
  have hiff : ∀ user text : String, (∃ e, decode b = .ok e ∧ e.user = user ∧ e.text = text) ↔
      b.length ≤ 65536 ∧ IsMessage b user text ∧ Text.isBlank user = false := by
    intro user text
    constructor
    · rintro ⟨e, hdecode, rfl, rfl⟩
      obtain ⟨hlen, hmessage⟩ := decode_eq_ok_iff.1 hdecode
      exact ⟨hlen, hmessage, e.user_not_blank⟩
    · rintro ⟨hlen, hmessage, hblank⟩
      exact ⟨⟨user, text, hblank⟩, decode_eq_ok_iff.2 ⟨hlen, hmessage⟩, rfl, rfl⟩
  refine ⟨hiff, ?_⟩
  constructor
  · rintro ⟨err, herror, -⟩ ⟨user, text, hmessage⟩
    obtain ⟨e, hdecode, -⟩ := (hiff user text).2 hmessage
    rw [herror] at hdecode
    cases hdecode
  · intro hnone
    cases hdecode : decode b with
    | error err => exact ⟨err, rfl, kind_of_decode_eq_error hdecode⟩
    | ok e => exact absurd ⟨e.user, e.text, (hiff _ _).1 ⟨e, hdecode, rfl, rfl⟩⟩ hnone

end MessageRelay.Envelope
