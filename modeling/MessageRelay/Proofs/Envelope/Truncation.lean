import MessageRelay.Proofs.Envelope.RoundTrip

/-!
# What is cut off is refused

A transport may lose the end of a message.  Where one item ends and the next begins is not in doubt
(`IsItem.append_inj`), so a beginning of a message that is a message itself consists of its first items, and
an envelope has two items at most.  The only loss that goes unnoticed is therefore that of the whole text;
wherever else the wire form is cut off, inside a number, inside a character or between the two fields of an
item, what is left is refused (`decode_cut_off`).
-/

namespace MessageRelay.Envelope

open Wire

variable {what what' : Option (Slot × String)} {b piece piece' rest rest' : Bytes}
  {items whole : List (Option (Slot × String) × Bytes)} {e e' : Envelope} {n : Nat}

/-! ## Where an item ends -/

/-- What is found at the front of the input, and what is left, is not in doubt. -/
lemma ReadsItem.unique (h : ReadsItem b rest what) (h' : ReadsItem b rest' what') :
    what = what' ∧ rest = rest' := by
  cases h with
  | slot hread hslot hvalue =>
    cases h' with
    | slot hread' hslot' hvalue' =>
      cases hread.symm.trans hread'
      cases hslot.symm.trans hslot'
      cases hvalue.symm.trans hvalue'
      exact ⟨rfl, rfl⟩
    | other hread' hnone' _ =>
      cases hread.symm.trans hread'
      cases hslot.symm.trans hnone'
  | other hread hnone hskip =>
    cases h' with
    | slot hread' hslot' _ =>
      cases hread.symm.trans hread'
      cases hnone.symm.trans hslot'
    | other hread' _ hskip' =>
      cases hread.symm.trans hread'
      cases hskip.symm.trans hskip'
      exact ⟨rfl, rfl⟩

lemma IsItem.ne_nil (h : IsItem what piece) : piece ≠ [] := by
  rintro rfl
  cases h.reads [] with
  | slot hread => exact ne_nil_of_readKey hread rfl
  | other hread => exact ne_nil_of_readKey hread rfl

/-- **Where an item ends is not in doubt**, whatever follows it. -/
lemma IsItem.append_inj (h : IsItem what piece) (h' : IsItem what' piece')
    (heq : piece ++ rest = piece' ++ rest') : what = what' ∧ piece = piece' ∧ rest = rest' := by
  have hreads := h.reads rest
  rw [heq] at hreads
  obtain ⟨rfl, rfl⟩ := hreads.unique (h'.reads rest')
  exact ⟨rfl, List.append_cancel_right heq, rfl⟩

/-- **A beginning of a message that is a message itself consists of its first items.** -/
lemma exists_append_of_concat_eq (hitems : ∀ item ∈ items, IsItem item.1 item.2)
    (hwhole : ∀ item ∈ whole, IsItem item.1 item.2) (h : concat whole = concat items ++ rest) :
    ∃ more, whole = items ++ more ∧ rest = concat more := by
  induction items generalizing whole with
  | nil => exact ⟨whole, rfl, by simpa using h.symm⟩
  | cons item items ih =>
    obtain ⟨hitem, hitems⟩ := List.forall_mem_cons.1 hitems
    rw [concat_cons, List.append_assoc] at h
    cases whole with
    | nil =>
      have hnil := List.append_eq_nil_iff.1 h.symm
      exact absurd hnil.1 hitem.ne_nil
    | cons first whole =>
      obtain ⟨hfirst, hwhole⟩ := List.forall_mem_cons.1 hwhole
      rw [concat_cons] at h
      obtain ⟨hwhat, hpiece, hrest⟩ := hfirst.append_inj hitem h
      obtain ⟨more, rfl, rfl⟩ := ih hitems hwhole hrest
      exact ⟨more, by rw [Prod.ext hwhat hpiece]; rfl, rfl⟩

/-! ## What is left of an envelope -/

lemma user_ne_empty (e : Envelope) : e.user ≠ "" := by
  intro h
  have hblank := e.user_not_blank
  rw [h, Text.isBlank_empty] at hblank
  cases hblank

/-- The first item of an envelope is its sender. -/
lemma items_eq_cons (e : Envelope) :
    e.items = (some (.user, e.user), encodeField .user e.user) :: itemsOf .text e.text := by
  rw [Envelope.items, itemsOf, if_neg e.user_ne_empty, List.singleton_append]

/-- What is left of an envelope is accepted only if it is the sender. -/
lemma eq_of_decode_take (hlen : e.encode.length ≤ maxBytes) (hn : n < e.encode.length)
    (h : decode (e.encode.take n) = .ok e') :
    n = (encodeField .user e.user).length ∧ e'.user = e.user ∧ e'.text = "" := by
  obtain ⟨-, left, hleft, hitems, huser, htext⟩ := decode_eq_ok_iff.1 h
  have hwhole := isItem_of_mem_items e (Nat.lt_of_le_of_lt hlen (by decide))
  have hsplit : concat e.items = concat left ++ e.encode.drop n := by
    rw [concat_items, ← hleft, List.take_append_drop]
  obtain ⟨more, hmore, hlost⟩ := exists_append_of_concat_eq hitems hwhole hsplit
  -- something is lost, so not all items are left; and one item at least, for the sender is named
  have hne : more ≠ [] := by
    rintro rfl
    have hdrop := congrArg List.length hlost
    rw [List.length_drop, concat_nil, List.length_nil] at hdrop
    omega
  cases left with
  | nil => exact absurd huser.symm e'.user_ne_empty
  | cons first left =>
    rw [items_eq_cons, List.cons_append] at hmore
    obtain ⟨rfl, htail⟩ := List.cons.inj hmore
    have hleftNil : left = [] := by
      have hlength := congrArg List.length htail
      have htextItems : (itemsOf .text e.text).length ≤ 1 := by
        unfold itemsOf
        split <;> simp
      rw [List.length_append] at hlength
      have hpos := List.length_pos_iff.2 hne
      exact List.eq_nil_of_length_eq_zero (by omega)
    subst hleftNil
    refine ⟨?_, huser.symm, htext.symm⟩
    have hlength := congrArg List.length hleft
    simp only [List.length_take, concat_cons, concat_nil, List.append_nil] at hlength
    omega

/-- The sender alone is the wire form of an envelope without a text. -/
lemma take_length_encodeField (e : Envelope) :
    e.encode.take (encodeField .user e.user).length =
      ({ e with text := "" } : Envelope).encode := by
  rw [encode, List.take_left' rfl, encode]
  simp [encodeField]

/-- **An envelope that is cut off is refused, unless exactly the text is lost.**  If it is cut off behind
the sender, what is left is an envelope with an empty text; if it is cut off anywhere else, what is left is
malformed.  So whatever of it is accepted has the whole sender, and the whole text or none. -/
theorem decode_cut_off (e : Envelope) (hlen : e.encode.length ≤ 65536) :
    (∀ n < e.encode.length,
      (n = (encodeField .user e.user).length →
        decode (e.encode.take n) = .ok { e with text := "" }) ∧
      (n ≠ (encodeField .user e.user).length →
        ∃ err, decode (e.encode.take n) = .error err ∧ err.kind = .malformedEnvelope)) ∧
    ∀ n e', decode (e.encode.take n) = .ok e' →
      e'.user = e.user ∧ (e'.text = e.text ∨ e'.text = "") := by
  refine ⟨fun n hn => ⟨?_, fun hne => ?_⟩, fun n e' h => ?_⟩
  · rintro rfl
    rw [take_length_encodeField]
    have hshort : ({ e with text := "" } : Envelope).encode.length < e.encode.length := by
      rw [← take_length_encodeField, List.length_take]
      omega
    have hle := Nat.le_trans (Nat.le_of_lt hshort) hlen
    exact decode_eq_ok_iff.2 ⟨hle, isMessage_encode _ (Nat.lt_of_le_of_lt hle (by decide))⟩
  · cases h : decode (e.encode.take n) with
    | error err => exact ⟨err, rfl, kind_of_decode_eq_error h⟩
    | ok e' => exact absurd (eq_of_decode_take hlen hn h).1 hne
  · rcases Nat.lt_or_ge n e.encode.length with hn | hn
    · obtain ⟨-, huser, htext⟩ := eq_of_decode_take hlen hn h
      exact ⟨huser, .inr htext⟩
    · rw [List.take_of_length_le hn] at h
      have hself : decode e.encode = .ok e :=
        decode_eq_ok_iff.2 ⟨hlen, isMessage_encode e (Nat.lt_of_le_of_lt hlen (by decide))⟩
      cases h.symm.trans hself
      exact ⟨rfl, .inl rfl⟩

/-- A sender of two characters, the second of which takes two bytes, and a text. -/
def greeting : Envelope :=
  ⟨"oé", "hi", by decide⟩

theorem decode_cut_off_greeting :
    greeting.encode.length ≤ 65536 ∧ greeting.encode.length = 9 ∧
      decode (greeting.encode.take 5) = .ok { greeting with text := "" } ∧
      (∃ err, decode (greeting.encode.take 4) = .error err ∧ err.kind = .malformedEnvelope) ∧
      (∃ err, decode (greeting.encode.take 7) = .error err ∧ err.kind = .malformedEnvelope) := by
  have hlen : greeting.encode.length = 9 := by decide +kernel
  have hle : greeting.encode.length ≤ 65536 := by omega
  have hborder : (encodeField .user greeting.user).length = 5 := by decide +kernel
  obtain ⟨hcut, -⟩ := decode_cut_off greeting hle
  refine ⟨hle, hlen, (hcut 5 (by omega)).1 (by omega), (hcut 4 (by omega)).2 (by omega),
    (hcut 7 (by omega)).2 (by omega)⟩

end MessageRelay.Envelope
