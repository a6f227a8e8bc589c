import MessageRelay.Wire.Varint
import Mathlib.Algebra.Order.Ring.Nat

/-!
# What a variable-length number is

`IsVarint b n` says that `b` is a written form of `n`, without saying how one is read: groups of seven
bits, the lowest first, all but the last with the top bit of the byte set; no more than ten bytes, and a
value of no more than 64 bits.  There are several forms of one number.  Reading accepts all of them and
nothing else (`read?_eq_some_iff`), and writing gives one of them (`isVarint_encode`).
-/

namespace MessageRelay.Wire

/-- Groups of seven bits, the lowest first, and the number that they denote. -/
inductive Groups : Bytes → Nat → Prop
  | last {b : UInt8} (hb : b.toNat < 128) : Groups [b] b.toNat
  | more {b : UInt8} {rest : Bytes} {n : Nat} (hb : 128 ≤ b.toNat) (hrest : Groups rest n) :
    Groups (b :: rest) (b.toNat % 128 + 128 * n)

/-- A written form of a number of 64 bits. -/
structure IsVarint (b : Bytes) (n : Nat) : Prop where
  groups : Groups b n
  length_le : b.length ≤ 10
  lt_size : n < UInt64.size

namespace Varint

variable {b rest : Bytes} {n left : Nat}

/-! ## Reading -/

/-- With `left` bytes to go, the last of which carries one bit, there is room for `7 * left - 6` bits.
The powers of 128 count the bytes before the last one. -/
lemma readAtMost_eq_some_iff :
    readAtMost (left + 1) b = some (n, rest) ↔
      ∃ p, b = p ++ rest ∧ Groups p n ∧ p.length ≤ left + 1 ∧ n < 2 * 128 ^ left := by
  induction left generalizing b n with
  | zero =>
    constructor
    · intro h
      cases b with
      | nil => cases h
      | cons x xs =>
        simp only [readAtMost, Option.map_none] at h
        split at h
        · next hx =>
          split at h
          · cases h
          · next hbound =>
            cases h
            refine ⟨[x], rfl, .last hx, Nat.le_refl _, ?_⟩
            simp only [true_and, Nat.not_lt] at hbound
            omega
        · cases h
    · rintro ⟨p, rfl, hp, hlen, hlt⟩
      cases hp with
      | @last x hx =>
        have hbound : ¬ 1 < x.toNat := by omega
        simp [readAtMost, hx, hbound]
      | more hb hrest =>
        -- one byte is not enough for a group with another one behind it
        cases hrest <;> simp at hlen
  | succ left ih =>
    constructor
    · intro h
      cases b with
      | nil => cases h
      | cons x xs =>
        rw [readAtMost] at h
        split at h
        · next hx =>
          rw [if_neg (by omega)] at h
          cases h
          refine ⟨[x], rfl, .last hx, by simp, ?_⟩
          have hpos : 0 < 128 ^ left := Nat.pow_pos (by omega)
          rw [Nat.pow_succ]
          omega
        · next hx =>
          obtain ⟨⟨m, r⟩, hr, heq⟩ := Option.map_eq_some_iff.1 h
          obtain ⟨rfl, rfl⟩ := Prod.mk.inj heq
          obtain ⟨p, rfl, hp, hlen, hlt⟩ := ih.1 hr
          refine ⟨x :: p, rfl, .more (by omega) hp, by simpa using hlen, ?_⟩
          rw [Nat.pow_succ]
          omega
    · rintro ⟨p, rfl, hp, hlen, hlt⟩
      cases hp with
      | last hx => simp [readAtMost, hx]
      | @more x p m hx hp =>
        have hread : readAtMost (left + 1) (p ++ rest) = some (m, rest) := by
          refine ih.2 ⟨p, rfl, hp, by simpa using hlen, ?_⟩
          rw [Nat.pow_succ] at hlt
          omega
        rw [List.cons_append, readAtMost, if_neg (by omega), hread]
        rfl

/-- **Reading accepts every written form of a number, and nothing else.** -/
lemma read?_eq_some_iff :
    read? b = some (n, rest) ↔ ∃ p, b = p ++ rest ∧ IsVarint p n := by
  have hsize : 2 * 128 ^ 9 = UInt64.size := by decide
  rw [read?, readAtMost_eq_some_iff, hsize]
  constructor
  · rintro ⟨p, rfl, hp, hlen, hlt⟩
    exact ⟨p, rfl, hp, hlen, hlt⟩
  · rintro ⟨p, rfl, hp, hlen, hlt⟩
    exact ⟨p, rfl, hp, hlen, hlt⟩

lemma read?_append (h : IsVarint b n) (rest : Bytes) : read? (b ++ rest) = some (n, rest) :=
  read?_eq_some_iff.2 ⟨b, rfl, h⟩

/-! ## Writing -/

lemma groups_encode (n : Nat) : Groups (encode n) n := by
  induction n using Nat.strongRecOn with
  | ind n ih =>
    rw [encode]
    split
    · next hn =>
      have hbyte : n.toUInt8.toNat = n := UInt8.toNat_ofNat_of_lt' (show n < 256 by omega)
      have hlast : Groups [n.toUInt8] n.toUInt8.toNat := .last (by omega)
      rwa [hbyte] at hlast
    · next hn =>
      have hbyte : (n % 128 + 128).toUInt8.toNat = n % 128 + 128 :=
        UInt8.toNat_ofNat_of_lt' (show n % 128 + 128 < 256 by omega)
      have hmore : Groups ((n % 128 + 128).toUInt8 :: encode (n / 128)) _ :=
        .more (by omega) (ih (n / 128) (by omega))
      have hvalue : (n % 128 + 128).toUInt8.toNat % 128 + 128 * (n / 128) = n := by
        rw [hbyte]
        omega
      rwa [hvalue] at hmore

lemma length_encode_le (left : Nat) (h : n < 128 ^ (left + 1)) :
    (encode n).length ≤ left + 1 := by
  induction left generalizing n with
  | zero =>
    rw [encode, if_pos (by omega)]
    simp
  | succ left ih =>
    rw [encode]
    split
    · simp
    · rw [List.length_cons]
      refine Nat.succ_le_succ (ih ?_)
      rw [Nat.pow_succ] at h
      omega

/-- **What is written is the shortest form**: no groups that denote the number are fewer. -/
lemma length_encode_le_of_groups (h : Groups b n) : (encode n).length ≤ b.length := by
  induction h with
  | @last x hx =>
    rw [encode, if_pos hx]
    simp
  | @more x rest n hx hrest ih =>
    rw [encode]
    split
    · simp
    · -- the lowest group is the first byte, and the others denote what is left
      have hdiv : (x.toNat % 128 + 128 * n) / 128 = n := by omega
      rw [hdiv, List.length_cons, List.length_cons]
      omega

/-- **What is written is a written form.** -/
lemma isVarint_encode (h : n < UInt64.size) : IsVarint (encode n) n where
  groups := groups_encode n
  length_le := by
    have hsize : UInt64.size ≤ 128 ^ (9 + 1) := by decide
    exact length_encode_le 9 (Nat.lt_of_lt_of_le h hsize)
  lt_size := h

end Varint

end MessageRelay.Wire
