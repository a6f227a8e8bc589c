import MessageRelay.Text.Bytes

/-!
# Variable-length numbers

A number is written in groups of seven bits, the lowest group first, and every byte but the last
one has its top bit set.  Reading takes at most ten bytes, so that the value fits in 64 bits: the
tenth byte may only carry the one bit that is left.  Writing uses the fewest bytes possible;
reading also accepts longer forms.
-/

namespace MessageRelay.Wire.Varint

/-- The shortest written form of a number. -/
def encode (n : Nat) : Bytes :=
  if n < 128 then [n.toUInt8] else (n % 128 + 128).toUInt8 :: encode (n / 128)

/-- Reads a number that may take `left` more bytes, the last of which carries one bit only. -/
def readAtMost : Nat → Bytes → Option (Nat × Bytes)
  | 0, _ => none
  | _, [] => none
  | left + 1, b :: rest =>
    if b.toNat < 128 then
      if left = 0 ∧ 1 < b.toNat then none else some (b.toNat, rest)
    else
      (readAtMost left rest).map fun r => (b.toNat % 128 + 128 * r.1, r.2)

/-- Reads a number of at most 64 bits from the front of the input. -/
def read? (b : Bytes) : Option (Nat × Bytes) :=
  readAtMost 10 b

/-! ## Reading consumes something -/

theorem readAtMost_length {left : Nat} {b rest : Bytes} {n : Nat}
    (h : readAtMost left b = some (n, rest)) : rest.length < b.length := by
  induction left generalizing b n rest with
  | zero => simp [readAtMost] at h
  | succ left ih =>
    cases b with
    | nil => simp [readAtMost] at h
    | cons x xs =>
      unfold readAtMost at h
      split at h
      · split at h
        · cases h
        · cases h
          simp
      · obtain ⟨⟨m, r⟩, hr, heq⟩ := Option.map_eq_some_iff.1 h
        cases heq
        have := ih hr
        simp only [List.length_cons]
        omega

/-- What is left after a number is shorter than the input. -/
theorem read?_length {b rest : Bytes} {n : Nat} (h : read? b = some (n, rest)) :
    rest.length < b.length :=
  readAtMost_length h

end MessageRelay.Wire.Varint
