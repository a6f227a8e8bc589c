import Mathlib.Data.Nat.Digits.Defs

/-!
# Digits of a number

A number is written digit by digit, and readers take it digit by digit, so what a reader makes of a number is shown by
induction on the digits (`toDigits_induction`).  The notation has no zeros in front (`eq_zero_of_head?_toDigits`).
-/

namespace MessageRelay.Text

variable {b n : ℕ}

/-- A number has one digit, or one digit more than another number that is not zero. -/
lemma toDigits_induction {P : ℕ → List Char → Prop} (hb : 1 < b) (one : ∀ d < b, P d [d.digitChar])
    (more : ∀ n d, 0 < n → d < b → P n (Nat.toDigits b n) → P (n * b + d) (Nat.toDigits b n ++ [d.digitChar])) (n : ℕ) :
    P n (Nat.toDigits b n) := by
  induction n using Nat.strong_induction_on with
  | _ n ih =>
    rw [Nat.toDigits_eq_if hb]
    split
    · next hn => exact one n hn
    · next hn =>
      have hpos : 0 < n / b := Nat.div_pos (Nat.not_lt.1 hn) (Nat.zero_lt_of_lt hb)
      have hsmaller : n / b < n := Nat.div_lt_self (Nat.lt_of_lt_of_le (Nat.zero_lt_of_lt hb) (Nat.not_lt.1 hn)) hb
      have h := more (n / b) (n % b) hpos (Nat.mod_lt n (Nat.zero_lt_of_lt hb)) (ih (n / b) hsmaller)
      rwa [Nat.div_add_mod'] at h

lemma eq_zero_of_digitChar {d : ℕ} (hd : d < 16) : d.digitChar = '0' → d = 0 := by
  decide +revert

/-- Only zero is written with a zero in front. -/
lemma eq_zero_of_head?_toDigits (hb : 1 < b) (hsmall : b ≤ 16) (h : (Nat.toDigits b n).head? = some '0') : n = 0 := by
  revert h
  refine toDigits_induction (P := fun n ds => ds.head? = some '0' → n = 0) hb (fun d hd h => ?_)
    (fun n d hn _ ih h => ?_) n
  · exact eq_zero_of_digitChar (Nat.lt_of_lt_of_le hd hsmall) (Option.some.inj h)
  · obtain ⟨c, cs, hcs⟩ := List.exists_cons_of_ne_nil (Nat.toDigits_ne_nil (n := n) (b := b))
    rw [hcs] at h ih
    exact absurd (ih h) hn.ne'

end MessageRelay.Text
