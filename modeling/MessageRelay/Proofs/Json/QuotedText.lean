import MessageRelay.Json.QuotedText
import MessageRelay.Json.Writer
import Mathlib.Data.List.Basic

/-!
# Quoted texts are read as they are written

Each character is written as itself or as an escape, and the reader takes what was written for one character as that
character (`textBody_escapeChar`).  So a quoted text gives the text back wherever it stands, and its closing quote is
found, whatever the text holds and whatever follows it (`textBody_escape`).
-/

namespace MessageRelay.Json

variable (read rest : List Char)

/-! ## Escapes -/

lemma hexValue?_hexDigit {n : Nat} (h : n < 16) : hexValue? (hexDigit n) = some n := by
  decide +revert

/-- A short escape means the character that it was chosen for. -/
lemma letterEscape?_of_shortEscape? {c letter : Char} (h : shortEscape? c = some letter) :
    letterEscape? letter = some c := by
  have hchar : ∀ d : Char, c.toNat = d.toNat → c = d := fun d hd => Char.toNat_inj.1 hd
  unfold shortEscape? at h
  split at h <;> cases h
  case h_1 hc => rw [hchar '"' hc]; rfl
  case h_2 hc => rw [hchar '\\' hc]; rfl
  case h_3 hc => rw [hchar '\x08' hc]; rfl
  case h_4 hc => rw [hchar '\t' hc]; rfl
  case h_5 hc => rw [hchar '\n' hc]; rfl
  case h_6 hc => rw [hchar '\x0c' hc]; rfl
  case h_7 hc => rw [hchar '\r' hc]; rfl

/-- Four hexadecimal digits of which the first two are zero. -/
lemma hexEscape_of_small {n : Nat} (h : n < 0x20) :
    hexEscape ('0' :: '0' :: hexDigit (n / 16) :: hexDigit (n % 16) :: rest) =
      .ok (Char.ofNat n, ⟨rest, Nat.lt_add_of_pos_right (Nat.succ_pos 3)⟩) := by
  have hhigh := hexValue?_hexDigit (n := n / 16) (by omega)
  have hlow := hexValue?_hexDigit (n := n % 16) (by omega)
  have hzero : hexValue? '0' = some 0 := rfl
  have hvalue : ((0 * 16 + 0) * 16 + n / 16) * 16 + n % 16 = n := by omega
  have htrailing : isTrailing n = false := by simp [isTrailing]; omega
  have hleading : isLeading n = false := by simp [isLeading]; omega
  simp only [hexEscape, hexCode, hzero, hhigh, hlow, hvalue, bind, Except.bind, htrailing, hleading, pure, Except.pure,
    Bool.false_eq_true, if_false]

/-! ## Characters -/

lemma textBody_quote : textBody read ('"' :: rest) = .ok (String.ofList read.reverse, rest) := by
  rw [textBody, if_pos rfl]

lemma textBody_escaped {cs : List Char} {c : Char} {after : { r : List Char // r.length < cs.length }}
    (h : escaped cs = .ok (c, after)) : textBody read ('\\' :: cs) = textBody (c :: read) after.val := by
  rw [textBody, if_neg (by decide), if_pos rfl, h]

lemma textBody_plain {c : Char} (hquote : c ≠ '"') (hslash : c ≠ '\\') (hcontrol : ¬ c.toNat < 0x20) :
    textBody read (c :: rest) = textBody (c :: read) rest := by
  rw [textBody, if_neg hquote, if_neg hslash, if_neg hcontrol]

/-- **One character**: what is written for it is read as it. -/
lemma textBody_escapeChar (c : Char) : textBody read (escapeChar c ++ rest) = textBody (c :: read) rest := by
  unfold escapeChar
  split
  · next letter hshort =>
    have hletter := letterEscape?_of_shortEscape? hshort
    have hmeant : escaped (letter :: rest) = .ok (c, ⟨rest, by simp⟩) := by simp [escaped, hletter]
    exact textBody_escaped read hmeant
  · next hshort =>
    by_cases hcontrol : c.toNat < 0x20
    · rw [if_pos hcontrol]
      have hhex := hexEscape_of_small rest hcontrol
      rw [Char.ofNat_toNat] at hhex
      have hmeant : escaped ('u' :: '0' :: '0' :: hexDigit (c.toNat / 16) :: hexDigit (c.toNat % 16) :: rest) =
          .ok (c, ⟨rest, by simp; omega⟩) := by
        simp [escaped, letterEscape?, hhex, bind, Except.bind, pure, Except.pure]
      exact textBody_escaped read hmeant
    · rw [if_neg hcontrol]
      refine textBody_plain read rest ?_ ?_ hcontrol <;> rintro rfl <;> cases hshort

/-- **A whole text**, and the closing quote behind it. -/
lemma textBody_escape (cs : List Char) :
    textBody read (escape cs ++ '"' :: rest) = .ok (String.ofList (read.reverse ++ cs), rest) := by
  induction cs generalizing read with
  | nil => simpa [escape] using textBody_quote read rest
  | cons c cs ih =>
    have hescape : escape (c :: cs) ++ '"' :: rest = escapeChar c ++ (escape cs ++ '"' :: rest) := by
      simp [escape]
    rw [hescape, textBody_escapeChar, ih]
    simp

/-! ## Quoted texts -/

lemma toList_string (s : String) : (string s).toList = '"' :: (escape s.toList ++ ['"']) := by
  simp [string]

/-- A quoted text gives the text back, wherever it stands. -/
lemma quotedRest_escape (s : String) : quotedRest (escape s.toList ++ '"' :: rest) = .ok (s, rest) := by
  rw [quotedRest, textBody_escape]
  simp

/-- Quoted texts are told apart, and from what follows them. -/
lemma string_append_inj {s t : String} {after after' : List Char}
    (h : (string s).toList ++ after = (string t).toList ++ after') : s = t ∧ after = after' := by
  simp only [toList_string, List.cons_append, List.append_assoc, List.cons.injEq, true_and, List.nil_append] at h
  have hs := quotedRest_escape after s
  rw [h, quotedRest_escape] at hs
  cases hs
  exact ⟨rfl, rfl⟩

end MessageRelay.Json
