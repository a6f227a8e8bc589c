/-!
# Cutting texts

A text starts with another one, or is cut in two at the first occurrence of a mark or at the last
occurrence of a character.  The mark itself belongs to neither part.
-/

namespace MessageRelay.Text

/-- Whether a text starts with the given one. -/
def startsWith (s start : String) : Bool :=
  start.toList.isPrefixOf s.toList

/-- The characters before and after the first occurrence of a mark. -/
def cutFirst? (mark : List Char) : List Char → Option (List Char × List Char)
  | [] => if mark.isEmpty then some ([], []) else none
  | c :: rest =>
    if mark.isPrefixOf (c :: rest) then some ([], (c :: rest).drop mark.length)
    else (cutFirst? mark rest).map fun p => (c :: p.1, p.2)

/-- The characters before and after the last occurrence of a character. -/
def cutLast? (mark : Char) : List Char → Option (List Char × List Char)
  | [] => none
  | c :: rest =>
    match cutLast? mark rest with
    | some (front, back) => some (c :: front, back)
    | none => if c = mark then some ([], rest) else none

/-! ## What the parts are -/

theorem startsWith_iff {s start : String} :
    startsWith s start = true ↔ start.toList <+: s.toList := by
  simp [startsWith]

theorem eq_append_of_cutLast? {mark : Char} {cs front back : List Char}
    (h : cutLast? mark cs = some (front, back)) :
    cs = front ++ mark :: back ∧ mark ∉ back := by
  induction cs generalizing front back with
  | nil => simp [cutLast?] at h
  | cons c rest ih =>
    rw [cutLast?] at h
    cases hr : cutLast? mark rest with
    | some p =>
      rw [hr] at h
      simp only [Option.some.injEq, Prod.mk.injEq] at h
      obtain ⟨rfl, rfl⟩ := h
      obtain ⟨h1, h2⟩ := ih hr
      exact ⟨by rw [h1]; rfl, h2⟩
    | none =>
      rw [hr] at h
      by_cases hc : c = mark
      · simp only [hc, if_true, Option.some.injEq, Prod.mk.injEq] at h
        obtain ⟨rfl, rfl⟩ := h
        refine ⟨by simp [hc], ?_⟩
        clear ih
        induction rest with
        | nil => simp
        | cons d tail ih' =>
          rw [cutLast?] at hr
          cases ht : cutLast? mark tail with
          | some p => rw [ht] at hr; simp at hr
          | none =>
            rw [ht] at hr
            by_cases hd : d = mark
            · simp [hd] at hr
            · simp only [List.mem_cons, not_or]
              exact ⟨fun h => hd h.symm, ih' ht⟩
      · simp [hc] at h

end MessageRelay.Text
