import MessageRelay.Text.Split
import Mathlib.Data.List.Infix

/-!
# Where texts are cut

A text is cut in two at a mark, and can be put together again.  It may hold the mark more than once; what tells the
right cut apart is that the mark does not occur again, behind it (`cutLast?_eq_some`) or before it
(`cutFirst?_eq_some`).  The latter is so only of marks that do not overlap themselves: `aba` begins in `ababa` where
`ab` ends, and yet the first occurrence is another one.
-/

namespace MessageRelay.Text

/-! ## The last occurrence of a character -/

section Last

variable {mark : Char} {cs front back : List Char}

lemma cutLast?_eq_none : cutLast? mark cs = none ↔ mark ∉ cs := by
  induction cs with
  | nil => simp [cutLast?]
  | cons c rest ih =>
    rw [cutLast?, List.mem_cons, not_or, ← ih]
    cases cutLast? mark rest <;> simp [eq_comm]

/-- The last occurrence of a character is the one behind which there is none. -/
lemma cutLast?_eq_some : cutLast? mark cs = some (front, back) ↔ cs = front ++ mark :: back ∧ mark ∉ back := by
  refine ⟨eq_append_of_cutLast?, ?_⟩
  rintro ⟨rfl, hback⟩
  induction front with
  | nil => simp [cutLast?, cutLast?_eq_none.2 hback]
  | cons c front ih => simp [cutLast?, ih]

end Last

/-! ## The first occurrence of a mark -/

/-- A mark that does not begin again before it has ended. -/
def Unbordered (mark : List Char) : Prop :=
  ∀ k < mark.length, 0 < k → ¬ mark.drop k <+: mark

section First

variable {mark cs front back : List Char}

lemma cutFirst?_cons (mark : List Char) (c : Char) (rest : List Char) : cutFirst? mark (c :: rest) =
    if mark <+: c :: rest then some ([], (c :: rest).drop mark.length)
    else (cutFirst? mark rest).map fun p => (c :: p.1, p.2) := by
  rw [cutFirst?]
  simp only [List.isPrefixOf_iff_prefix]

lemma eq_append_of_cutFirst? (h : cutFirst? mark cs = some (front, back)) : cs = front ++ mark ++ back := by
  induction cs generalizing front with
  | nil =>
    rw [cutFirst?] at h
    split at h
    · next hempty => simp_all
    · cases h
  | cons c rest ih =>
    rw [cutFirst?_cons] at h
    split at h
    · next hprefix =>
      cases h
      exact List.prefix_append_drop hprefix
    · obtain ⟨⟨front', back'⟩, hrest, hparts⟩ := Option.map_eq_some_iff.1 h
      cases hparts
      rw [ih hrest]
      rfl

/-- What is cut off at the first occurrence of a mark does not hold the mark. -/
lemma not_infix_of_cutFirst? (hmark : mark ≠ []) (h : cutFirst? mark cs = some (front, back)) : ¬ mark <:+: front := by
  induction cs generalizing front with
  | nil => simp [cutFirst?, hmark] at h
  | cons c rest ih =>
    rw [cutFirst?_cons] at h
    split at h
    · cases h
      simpa using hmark
    · next hprefix =>
      obtain ⟨⟨front', back'⟩, hrest, hparts⟩ := Option.map_eq_some_iff.1 h
      cases hparts
      rw [List.infix_cons_iff, not_or]
      have hcut : c :: rest = (c :: front') ++ (mark ++ back') := by
        rw [eq_append_of_cutFirst? hrest]
        simp
      exact ⟨fun hfront => hprefix (hcut ▸ hfront.trans (List.prefix_append _ _)), ih hrest⟩

/-- A mark that does not overlap itself does not begin before its first occurrence, not even to end behind it. -/
lemma Unbordered.not_prefix (hmark : Unbordered mark) (hfront : ¬ mark <:+: front) (hne : front ≠ []) :
    ¬ mark <+: front ++ (mark ++ back) := by
  intro h
  rcases List.prefix_or_prefix_of_prefix h (List.prefix_append front (mark ++ back)) with hin | ⟨overlap, rfl⟩
  · exact hfront hin.isInfix
  · -- what is left of the mark behind `front` begins the mark
    have hoverlap : overlap <+: front ++ overlap := by
      have h' : overlap <+: (front ++ overlap) ++ back := (List.prefix_append_right_inj front).1 h
      exact List.prefix_of_prefix_length_le h' (List.prefix_append _ _) (by simp)
    refine hmark front.length ?_ (List.length_pos_iff.2 hne) (by simpa using hoverlap)
    rw [List.length_append, Nat.lt_add_right_iff_pos, List.length_pos_iff]
    rintro rfl
    exact hfront (by simp)

/-- The first occurrence of a mark that does not overlap itself is the one before which there is none. -/
lemma cutFirst?_eq_some (hmark : Unbordered mark) (hne : mark ≠ []) :
    cutFirst? mark cs = some (front, back) ↔ cs = front ++ (mark ++ back) ∧ ¬ mark <:+: front := by
  constructor
  · intro h
    exact ⟨by rw [← List.append_assoc, ← eq_append_of_cutFirst? h], not_infix_of_cutFirst? hne h⟩
  · rintro ⟨rfl, hfront⟩
    induction front with
    | nil =>
      obtain ⟨c, rest, rfl⟩ := List.exists_cons_of_ne_nil hne
      have hprefix : (c :: rest) <+: c :: (rest ++ back) := List.prefix_append (c :: rest) back
      rw [List.nil_append, List.cons_append, cutFirst?_cons, if_pos hprefix]
      simp
    | cons c front ih =>
      have hrest := ih fun h => hfront (List.infix_cons h)
      rw [List.cons_append, cutFirst?_cons, ← List.cons_append,
        if_neg (hmark.not_prefix hfront (List.cons_ne_nil c front)), hrest]
      rfl

/-- A text is cut at the first occurrence of a character, if there is any. -/
lemma cutFirst?_singleton (c : Char) (cs : List Char) : cutFirst? [c] cs =
    if c ∈ cs then some (cs.takeWhile (· ≠ c), (cs.dropWhile (· ≠ c)).tail) else none := by
  induction cs with
  | nil => simp [cutFirst?]
  | cons d rest ih =>
    rw [cutFirst?_cons, ih]
    by_cases hc : d = c
    · simp [hc]
    · by_cases hrest : c ∈ rest <;> simp [hc, hrest, Ne.symm hc]

end First

/-! ## Starts -/

section Starts

variable {s t start : String}

/-- What follows a text does not take its start away. -/
lemma startsWith_append (h : startsWith s start = true) (t : String) : startsWith (s ++ t) start = true := by
  rw [startsWith_iff] at h ⊢
  rw [String.toList_append]
  exact h.trans (List.prefix_append _ _)

/-- A text has two starts only if one of them is a start of the other. -/
lemma startsWith_or_startsWith {start' : String} (h : startsWith s start = true) (h' : startsWith s start' = true) :
    startsWith start start' = true ∨ startsWith start' start = true := by
  rw [startsWith_iff] at h h' ⊢
  rw [startsWith_iff]
  exact (List.prefix_or_prefix_of_prefix h h').symm

/-- A start does not reach into what follows a text if its last character does not occur there. -/
lemma startsWith_append_of_not_mem {last : Char} (hstart : start.toList.getLast? = some last) (ht : last ∉ t.toList) :
    startsWith (s ++ t) start = startsWith s start := by
  refine Bool.eq_iff_iff.2 ⟨fun h => ?_, fun h => startsWith_append h t⟩
  rw [startsWith_iff, String.toList_append] at h
  rw [startsWith_iff]
  rcases List.prefix_or_prefix_of_prefix h (List.prefix_append s.toList t.toList) with hin | ⟨overlap, hoverlap⟩
  · exact hin
  · rw [← hoverlap] at h hstart ⊢
    have hrest : overlap <+: t.toList := (List.prefix_append_right_inj s.toList).1 h
    cases overlap using List.reverseRecOn with
    | nil => simp
    | append_singleton front c =>
      obtain rfl : c = last := by simpa [← List.append_assoc] using hstart
      exact absurd (hrest.subset (by simp)) ht

end Starts

/-! ## Parts with a mark between them -/

/-- Parts with a mark in front of each, but for the first of all. -/
def separated (mark : Char) : Bool → List (List Char) → List Char
  | _, [] => []
  | first, part :: rest => (if first then [] else [mark]) ++ (part ++ separated mark false rest)

section Separated

variable (mark : Char) (part : List Char) (parts : List (List Char))

@[simp]
lemma separated_nil (first : Bool) : separated mark first [] = [] := rfl

@[simp]
lemma separated_true : separated mark true (part :: parts) = part ++ separated mark false parts := by
  simp [separated]

@[simp]
lemma separated_false : separated mark false (part :: parts) = mark :: (part ++ separated mark false parts) := by
  simp [separated]

lemma intercalate_eq_separated : [mark].intercalate parts = separated mark true parts := by
  induction parts with
  | nil => rfl
  | cons part rest ih =>
    cases rest with
    | nil => simp
    | cons part' rest =>
      rw [List.intercalate_cons_cons, ih]
      simp

end Separated

end MessageRelay.Text
