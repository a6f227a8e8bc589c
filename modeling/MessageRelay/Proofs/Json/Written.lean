import MessageRelay.Proofs.Json.QuotedText
import MessageRelay.Proofs.Text.Cutting

/-!
# Data on one line

What is written for quoted texts, and for objects of such, keeps to a line of its own (`Written.isInline`): every
control character in a text is escaped.  And it can be read in one way only, also when something follows it
(`Written.append_inj`), so two objects are written alike only if they have the same members with the same values
(`object_inj`).
-/

namespace MessageRelay.Json

/-! ## Members of an object -/

/-- A member as it stands in an object. -/
def memberText (m : String × String) : List Char :=
  (string m.1).toList ++ ':' :: m.2.toList

/-- Members as they stand between the brackets of an object; a comma stands in front of each, but for the first of
all. -/
def membersText (first : Bool) (members : List (String × String)) : List Char :=
  Text.separated ',' first (members.map memberText)

section Members

variable (m : String × String) (rest : List (String × String))

lemma membersText_nil (first : Bool) : membersText first [] = [] := rfl

lemma membersText_true :
    membersText true (m :: rest) = (string m.1).toList ++ ':' :: (m.2.toList ++ membersText false rest) := by
  simp [membersText, memberText]

lemma membersText_false : membersText false (m :: rest) = ',' :: membersText true (m :: rest) := by
  simp [membersText]

end Members

lemma toList_object (members : List (String × String)) :
    (object members).toList = '\x7b' :: (membersText true members ++ ['\x7d']) := by
  have hmember : String.toList ∘ (fun m : String × String => string m.1 ++ ":" ++ m.2) = memberText := by
    funext m
    simp [memberText]
  have hmembers : (",".intercalate (members.map fun m => string m.1 ++ ":" ++ m.2)).toList =
      membersText true members := by
    rw [String.toList_intercalate, List.map_map, hmember]
    exact Text.intercalate_eq_separated ',' _
  simp [object, hmembers]

/-! ## No control characters -/

/-- A text without control characters, so without line ends. -/
def isInline (cs : List Char) : Bool :=
  cs.all fun c => 0x20 ≤ c.toNat

@[simp]
lemma isInline_nil : isInline [] = true := rfl

@[simp]
lemma isInline_cons (c : Char) (cs : List Char) : isInline (c :: cs) = (decide (0x20 ≤ c.toNat) && isInline cs) := rfl

@[simp]
lemma isInline_append (cs ds : List Char) : isInline (cs ++ ds) = (isInline cs && isInline ds) := by
  simp [isInline]

lemma hexDigit_visible {n : Nat} (h : n < 16) : 0x20 ≤ (hexDigit n).toNat := by
  decide +revert

lemma isInline_escapeChar (c : Char) : isInline (escapeChar c) = true := by
  unfold escapeChar
  split
  · next letter hshort =>
    have hletter := letterEscape?_of_shortEscape? hshort
    unfold letterEscape? at hletter
    split at hletter <;> first | rfl | cases hletter
  · split
    · next hcontrol =>
      have hhigh := hexDigit_visible (n := c.toNat / 16) (by omega)
      have hlow := hexDigit_visible (n := c.toNat % 16) (by omega)
      simp [hhigh, hlow]
    · next hcontrol => simpa using hcontrol

lemma isInline_string (s : String) : isInline (string s).toList = true := by
  have hescape : isInline (escape s.toList) = true := by
    simp only [isInline, escape, List.all_flatMap, List.all_eq_true]
    exact fun c _ => List.all_eq_true.1 (isInline_escapeChar c)
  simp [toList_string, hescape]

lemma isInline_membersText {members : List (String × String)} (h : ∀ m ∈ members, isInline m.2.toList = true)
    (first : Bool) : isInline (membersText first members) = true := by
  induction members generalizing first with
  | nil => rfl
  | cons m rest ih =>
    rw [List.forall_mem_cons] at h
    cases first <;> simp [membersText_false, membersText_true, isInline_string, h.1, ih h.2]

/-! ## Quoted texts and objects of such -/

/-- What is written for a quoted text, or for an object whose members are written so. -/
inductive Written : String → Prop where
  | string (s : String) : Written (string s)
  | object (members : List (String × String)) (h : ∀ m ∈ members, Written m.2) : Written (object members)

/-- What is written keeps to one line. -/
lemma Written.isInline {w : String} (h : Written w) : isInline w.toList = true := by
  induction h with
  | string s => exact isInline_string s
  | object members _ ih => simp [toList_object, isInline_membersText ih true]

/-- Members are told apart, and from what follows their object, if this can be done with each of their values. -/
lemma membersText_append_inj {members members' : List (String × String)} {after after' : List Char}
    (hvalues : ∀ m ∈ members, ∀ {w}, Written w → ∀ {after after'}, m.2.toList ++ after = w.toList ++ after' →
      m.2 = w ∧ after = after')
    (hwritten : ∀ m ∈ members', Written m.2) {first : Bool}
    (h : membersText first members ++ '\x7d' :: after = membersText first members' ++ '\x7d' :: after') :
    members = members' ∧ after = after' := by
  induction members generalizing members' first with
  | nil =>
    cases members' with
    | nil => exact ⟨rfl, by simpa [membersText_nil] using h⟩
    | cons m' rest' =>
      -- an object that ends is none that goes on
      cases first <;> simp [membersText_nil, membersText_false, membersText_true, toList_string] at h
  | cons m rest ih =>
    cases members' with
    | nil => cases first <;> simp [membersText_nil, membersText_false, membersText_true, toList_string] at h
    | cons m' rest' =>
      rw [List.forall_mem_cons] at hvalues hwritten
      have hmember : membersText true (m :: rest) ++ '\x7d' :: after =
          membersText true (m' :: rest') ++ '\x7d' :: after' := by
        cases first with
        | true => exact h
        | false =>
          rw [membersText_false, membersText_false, List.cons_append, List.cons_append] at h
          exact List.tail_eq_of_cons_eq h
      simp only [membersText_true, List.append_assoc, List.cons_append] at hmember
      obtain ⟨hname, hvalue⟩ := string_append_inj hmember
      obtain ⟨hvalue, hrest⟩ := hvalues.1 hwritten.1 (List.tail_eq_of_cons_eq hvalue)
      obtain ⟨hrest, hafter⟩ := ih hvalues.2 hwritten.2 hrest
      exact ⟨by rw [hrest, Prod.ext hname hvalue], hafter⟩

/-- **What is written can be read in one way only**, wherever it stands. -/
lemma Written.append_inj {w w' : String} (h : Written w) (h' : Written w') {after after' : List Char}
    (heq : w.toList ++ after = w'.toList ++ after') : w = w' ∧ after = after' := by
  induction h generalizing w' after after' with
  | string s =>
    cases h' with
    | string t =>
      obtain ⟨rfl, hafter⟩ := string_append_inj heq
      exact ⟨rfl, hafter⟩
    | object members' hwritten => simp [toList_string, toList_object] at heq
  | object members _ ih =>
    cases h' with
    | string t => simp [toList_string, toList_object] at heq
    | object members' hwritten =>
      simp only [toList_object, List.cons_append, List.cons.injEq, true_and, List.append_assoc, List.nil_append] at heq
      obtain ⟨rfl, hafter⟩ := membersText_append_inj ih hwritten heq
      exact ⟨rfl, hafter⟩

/-- Quoted texts are equal if they are written alike. -/
@[simp]
lemma string_inj {s t : String} : string s = string t ↔ s = t := by
  refine ⟨fun h => ?_, fun h => h ▸ rfl⟩
  have happend : (string s).toList ++ [] = (string t).toList ++ [] := by rw [h]
  exact (string_append_inj happend).1

/-- Objects have the same members if they are written alike. -/
lemma object_inj {members members' : List (String × String)} (h : ∀ m ∈ members, Written m.2)
    (h' : ∀ m ∈ members', Written m.2) : object members = object members' ↔ members = members' := by
  refine ⟨fun heq => ?_, fun heq => heq ▸ rfl⟩
  rw [String.ext_iff, toList_object, toList_object, List.cons.injEq] at heq
  exact (membersText_append_inj (fun m hm {_} hw {_ _} => (h m hm).append_inj hw) h' heq.2).1

end MessageRelay.Json
