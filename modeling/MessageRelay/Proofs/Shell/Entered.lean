import MessageRelay.Proofs.Text.Cutting
import MessageRelay.Shell.Repl
import Mathlib.Data.List.TakeWhile

/-!
# What a line says

A line is looked at without the blanks around it.  If anything is left that does not begin with a slash, then this is a
message; if it begins with a slash, its first word says what is to be done.  The functions here say so in terms of the
line, one for each thing that is of interest, and agree with what the interactive mode takes a line for
(`Input.readings`).
-/

namespace MessageRelay

/-! ## Trimmed texts -/

namespace Text

lemma exists_visible_of_trimChars {cs : List Char} (h : trimChars cs ≠ []) :
    ∃ c ∈ trimChars cs, isBlankChar c = false := by
  unfold trimChars at h ⊢
  rw [ne_eq, List.reverse_eq_nil_iff] at h
  refine ⟨_, List.mem_reverse.2 (List.head_mem h), ?_⟩
  simpa using List.head_dropWhile_not _ h

/-- A trimmed text is blank only if it is empty. -/
lemma isBlank_trim {s : String} (h : trim s ≠ "") : isBlank (trim s) = false := by
  have hne : trimChars s.toList ≠ [] := by simpa [trim, String.ext_iff] using h
  obtain ⟨c, hmem, hvisible⟩ := exists_visible_of_trimChars hne
  rw [← Bool.not_eq_true, isBlank_iff, trim, String.toList_ofList]
  intro hblank
  simp [hblank c hmem] at hvisible

end Text

namespace Shell

/-- The first word of a text: all that stands before its first space. -/
def firstWord (s : String) : String :=
  String.ofList (s.toList.takeWhile (· ≠ ' '))

/-- What stands behind the first space of a text, without the blanks around it. -/
def argument (s : String) : String :=
  Text.trim (String.ofList (s.toList.dropWhile (· ≠ ' ')).tail)

/-! ## Readings -/

namespace Input

/-- A line without the blanks around it. -/
def trimmed? : Input → Option String
  | .line text => some (Text.trim text)
  | _ => none

/-- The first word of a line. -/
def word? (i : Input) : Option String :=
  i.trimmed?.map firstWord

/-- The message that a line is: all of it, if there is any and it does not begin with a slash. -/
def message? (i : Input) : Option String :=
  i.trimmed?.filter fun text => text ≠ "" ∧ Text.startsWith text "/" = false

/-- The name that a line gives to the user. -/
def name? (i : Input) : Option String :=
  if i.word? = some "/user" then (i.trimmed?.map argument).filter (· ≠ "") else none

/-- A line makes the log forgotten. -/
def Clears (i : Input) : Prop :=
  i.word? = some "/clear"

/-- A line is a command to leave. -/
def Quits (i : Input) : Prop :=
  i.word? = some "/quit" ∨ i.word? = some "/exit" ∨ i.word? = some "/q"

instance : DecidablePred Clears := fun i => inferInstanceAs (Decidable (i.word? = some "/clear"))

instance : DecidablePred Quits := fun i =>
  inferInstanceAs (Decidable (i.word? = some "/quit" ∨ i.word? = some "/exit" ∨ i.word? = some "/q"))

end Input

namespace Input

variable {i : Input}

/-- A message is not empty, and does not begin with a slash. -/
lemma message?_spec {text : String} (h : i.message? = some text) : text ≠ "" ∧ Text.startsWith text "/" = false := by
  obtain ⟨-, hspec⟩ := Option.filter_eq_some_iff.1 h
  exact of_decide_eq_true hspec

/-- A name that is given to the user is not blank. -/
lemma name?_not_blank {name : String} (h : i.name? = some name) : Text.isBlank name = false := by
  unfold name? at h
  split at h
  · obtain ⟨hargument, hne⟩ := Option.filter_eq_some_iff.1 h
    obtain ⟨text, -, rfl⟩ := Option.map_eq_some_iff.1 hargument
    exact Text.isBlank_trim (of_decide_eq_true hne)
  · cases h

end Input

/-! ## What lines are taken for -/

namespace Entered

/-- The message that is to be sent. -/
@[simp]
def message? : Entered → Option String
  | .message text => some text
  | _ => none

/-- The name that is to be used. -/
@[simp]
def name? : Entered → Option String
  | .setUser name => if name = "" then none else some name
  | _ => none

/-- A command ends at its first space, or is a single word. -/
lemma ofCommand_eq (s : String) : ofCommand s.toList = ofWord (firstWord s) (argument s) := by
  unfold ofCommand
  rw [Text.cutFirst?_singleton]
  by_cases hspace : ' ' ∈ s.toList
  · rw [if_pos hspace]
    simp [firstWord, argument, Text.trim]
  · rw [if_neg hspace]
    have hvisible : ∀ c ∈ s.toList, decide (c ≠ ' ') = true := by
      intro c hc
      simpa using fun h : c = ' ' => hspace (h ▸ hc)
    have hword : s.toList.takeWhile (· ≠ ' ') = s.toList := List.takeWhile_eq_self_iff.2 hvisible
    have hrest : s.toList.dropWhile (· ≠ ' ') = [] := List.dropWhile_eq_nil_iff.2 hvisible
    rw [firstWord, argument, hword, hrest]
    rfl

/-- What a line is taken for depends on what is left of it without the blanks around it. -/
lemma ofLine_eq (line : String) : ofLine line =
    if Text.trim line = "" then nothing
    else if Text.startsWith (Text.trim line) "/" then ofWord (firstWord (Text.trim line)) (argument (Text.trim line))
    else message (Text.trim line) := by
  have htrim : Text.trimChars line.toList = (Text.trim line).toList := by rw [Text.trim, String.toList_ofList]
  unfold ofLine
  rw [htrim]
  generalize Text.trim line = s
  split
  · next hnil =>
    have hs : s = "" := by simpa using hnil
    rw [if_pos hs]
  · next rest hslash =>
    have hs : s ≠ "" := by
      rintro rfl
      cases hslash
    have hstart : Text.startsWith s "/" = true := by
      rw [Text.startsWith_iff, hslash]
      exact ⟨rest, rfl⟩
    rw [if_neg hs, if_pos hstart, ← hslash, ofCommand_eq]
  · next c rest hslash hs =>
    have hne : s ≠ "" := by
      rintro rfl
      cases hs
    have hstart : ¬ Text.startsWith s "/" = true := by
      rw [Text.startsWith_iff, hs]
      rintro ⟨rest', hrest'⟩
      exact hslash (List.cons.inj hrest').1.symm
    rw [if_neg hne, if_neg hstart, ← hs, String.ofList_toList]

lemma message?_ofWord (word argument : String) : (ofWord word argument).message? = none := by
  unfold ofWord
  split <;> rfl

lemma name?_ofWord (word argument : String) : (ofWord word argument).name? =
    if word = "/user" ∧ argument ≠ "" then some argument else none := by
  unfold ofWord
  split <;> simp_all [name?]

lemma ofWord_eq_clear {word argument : String} : ofWord word argument = clear ↔ word = "/clear" := by
  unfold ofWord
  split <;> simp_all

lemma ofWord_eq_quit {word argument : String} :
    ofWord word argument = quit ↔ word = "/quit" ∨ word = "/exit" ∨ word = "/q" := by
  unfold ofWord
  split <;> simp_all

end Entered

/-- The first word of a text begins as the text does. -/
lemma startsWith_of_firstWord {s start : String} (h : Text.startsWith (firstWord s) start = true) :
    Text.startsWith s start = true := by
  rw [Text.startsWith_iff, firstWord, String.toList_ofList] at h
  exact Text.startsWith_iff.2 (h.trans (List.takeWhile_prefix _))

namespace Input

variable (line : String)

/-- The commands that lines may be taken for all begin with a slash. -/
lemma word?_ne {word : String} (hword : Text.startsWith word "/" = true)
    (h : Text.startsWith (Text.trim line) "/" = false) : (Input.line line).word? ≠ some word := by
  intro hline
  obtain rfl : firstWord (Text.trim line) = word := by simpa [word?, trimmed?] using hline
  simp [startsWith_of_firstWord hword] at h

/-- **What a line is taken for** is what it says. -/
lemma readings : (Input.line line).message? = (Entered.ofLine line).message? ∧
    (Input.line line).name? = (Entered.ofLine line).name? ∧
    ((Input.line line).Clears ↔ Entered.ofLine line = .clear) ∧
    ((Input.line line).Quits ↔ Entered.ofLine line = .quit) := by
  cases hslash : Text.startsWith (Text.trim line) "/" with
  | true =>
    have hne : Text.trim line ≠ "" := by
      intro hempty
      rw [hempty] at hslash
      cases hslash
    have hword : (Input.line line).word? = some (firstWord (Text.trim line)) := rfl
    rw [Entered.ofLine_eq, if_neg hne, if_pos hslash, Entered.message?_ofWord, Entered.name?_ofWord,
      Entered.ofWord_eq_clear, Entered.ofWord_eq_quit]
    refine ⟨?_, ?_, ?_, ?_⟩
    · simp [message?, trimmed?, Option.filter_some, hslash]
    · rw [name?, hword]
      by_cases huser : firstWord (Text.trim line) = "/user" <;>
        by_cases hname : argument (Text.trim line) = "" <;> simp [huser, hname, trimmed?, Option.filter_some]
    · rw [Clears, hword, Option.some.injEq]
    · simp only [Quits, hword, Option.some.injEq]
  | false =>
    have hword : ∀ word, Text.startsWith word "/" = true → (Input.line line).word? ≠ some word :=
      fun word h => word?_ne line h hslash
    have hline : Entered.ofLine line = if Text.trim line = "" then .nothing else .message (Text.trim line) := by
      rw [Entered.ofLine_eq]
      simp only [hslash, Bool.false_eq_true, if_false]
    rw [hline]
    refine ⟨?_, ?_, ?_, ?_⟩
    · by_cases hempty : Text.trim line = "" <;>
        simp [message?, trimmed?, Option.filter_some, hempty, hslash, Entered.message?]
    · rw [name?, if_neg (hword "/user" (by decide))]
      split <;> rfl
    · rw [Clears, iff_false_left (hword "/clear" (by decide))]
      split <;> simp
    · have hquit : ¬ (Input.line line).Quits := by
        simp [Quits, hword "/quit" (by decide), hword "/exit" (by decide), hword "/q" (by decide)]
      rw [iff_false_left hquit]
      split <;> simp

end Input

end Shell

end MessageRelay
