import MessageRelay.ChatLog
import Mathlib.Data.List.DropRight

/-!
# The lines in view

A log that is full makes room by dropping one line, and looks whether it is full by comparing its length with its
capacity.  That is enough because it never holds more lines than that: it always shows the last ones, as many as it has
room for (`ChatLog.Shows`), whatever has been done with it (`ChatLog.recent_lines_shown`).
-/

namespace MessageRelay

/-- The last `n` elements of a list, without the first of them if there are `n`, are the last `n - 1`. -/
lemma tail_rtake_of_full {α : Type} (l : List α) (n : Nat) :
    (if (l.rtake (n + 1)).length = n + 1 then (l.rtake (n + 1)).tail else l.rtake (n + 1)) = l.rtake n := by
  unfold List.rtake
  by_cases hlength : n + 1 ≤ l.length
  · rw [if_pos (by rw [List.length_drop]; omega), List.tail_drop]
    congr 1
    omega
  · rw [if_neg (by rw [List.length_drop]; omega)]
    congr 1
    omega

namespace ChatLog

/-- Of all the lines that were added, the log shows the last `room` ones. -/
structure Shows (log : ChatLog) (room : Nat) (lines : List LogEntry) : Prop where
  pos : 0 < room
  capacity : log.capacity = room
  entries : log.entries = lines.rtake room

/-- The line that was added last stands at the end. -/
lemma newest?_push (log : ChatLog) (entry : LogEntry) : (log.push entry).newest? = some entry := by
  simp [newest?, push]

lemma shows_new (capacity : Nat) : (new capacity).Shows (max capacity 1) [] where
  pos := Nat.lt_of_lt_of_le Nat.one_pos (Nat.le_max_right capacity 1)
  capacity := rfl
  entries := by simp [new]

namespace Shows

variable {log : ChatLog} {room : Nat} {lines : List LogEntry}

lemma push (h : log.Shows room lines) (entry : LogEntry) : (log.push entry).Shows room (lines ++ [entry]) where
  pos := h.pos
  capacity := h.capacity
  entries := by
    obtain ⟨n, rfl⟩ := Nat.exists_eq_add_one_of_ne_zero h.pos.ne'
    have hkept := tail_rtake_of_full lines n
    rw [← h.entries, ← h.capacity] at hkept
    rw [List.rtake_concat_succ, ← hkept]
    rfl

lemma clear (h : log.Shows room lines) : log.clear.Shows room [] where
  pos := h.pos
  capacity := h.capacity
  entries := by simp [ChatLog.clear]

/-- No more lines are kept than there is room for. -/
lemma length_le (h : log.Shows room lines) : log.entries.length ≤ room := by
  rw [h.entries, List.rtake.eq_1, List.length_drop]
  omega

end Shows

/-! ## Whatever is done with a log -/

/-- Something that is done with a log. -/
inductive Change where
  /-- A line is added. -/
  | push (stamp : Stamp) (kind : EntryKind) (text : String)
  /-- An event is recorded. -/
  | record (stamp : Stamp) (event : Event)
  /-- Every line is forgotten. -/
  | clear
  deriving DecidableEq

/-- The log after a change. -/
def apply (log : ChatLog) : Change → ChatLog
  | .push stamp kind text => log.push ⟨stamp, kind, text⟩
  | .record stamp event => log.record stamp event
  | .clear => log.clear

/-- The log after one change after the other. -/
def run (log : ChatLog) (changes : List Change) : ChatLog :=
  changes.foldl apply log

/-- The line that a change adds. -/
def Change.line? : Change → Option LogEntry
  | push stamp kind text => some ⟨stamp, kind, text⟩
  | record stamp (.received t e) => some ⟨stamp, .incoming t, e.user ++ " | " ++ e.text⟩
  | record stamp (.sendFailed t reason) => some ⟨stamp, .problem t, "send failed: " ++ reason⟩
  | record stamp (.malformed t reason) => some ⟨stamp, .problem t, "malformed message dropped: " ++ reason⟩
  | clear => none

/-- All lines that were added since the log was last cleared, oldest first. -/
def linesSinceClear (changes : List Change) : List LogEntry :=
  (changes.rtakeWhile (· ≠ .clear)).filterMap Change.line?

/-- Every change but clearing the log adds a line. -/
lemma Change.line?_eq_some {c : Change} (h : c ≠ .clear) (log : ChatLog) :
    ∃ entry, c.line? = some entry ∧ log.apply c = log.push entry := by
  cases c with
  | push stamp kind text => exact ⟨_, rfl, rfl⟩
  | record stamp event => cases event <;> exact ⟨_, rfl, rfl⟩
  | clear => exact absurd rfl h

lemma linesSinceClear_concat (changes : List Change) (c : Change) : linesSinceClear (changes ++ [c]) =
    if c = .clear then [] else linesSinceClear changes ++ c.line?.toList := by
  unfold linesSinceClear
  rw [List.rtakeWhile_concat]
  by_cases hclear : c = .clear
  · simp [hclear]
  · cases hline : c.line? <;> simp [hclear, hline]

/-- **One change more**: the log shows the line that it adds, or nothing. -/
lemma Shows.apply {log : ChatLog} {room : Nat} {changes : List Change} (h : log.Shows room (linesSinceClear changes))
    (c : Change) : (log.apply c).Shows room (linesSinceClear (changes ++ [c])) := by
  rw [linesSinceClear_concat]
  by_cases hclear : c = .clear
  · rw [if_pos hclear, hclear]
    exact h.clear
  · obtain ⟨entry, hline, happly⟩ := Change.line?_eq_some hclear log
    rw [if_neg hclear, hline, happly]
    exact h.push entry

/-- **All changes, one after the other.** -/
lemma shows_run (capacity : Nat) (changes : List Change) :
    ((new capacity).run changes).Shows (max capacity 1) (linesSinceClear changes) := by
  induction changes using List.reverseRecOn with
  | nil => exact shows_new capacity
  | append_singleton changes c ih =>
    rw [run, List.foldl_append]
    exact ih.apply c

/-- **The lines in view.**  Whatever has been done with a log, it shows the lines that were added since it was last
cleared, in their order: the last ones of them, as many as it has room for and at least one.  There are never more, and
the line that is added next is the newest one. -/
theorem recent_lines_shown (capacity : Nat) (changes : List Change) :
    let log := (new capacity).run changes
    log.entries = (linesSinceClear changes).rtake (max capacity 1) ∧
      log.entries.length ≤ max capacity 1 ∧
      ∀ stamp kind text, (log.push ⟨stamp, kind, text⟩).newest? = some ⟨stamp, kind, text⟩ := by
  intro log
  have h := shows_run capacity changes
  exact ⟨h.entries, h.length_le, fun stamp kind text => newest?_push log ⟨stamp, kind, text⟩⟩

end ChatLog

end MessageRelay
