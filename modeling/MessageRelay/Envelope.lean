import MessageRelay.Error
import MessageRelay.Text.Blank

/-!
# Envelopes

An envelope is one chat message: who says it and what is said.  The user name is never blank; the
text may be anything, also empty.
-/

namespace MessageRelay

/-- One chat message. -/
structure Envelope where
  /-- The display name of the sender. -/
  user : String
  /-- The message itself. -/
  text : String
  /-- A sender is always named. -/
  user_not_blank : Text.isBlank user = false
  deriving DecidableEq

namespace Envelope

/-- The failure of a message without a sender. -/
def blankUser : RelayError :=
  ⟨.malformedEnvelope, "user_name must not be empty"⟩

/-- The envelope with the given sender and text; a blank sender is refused. -/
def make (user text : String) : Except RelayError Envelope :=
  if h : Text.isBlank user = false then .ok ⟨user, text, h⟩ else .error blankUser

/-- An envelope as one line of chat. -/
def display (e : Envelope) : String :=
  e.user ++ " | " ++ e.text

theorem ext_iff {e f : Envelope} : e = f ↔ e.user = f.user ∧ e.text = f.text := by
  cases e
  cases f
  simp

theorem make_of_not_blank {user text : String} (h : Text.isBlank user = false) :
    make user text = .ok ⟨user, text, h⟩ := by
  simp [make, h]

theorem make_of_blank {user text : String} (h : Text.isBlank user = true) :
    make user text = .error blankUser := by
  simp [make, h]

@[simp]
theorem make_user_text (e : Envelope) : make e.user e.text = .ok e :=
  make_of_not_blank e.user_not_blank

theorem make_eq_ok_iff {user text : String} {e : Envelope} :
    make user text = .ok e ↔ e.user = user ∧ e.text = text := by
  constructor
  · intro h
    unfold make at h
    split at h
    · cases h
      exact ⟨rfl, rfl⟩
    · cases h
  · rintro ⟨rfl, rfl⟩
    exact make_user_text e

end Envelope

end MessageRelay
