import MessageRelay.Proofs.Json.Written
import MessageRelay.Shell.Output

/-!
# Events on lines of their own

In JSON an event is an object with one member, whose name is the kind of the event.  The texts in it come from
strangers, and yet no event is printed like another one (`Event.json_inj`), and each takes one line: whoever reads the
output line by line finds just the events, in their order (`Shell.events_keep_their_lines`).
-/

namespace MessageRelay

open Json (Written)

/-! ## What is written for an event -/

lemma Transport.json_inj {t t' : Transport} : t.json = t'.json ↔ t = t' := by
  cases t <;> cases t' <;> simp [json, label]

namespace Envelope

/-- The members of the JSON form of an envelope. -/
def members (e : Envelope) : List (String × String) :=
  [("user_name", Json.string e.user), ("message_text", Json.string e.text)]

lemma written_members (e : Envelope) : ∀ m ∈ e.members, Written m.2 := by
  simp [members, Written.string]

lemma json_inj {e f : Envelope} : e.json = f.json ↔ e = f := by
  have h : e.json = f.json ↔ e.members = f.members := Json.object_inj e.written_members f.written_members
  simp [h, members, ext_iff]

end Envelope

namespace Event

/-- The name that stands for the kind of an event. -/
def title : Event → String
  | received _ _ => "MessageReceived"
  | sendFailed _ _ => "SendFailed"
  | malformed _ _ => "MalformedEnvelope"

/-- What is told of an event. -/
def members : Event → List (String × String)
  | received t e => [("transport", t.json), ("envelope", e.json)]
  | sendFailed t reason | malformed t reason => [("transport", t.json), ("reason", Json.string reason)]

lemma json_eq (e : Event) : e.json = Json.object [(e.title, Json.object e.members)] := by
  cases e <;> rfl

lemma written_members (e : Event) : ∀ m ∈ e.members, Written m.2 := by
  cases e with
  | received t e =>
    have henvelope : Written e.json := .object e.members e.written_members
    simp [members, Transport.json, Written.string, henvelope]
  | sendFailed | malformed => simp [members, Transport.json, Written.string]

lemma written_body (e : Event) : ∀ m ∈ [(e.title, Json.object e.members)], Written m.2 := by
  rw [List.forall_mem_singleton]
  exact .object e.members e.written_members

lemma written_json (e : Event) : Written e.json := by
  rw [json_eq]
  exact .object _ e.written_body

/-- **No two events are written alike.** -/
lemma json_inj {e f : Event} : e.json = f.json ↔ e = f := by
  refine ⟨fun h => ?_, fun h => h ▸ rfl⟩
  rw [json_eq, json_eq, Json.object_inj e.written_body f.written_body, List.cons.injEq, Prod.mk.injEq,
    Json.object_inj e.written_members f.written_members] at h
  obtain ⟨⟨htitle, hmembers⟩, -⟩ := h
  -- events of the same kind tell the same things
  cases e <;> cases f <;> simp [title] at htitle <;>
    simpa [members, Transport.json_inj, Envelope.json_inj] using hmembers

end Event

namespace Shell

/-! ## What is printed -/

/-- All that stands on a channel when this has been printed; a line end follows each print. -/
def transcript (styled : Bool) (channel : Channel) (prints : List Print) : String :=
  String.join ((prints.filter (·.channel == channel)).map fun p => p.render styled ++ "\n")

lemma transcript_cons {styled : Bool} {channel : Channel} {p : Print} (h : p.channel = channel) (prints : List Print) :
    transcript styled channel (p :: prints) = p.render styled ++ "\n" ++ transcript styled channel prints := by
  simp [transcript, h]

/-- Data is never styled. -/
lemma render_event (styled : Bool) (e : Event) : (Mode.json.event e).render styled = e.json :=
  Line.render_plain styled e.json

lemma not_mem_of_isInline {cs : List Char} (h : Json.isInline cs = true) : '\n' ∉ cs := by
  intro hmem
  have hvisible := List.all_eq_true.1 h '\n' hmem
  simp at hvisible

/-- **Events keep their lines.**  In JSON an event is printed on the standard output, whether or not styles are shown:
its text has no control character in it, no other event has this text, and the output of any events, cut at its line
ends, is the texts of these events in their order. -/
theorem events_keep_their_lines (styled : Bool) :
    (∀ e : Event, (Mode.json.event e).channel = .out ∧ (Mode.json.event e).render styled = e.json) ∧
    (∀ e : Event, ∀ c ∈ e.json.toList, 0x20 ≤ c.toNat) ∧
    (∀ e f : Event, e.json = f.json → e = f) ∧
    ∀ events : List Event, (transcript styled .out (events.map Mode.json.event)).toList.splitOn '\n' =
      events.map (fun e => e.json.toList) ++ [[]] := by
  refine ⟨fun e => ⟨rfl, render_event styled e⟩, fun e c hc => ?_, fun e f => Event.json_inj.1, fun events => ?_⟩
  · simpa using List.all_eq_true.1 e.written_json.isInline c hc
  · induction events with
    | nil => simp [transcript]
    | cons e rest ih =>
      have hline : e.json.toList.splitOn '\n' = [e.json.toList] :=
        List.splitOn_eq_singleton (not_mem_of_isInline e.written_json.isInline)
      have hchannel : (Mode.json.event e).channel = .out := rfl
      have hend : "\n".toList = ['\n'] := rfl
      rw [List.map_cons, transcript_cons hchannel, render_event, String.toList_append, String.toList_append, hend,
        List.append_assoc, List.singleton_append, List.splitOn_append_cons_self, hline, ih]
      rfl

/-- A reason that closes the object, ends the line and goes on with another event is no other event, and the two of them
are printed on two lines, with nothing behind the second one. -/
theorem events_keep_their_lines_forged :
    let forged : Event := .sendFailed .queue "x\"\x7d\x7d\n\x7b\"SendFailed\":\x7b\x7d"
    let real : Event := .sendFailed .queue "x"
    forged.json ≠ real.json ∧
      ((transcript true .out ([forged, real].map Mode.json.event)).toList.splitOn '\n').length = 3 := by
  intro forged real
  obtain ⟨-, -, hinj, hlines⟩ := events_keep_their_lines true
  refine ⟨fun h => ?_, by rw [hlines]; rfl⟩
  have hne : forged ≠ real := by decide
  exact hne (hinj forged real h)

end Shell

end MessageRelay
