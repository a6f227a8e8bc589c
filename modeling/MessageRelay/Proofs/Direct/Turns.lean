import Mathlib.Logic.Relation
import Mathlib.Tactic.Basic
import MessageRelay.Node

/-!
# What happens at a direct relay

A direct relay shares its mailbox with a queue relay, so whatever is said of a node has to hold of the
mailbox however the direct relay uses it.  There are four ways (`DirectRelay.Turn`): it uses the mailbox not
at all, a task posts a failure, a peer calls, or the relay is released.  All that a node does with its direct
relay is done in such turns (`Node.beginTasks_turns`, `Node.peerAnswers_turns`, `Node.peerCalls_turns`,
`Node.hangUp_turns`).
-/

namespace MessageRelay

namespace Mailbox

variable {m : Mailbox} {sender : Sender} {event : Event}

/-- An event that is left is posted or waits for a place, unless the mailbox was thrown away. -/
lemma leave_cases (m : Mailbox) (sender : Sender) (event : Event) :
    m.offer sender event = .posted (m.leave sender event) ∨
      m.offer sender event = .waits (m.leave sender event) ∨ m.leave sender event = m := by
  unfold leave
  cases m.offer sender event with
  | posted => exact .inl rfl
  | waits => exact .inr (.inl rfl)
  | refused => exact .inr (.inr rfl)

/-- Those who wait when an event was left waited before, but for whoever left it. -/
lemma mem_of_leave {e : Sender × Event}
    (he : e ∈ (m.leave sender event).waiting ++ (m.leave sender event).granted) :
    e = (sender, event) ∨ e ∈ m.waiting ++ m.granted := by
  unfold leave offer at he
  by_cases hkept : m.kept = true
  · by_cases hroom : 0 < m.room
    · simp only [hkept, hroom] at he
      exact .inr he
    · simp only [hkept, hroom, Bool.not_true, Bool.false_eq_true, if_false, List.append_assoc, List.mem_append,
        List.mem_singleton] at he ⊢
      rcases he with he | rfl | he
      · exact .inr (.inl he)
      · exact .inl rfl
      · exact .inr (.inr he)
  · simp only [hkept] at he
    exact .inr he

end Mailbox

namespace DirectRelay

/-- What a direct relay listens on and calls with. -/
def ends (d : DirectRelay) : SocketAddress × Direct.ServerState × Direct.Client :=
  (d.address, d.server, d.client)

/-- What happens at a direct relay and in its mailbox.  A call of a peer is marked as one. -/
inductive Turn : DirectRelay × Mailbox → Option (String × String) → DirectRelay × Mailbox → Prop
  /-- The relay notes something. -/
  | note {d d' : DirectRelay} {m : Mailbox} (hends : d'.ends = d.ends) : Turn (d, m) none (d', m)
  /-- A task posts a failure, or waits for a place. -/
  | report {d d' : DirectRelay} {m : Mailbox} (hends : d'.ends = d.ends) (task : Nat) (reason : String) :
      Turn (d, m) none (d', m.leave (.outgoing task) (.sendFailed .direct reason))
  /-- A peer calls while the server listens. -/
  | called {d d' : DirectRelay} {m : Mailbox} (hends : d'.ends = d.ends) (hlistens : d.server = .listening)
      (call : Nat) (user text : String) :
      Turn (d, m) (some (user, text)) (d', m.leave (.call call) (Direct.Service.eventOf user text))
  /-- The relay is released. -/
  | release {d : DirectRelay} {m : Mailbox} : Turn (d, m) none (d.release m)

/-- Things that happen at a direct relay one after the other, while no peer calls. -/
abbrev Turns : DirectRelay × Mailbox → DirectRelay × Mailbox → Prop :=
  Relation.ReflTransGen fun p p' => Turn p none p'

/-- The server was stopped and the client closed. -/
structure IsReleased (d : DirectRelay) : Prop where
  server : d.server = .stopped
  client : d.client.closed = true

lemma IsReleased.of_ends {d d' : DirectRelay} (h : d.IsReleased) (hends : d'.ends = d.ends) : d'.IsReleased where
  server := (congrArg (·.2.1) hends).trans h.server
  client := (congrArg (·.2.2.closed) hends).trans h.client

/-- What was released stays so. -/
lemma Turn.isReleased {d d' : DirectRelay} {m m' : Mailbox} {call : Option (String × String)}
    (h : Turn (d, m) call (d', m')) (hd : d.IsReleased) : d'.IsReleased := by
  cases h with
  | note hends => exact hd.of_ends hends
  | report hends => exact hd.of_ends hends
  | called hends => exact hd.of_ends hends
  | release => exact ⟨rfl, rfl⟩

variable (d : DirectRelay) (m : Mailbox)

lemma beginTask_turn (message : String × String) : Turn (d, m) none (d.beginTask m message) := by
  unfold beginTask
  cases d.client.outgoing message.1 message.2 with
  | error e => exact .report (by rfl) _ _
  | ok envelope => exact .note (by rfl)

lemma beginTask_asked (message : String × String) : (d.beginTask m message).1.asked = d.asked := by
  unfold beginTask
  split <;> rfl

lemma beginTasks_turns : Turns (d, m) (d.beginTasks m) := by
  have hfold : ∀ (messages : List (String × String)) (p : DirectRelay × Mailbox),
      Turns p (messages.foldl (fun acc message => acc.1.beginTask acc.2 message) p) := by
    intro messages
    induction messages with
    | nil => exact fun p => .refl
    | cons message rest ih => exact fun p => .head (beginTask_turn p.1 p.2 message) (ih _)
  have hnote : Turn (d, m) none ({ d with asked := [] }, m) := .note (by rfl)
  exact .head hnote (hfold d.asked _)

lemma answer_asked (task : Nat) (outcome : Except Direct.Status Unit) : (d.answer m task outcome).1.asked = d.asked := by
  unfold answer
  split <;> rfl

lemma answer_turn (task : Nat) (outcome : Except Direct.Status Unit) : Turn (d, m) none (d.answer m task outcome) := by
  unfold answer
  split
  · cases outcome with
    | ok => exact .note (by rfl)
    | error status => exact .report (by rfl) _ _
  · exact .note rfl

/-- Where a service is not told to stop, a call waits for a place if there is none. -/
lemma service_call (user text : String) :
    (({ mailbox := m, calls := d.calls } : Direct.Service).call user text).2.mailbox =
      m.leave (.call d.calls) (Direct.Service.eventOf user text) := by
  unfold Direct.Service.call Mailbox.leave
  simp only [Direct.Service.isClosing, Bool.or_self, Bool.false_eq_true, if_false]
  cases m.offer (.call d.calls) (Direct.Service.eventOf user text) <;> rfl

/-- A server that listens has the call of a peer; one that was stopped has not. -/
lemma accept_cases (user text : String) :
    (d.accept m user text).1 = true ∧ Turn (d, m) (some (user, text)) (d.accept m user text).2 ∨
      d.accept m user text = (false, d, m) := by
  unfold accept
  split
  · next hlistens =>
    refine .inl ⟨rfl, ?_⟩
    simp only [service_call]
    exact .called (by rfl) hlistens d.calls user text
  · exact .inr rfl

end DirectRelay

namespace Node

variable {node node' : Node}

/-- The direct relay of a node, if it has one, was released. -/
def IsHungUp (node : Node) : Prop :=
  ∀ d, node.direct = some d → d.IsReleased

/-- A node is hung up if it has the ends of one that is. -/
lemma IsHungUp.of_ends (h : node.IsHungUp)
    (hends : node'.direct.map DirectRelay.ends = node.direct.map DirectRelay.ends) : node'.IsHungUp := by
  intro d' hd'
  rw [hd', Option.map_some] at hends
  obtain ⟨d, hd, heq⟩ := Option.map_eq_some_iff.1 hends.symm
  exact (h d hd).of_ends heq.symm

/-- It makes no difference to a relay that was released what it is asked to send. -/
lemma isHungUp_count (user text : String) (h : node.IsHungUp) : (node.count user text).IsHungUp :=
  h.of_ends (by simp only [count, Option.map_map]; rfl)

/-- Only the direct relay and the mailbox change when the direct relay does something. -/
lemma onDirect_eq (node : Node) (f : DirectRelay → Mailbox → DirectRelay × Mailbox) :
    ∃ direct m, node.onDirect f = { node with direct, station := { node.station with mailbox := m } } := by
  unfold onDirect
  split
  · exact ⟨node.direct, node.station.mailbox, rfl⟩
  · exact ⟨_, _, rfl⟩

/-- Only the direct relay and the mailbox change when the direct relay is released. -/
lemma hangUp_eq (node : Node) :
    ∃ direct m, node.hangUp = { node with direct, station := { node.station with mailbox := m } } ∧
      m.granted = node.station.mailbox.granted := by
  unfold hangUp onDirect
  split
  · exact ⟨node.direct, node.station.mailbox, rfl, rfl⟩
  · exact ⟨_, _, rfl, rfl⟩

@[simp] lemma hangUp_phase (node : Node) : node.hangUp.phase = node.phase := by
  obtain ⟨direct, m, heq, -⟩ := node.hangUp_eq
  rw [heq]

lemma isHungUp_hangUp (node : Node) : node.hangUp.IsHungUp := by
  unfold IsHungUp hangUp onDirect
  split
  · next hd =>
    rintro d hd'
    rw [hd] at hd'
    cases hd'
  · rintro d ⟨⟩
    exact ⟨rfl, rfl⟩

/-- What happens at the direct relay of a node. -/
inductive DirectTurn : Node → Option (String × String) → Node → Prop
  /-- There is a direct relay, and something happens at it. -/
  | turn {node : Node} {d : DirectRelay} {call : Option (String × String)} {p : DirectRelay × Mailbox}
      (hd : node.direct = some d) (h : DirectRelay.Turn (d, node.station.mailbox) call p) :
      DirectTurn node call (node.withDirect p)

/-- Things that happen at the direct relay of a node one after the other, while no peer calls. -/
abbrev DirectTurns : Node → Node → Prop :=
  Relation.ReflTransGen fun node node' => DirectTurn node none node'

lemma isHungUp_iff {d : DirectRelay} (hd : node.direct = some d) : node.IsHungUp ↔ d.IsReleased := by
  refine ⟨fun hungUp => hungUp d hd, fun hreleased d' hd' => ?_⟩
  rw [hd, Option.some.injEq] at hd'
  rwa [← hd']

/-- No call comes to a node that is hung up. -/
lemma IsHungUp.not_called (h : node.IsHungUp) {call : String × String} : ¬DirectTurn node (some call) node' := by
  rintro ⟨hd, hturn⟩
  cases hturn with
  | called hends hlistens =>
    have hstopped := ((isHungUp_iff hd).1 h).server
    rw [hlistens] at hstopped
    cases hstopped

/-- A node that is hung up stays so. -/
lemma DirectTurn.isHungUp {call : Option (String × String)} (h : DirectTurn node call node')
    (hnode : node.IsHungUp) : node'.IsHungUp := by
  cases h with
  | turn hd hturn =>
    rintro d ⟨⟩
    exact hturn.isReleased (hnode _ hd)

/-- A direct relay makes nobody wait for a place but its own calls and tasks. -/
lemma DirectTurn.mem_of_mem {call : Option (String × String)} {e : Sender × Event} (h : DirectTurn node call node')
    (he : e ∈ node'.station.mailbox.waiting ++ node'.station.mailbox.granted) :
    (∃ k, e.1 = .call k ∨ e.1 = .outgoing k) ∨
      e ∈ node.station.mailbox.waiting ++ node.station.mailbox.granted := by
  cases h with
  | turn hd hturn =>
    cases hturn with
    | note => exact .inr he
    | report hends task reason =>
      exact (Mailbox.mem_of_leave he).imp_left fun heq => ⟨task, .inr (congrArg Prod.fst heq)⟩
    | called hends hlistens k user text =>
      exact (Mailbox.mem_of_leave he).imp_left fun heq => ⟨k, .inl (congrArg Prod.fst heq)⟩
    | release => exact .inr (List.mem_append.2 ((List.mem_append.1 he).imp_left fun hw => (List.mem_filter.1 hw).1))

lemma withDirect_self {d : DirectRelay} (hd : node.direct = some d) :
    node.withDirect (d, node.station.mailbox) = node := by
  rw [withDirect, ← hd]

/-- What a direct relay does in turns, its node does. -/
lemma directTurns_of_turns {d : DirectRelay} {p : DirectRelay × Mailbox} (hd : node.direct = some d)
    (h : DirectRelay.Turns (d, node.station.mailbox) p) : node.DirectTurns (node.withDirect p) := by
  induction h with
  | refl => rw [withDirect_self hd]
  | @tail p p' _ hturn ih =>
    have hp : (node.withDirect p).direct = some p.1 := rfl
    exact .tail ih (.turn hp hturn)

lemma onDirect_turns {f : DirectRelay → Mailbox → DirectRelay × Mailbox}
    (h : ∀ d m, DirectRelay.Turns (d, m) (f d m)) : node.DirectTurns (node.onDirect f) := by
  unfold onDirect
  split
  · exact .refl
  · next d hd => exact directTurns_of_turns hd (h d _)

/-- The direct relay of a node, if it has one, has begun to send all that it was asked to. -/
def HasBegun (node : Node) : Prop :=
  ∀ d, node.direct = some d → d.asked = []

lemma hasBegun_beginTasks (node : Node) : node.beginTasks.HasBegun := by
  have hfold : ∀ (messages : List (String × String)) (p : DirectRelay × Mailbox),
      (messages.foldl (fun acc message => acc.1.beginTask acc.2 message) p).1.asked = p.1.asked := by
    intro messages
    induction messages with
    | nil => exact fun _ => rfl
    | cons message rest ih =>
      intro p
      rw [List.foldl_cons, ih, DirectRelay.beginTask_asked]
  unfold HasBegun beginTasks onDirect
  split
  · next hd => exact fun d hd' => absurd (hd.symm.trans hd') (by simp)
  · rintro _ ⟨⟩
    exact hfold _ _

lemma beginTasks_of_hasBegun (h : node.HasBegun) : node.beginTasks = node := by
  unfold beginTasks onDirect
  split
  · rfl
  · next d hd =>
    have hsame : d.beginTasks node.station.mailbox = (d, node.station.mailbox) := by
      obtain ⟨_, _, _, _, asked, _, _⟩ := d
      cases h _ hd
      rfl
    rw [hsame, withDirect_self hd]

lemma HasBegun.peerAnswers (h : node.HasBegun) (task : Nat) (outcome : Except Direct.Status Unit) :
    (node.peerAnswers task outcome).HasBegun := by
  unfold HasBegun Node.peerAnswers onDirect
  split
  · exact h
  · next d hd =>
    rintro _ ⟨⟩
    exact (d.answer_asked node.station.mailbox task outcome).trans (h d hd)

lemma beginTasks_turns (node : Node) : node.DirectTurns node.beginTasks :=
  onDirect_turns DirectRelay.beginTasks_turns

lemma peerAnswers_turns (node : Node) (task : Nat) (outcome : Except Direct.Status Unit) :
    node.DirectTurns (node.peerAnswers task outcome) :=
  onDirect_turns fun d m => .single (d.answer_turn m task outcome)

lemma hangUp_turns (node : Node) : node.DirectTurns node.hangUp :=
  onDirect_turns fun _ _ => .single .release

/-- A node has the call of a peer, or nothing happens. -/
lemma peerCalls_cases (node : Node) (user text : String) :
    (node.peerCalls user text).1 = true ∧ DirectTurn node (some (user, text)) (node.peerCalls user text).2 ∨
      node.peerCalls user text = (false, node) := by
  unfold peerCalls onDirect
  cases hd : node.direct with
  | none => exact .inr rfl
  | some d =>
    rcases d.accept_cases node.station.mailbox user text with ⟨haccepted, hturn⟩ | hrefused
    · exact .inl ⟨haccepted, .turn hd hturn⟩
    · refine .inr ?_
      simp only [Option.any_some, hrefused, withDirect_self hd]

end Node

end MessageRelay
