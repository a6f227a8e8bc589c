import MessageRelay.Proofs.Envelope.RoundTrip
import MessageRelay.Proofs.Node.Finality

/-!
# The logbook of a node

What becomes of the commands of a node is written down as it happens: which are accepted, which messages are refused
and why, and what the loop makes of each command that it takes.  A logbook is sound if every record in it is the one
that the records before it call for (`Logbook.Sound`).  Then the loop has taken the commands in the order in which they
were accepted (`Logbook.Sound.orderly`), and what was published and what failed can be read off them
(`Logbook.Sound.payloads_eq`, `Logbook.Sound.failures_eq`).

Whatever a node does keeps its logbook sound (`Node.Handles.keeps`), and the failures in its mailbox are those that the
logbook tells of, if there is room (`Node.Handles.tells`).
-/

namespace MessageRelay

/-! ## Messages -/

/-- What comes of publishing a message: its encoding, or why it is not sent. -/
def Envelope.outcome (user text : String) : Except RelayError Bytes :=
  if h : Text.isBlank user = false then
    let encoding := (⟨user, text, h⟩ : Envelope).encode
    if encoding.length ≤ 65536 then .ok encoding else .error (tooLong encoding.length)
  else .error blankUser

lemma Relay.payloadOf_eq_outcome {r : Relay} (h : r.closed = false) (user text : String) :
    r.payloadOf user text = Envelope.outcome user text := by
  rw [payloadOf, if_neg (by simp [h]), Envelope.outcome]
  by_cases hblank : Text.isBlank user = false
  · simp only [Envelope.make_of_not_blank hblank, hblank, dite_true, Envelope.encodeForSend_eq]
    rfl
  · rw [Bool.not_eq_false] at hblank
    simp [Envelope.make_of_blank hblank, hblank]

namespace NodeCommand

/-- Whether a command is a message to send. -/
def isSend : NodeCommand → Bool
  | send .. => true
  | status | shutdown => false

/-- The encoding of a message that can be sent. -/
def encoding? : NodeCommand → Option Bytes
  | send user text => (Envelope.outcome user text).toOption
  | status | shutdown => none

/-- Why a message cannot be sent. -/
def failure? : NodeCommand → Option RelayError
  | send user text => match Envelope.outcome user text with
    | .ok _ => none
    | .error e => some e
  | status | shutdown => none

end NodeCommand

/-! ## Records -/

/-- What is written down of a node. -/
inductive Record where
  /-- It accepts a command. -/
  | accepted (c : NodeCommand)
  /-- It does not accept a message, for the given reason. -/
  | refused (user text reason : String)
  /-- The loop publishes a message. -/
  | published (user text : String) (payload : Bytes)
  /-- The loop takes a message that cannot be sent. -/
  | failed (user text : String) (e : RelayError)
  /-- The loop answers a question. -/
  | answered (s : NodeStatus)
  /-- The loop ends, or will never start, and the commands that are left are forgotten. -/
  | ended (left : List NodeCommand)
  /-- The user takes events from the mailbox. -/
  | emptied
  deriving DecidableEq

/-- The command that the loop has taken, if the record is of one. -/
def Record.taken? : Record → Option NodeCommand
  | published user text _ | failed user text _ => some (.send user text)
  | answered _ => some .status
  | accepted _ | refused .. | ended _ | emptied => none

/-- What waits after the record, if the given commands waited before. -/
def Record.leaves (waiting : List NodeCommand) : Record → List NodeCommand
  | accepted c => waiting ++ [c]
  | published .. | failed .. | answered _ => waiting.tail
  | ended _ => []
  | refused .. | emptied => waiting

/-- All that is written down of a node. -/
abbrev Logbook := List Record

namespace Logbook

/-- The commands that were accepted. -/
def accepted (log : Logbook) : List NodeCommand :=
  log.filterMap fun
    | .accepted c => some c
    | _ => none

/-- What the node was asked for: the commands that were accepted, and the messages that were not. -/
def asked (log : Logbook) : List NodeCommand :=
  log.filterMap fun
    | .accepted c => some c
    | .refused user text _ => some (.send user text)
    | _ => none

/-- The commands that the loop has taken. -/
def handled (log : Logbook) : List NodeCommand :=
  log.filterMap Record.taken?

/-- What was published. -/
def payloads (log : Logbook) : List Bytes :=
  log.filterMap fun
    | .published _ _ payload => some payload
    | _ => none

/-- Why messages that the loop has taken could not be sent. -/
def failures (log : Logbook) : List RelayError :=
  log.filterMap fun
    | .failed _ _ e => some e
    | _ => none

/-- The commands that were forgotten. -/
def forgotten (log : Logbook) : List NodeCommand :=
  log.flatMap fun
    | .ended left => left
    | _ => []

/-- Whether the loop has ended. -/
def hasEnded (log : Logbook) : Bool :=
  log.any fun
    | .ended _ => true
    | _ => false

/-- What is reported of all this to a user who has the given transports. -/
def reports (transports : List Transport) (log : Logbook) : List Event :=
  log.flatMap fun
    | .refused _ _ reason => transports.map fun t => .sendFailed t reason
    | .failed _ _ e => [.sendFailed .queue e.message]
    | _ => []

/-- The commands that wait for the loop. -/
def waiting (log : Logbook) : List NodeCommand :=
  log.foldl Record.leaves []

/-- Why the next command will not be accepted. -/
def refusal? (log : Logbook) : Option String :=
  if log.hasEnded then some "node stopped"
  else if log.waiting.length < 256 then none
  else some "node busy: command queue full"

/-- The record is the one that the records before it call for, if the node has the given settings. -/
def Fits (config : QueueConfig) (before : Logbook) : Record → Prop
  | .accepted _ => before.refusal? = none
  | .refused _ _ reason => before.refusal? = some reason
  | .published user text payload =>
    before.waiting.head? = some (.send user text) ∧ Envelope.outcome user text = .ok payload
  | .failed user text e =>
    before.waiting.head? = some (.send user text) ∧ Envelope.outcome user text = .error e
  | .answered s =>
    before.waiting.head? = some .status ∧
      s = { queueName := config.queueName, ackMode := config.ackMode,
            sent := before.handled.countP NodeCommand.isSend }
  | .ended left => before.hasEnded = false ∧ left = before.waiting
  | .emptied => True

/-- **Every record is the one that the records before it call for.** -/
def Sound (config : QueueConfig) (log : Logbook) : Prop :=
  ∀ (before : Logbook) r after, log = before ++ r :: after → before.Fits config r

variable {log log' : Logbook} {config : QueueConfig} {r : Record}

section Append

variable (log log' : Logbook)

@[simp] lemma accepted_append : accepted (log ++ log') = log.accepted ++ log'.accepted :=
  List.filterMap_append

@[simp] lemma asked_append : asked (log ++ log') = log.asked ++ log'.asked :=
  List.filterMap_append

@[simp] lemma handled_append : handled (log ++ log') = log.handled ++ log'.handled :=
  List.filterMap_append

@[simp] lemma payloads_append : payloads (log ++ log') = log.payloads ++ log'.payloads :=
  List.filterMap_append

@[simp] lemma failures_append : failures (log ++ log') = log.failures ++ log'.failures :=
  List.filterMap_append

@[simp] lemma forgotten_append : forgotten (log ++ log') = log.forgotten ++ log'.forgotten :=
  List.flatMap_append

@[simp] lemma hasEnded_append : hasEnded (log ++ log') = (log.hasEnded || log'.hasEnded) :=
  List.any_append

@[simp] lemma reports_append (transports : List Transport) :
    reports transports (log ++ log') = log.reports transports ++ log'.reports transports :=
  List.flatMap_append

end Append

@[simp] lemma waiting_record (log : Logbook) (r : Record) : waiting (log ++ [r]) = r.leaves log.waiting := by
  rw [waiting, List.foldl_append]
  rfl

lemma sound_nil (config : QueueConfig) : Sound config [] := by
  intro before r after heq
  simp at heq

lemma Sound.of_append (h : (log ++ log').Sound config) : log.Sound config := by
  rintro before r after rfl
  exact h before r (after ++ log') (by simp)

lemma Sound.last (h : (log ++ [r]).Sound config) : log.Fits config r :=
  h log r [] rfl

lemma Sound.record (h : log.Sound config) (hr : log.Fits config r) : (log ++ [r]).Sound config := by
  intro before r' after heq
  rcases List.eq_nil_or_concat after with rfl | ⟨after, last, rfl⟩
  · obtain ⟨rfl, hlast⟩ := List.append_inj' heq rfl
    cases hlast
    exact hr
  · have hsplit : log ++ [r] = (before ++ r' :: after) ++ [last] := by simpa using heq
    exact h before r' after (List.append_inj' hsplit rfl).1

/-- **The loop takes the commands in the order in which they were accepted**, and at the end forgets those that are
left. -/
structure Orderly (log : Logbook) : Prop where
  fifo : log.accepted = log.handled ++ (log.forgotten ++ log.waiting)
  alive : log.hasEnded = false → log.forgotten = []
  ended : log.hasEnded = true → log.waiting = []
  bounded : log.waiting.length ≤ 256

/-- Until the loop ends, all that was accepted and not taken waits. -/
lemma Orderly.waits (h : log.Orderly) (halive : log.hasEnded = false) : log.accepted = log.handled ++ log.waiting := by
  rw [h.fifo, h.alive halive, List.nil_append]

/-- A command that the loop takes is the first that waits. -/
lemma Orderly.take (h : log.Orderly) {c : NodeCommand} {rest : List NodeCommand} (hwaiting : log.waiting = c :: rest) :
    log.hasEnded = false ∧ log.accepted = log.handled ++ c :: rest := by
  have halive : log.hasEnded = false := by
    rw [← Bool.not_eq_true]
    intro hended
    rw [h.ended hended] at hwaiting
    cases hwaiting
  exact ⟨halive, by rw [h.waits halive, hwaiting]⟩

/-- What waits and what comes is what is taken, what is forgotten and what waits then. -/
lemma Orderly.record (h : log.Orderly) (hforgotten : handled [r] ++ forgotten [r] ≠ [] → log.forgotten = [])
    (hfifo : log.waiting ++ accepted [r] = handled [r] ++ (forgotten [r] ++ r.leaves log.waiting))
    (halive : hasEnded [r] = false → forgotten [r] = [])
    (hended : (log.hasEnded || hasEnded [r]) = true → r.leaves log.waiting = [])
    (hbounded : (r.leaves log.waiting).length ≤ 256) : Orderly (log ++ [r]) where
  fifo := by
    rw [accepted_append, handled_append, forgotten_append, waiting_record, h.fifo]
    by_cases hnil : handled [r] ++ forgotten [r] = []
    · obtain ⟨hhandled, hnone⟩ := List.append_eq_nil_iff.1 hnil
      rw [hhandled, hnone] at hfifo ⊢
      simpa using hfifo
    · rw [hforgotten hnil]
      simpa using hfifo
  alive hnot := by
    rw [hasEnded_append, Bool.or_eq_false_iff] at hnot
    rw [forgotten_append, h.alive hnot.1, halive hnot.2, List.append_nil]
  ended hdone := by
    rw [waiting_record]
    exact hended (by rwa [hasEnded_append] at hdone)
  bounded := by rwa [waiting_record]

/-- The loop takes a command. -/
lemma Orderly.handle (h : log.Orderly) {c : NodeCommand} (htaken : r.taken? = some c)
    (hhead : log.waiting.head? = some c) : Orderly (log ++ [r]) := by
  obtain ⟨rest, hrest⟩ : ∃ rest, log.waiting = c :: rest := List.head?_eq_some_iff.1 hhead
  obtain ⟨halive, -⟩ := h.take hrest
  have hleaves : r.leaves log.waiting = rest := by
    rw [hrest]
    cases r <;> first | rfl | cases htaken
  have hhandled : handled [r] = [c] := by simp [handled, htaken]
  have hothers : accepted [r] = [] ∧ forgotten [r] = [] ∧ hasEnded [r] = false := by
    cases r <;> first | exact ⟨rfl, rfl, rfl⟩ | cases htaken
  have hbounded := h.bounded
  rw [hrest] at hbounded
  refine h.record (fun _ => h.alive halive) ?_ (fun _ => hothers.2.1) ?_ ?_
  · rw [hleaves, hrest]
    simp [hothers, hhandled]
  · simp [hothers, halive]
  · rw [hleaves]
    exact Nat.le_of_succ_le hbounded

lemma refusal?_eq_none : log.refusal? = none ↔ log.hasEnded = false ∧ log.waiting.length < 256 := by
  unfold refusal?
  cases log.hasEnded <;> simp

lemma Orderly.accept (h : log.Orderly) (hnone : log.refusal? = none) (c : NodeCommand) :
    Orderly (log ++ [.accepted c]) := by
  obtain ⟨halive, hroom⟩ := refusal?_eq_none.1 hnone
  refine h.record (fun _ => h.alive halive) rfl (fun _ => rfl) ?_ ?_
  · rw [halive]
    intro heq
    cases heq
  · rw [Record.leaves, List.length_append]
    exact hroom

lemma Orderly.finish (h : log.Orderly) (halive : log.hasEnded = false) : Orderly (log ++ [.ended log.waiting]) :=
  h.record (fun _ => h.alive halive) (by simp [accepted, handled, forgotten, Record.taken?, Record.leaves])
    (fun h => by cases h) (fun _ => rfl) (Nat.zero_le _)

/-- A record that says nothing of the commands. -/
lemma Orderly.other (h : log.Orderly) (hr : r = .emptied ∨ ∃ user text reason, r = .refused user text reason) :
    Orderly (log ++ [r]) := by
  have hsame : accepted [r] = [] ∧ handled [r] = [] ∧ forgotten [r] = [] ∧ hasEnded [r] = false ∧
      r.leaves log.waiting = log.waiting := by
    rcases hr with rfl | ⟨user, text, reason, rfl⟩ <;> exact ⟨rfl, rfl, rfl, rfl, rfl⟩
  obtain ⟨haccepted, hhandled, hforgotten, hended, hleaves⟩ := hsame
  refine h.record (fun hne => absurd (by rw [hhandled, hforgotten]; rfl) hne) ?_ (fun _ => hforgotten) ?_ ?_
  · simp [haccepted, hhandled, hforgotten, hleaves]
  · simpa [hended, hleaves] using h.ended
  · simpa [hleaves] using h.bounded

lemma Sound.orderly (h : log.Sound config) : log.Orderly := by
  -- by the last record; that it fits is what carries the order on
  induction log using List.reverseRecOn with
  | nil => exact ⟨rfl, fun _ => rfl, (fun h => by cases h), Nat.zero_le _⟩
  | append_singleton log r ih =>
    have hlog := ih h.of_append
    have hfits := h.last
    cases r with
    | accepted c => exact hlog.accept hfits c
    | refused user text reason => exact hlog.other (Or.inr ⟨user, text, reason, rfl⟩)
    | published user text payload => exact hlog.handle rfl hfits.1
    | failed user text e => exact hlog.handle rfl hfits.1
    | answered s => exact hlog.handle rfl hfits.1
    | ended left =>
      obtain ⟨halive, rfl⟩ := hfits
      exact hlog.finish halive
    | emptied => exact hlog.other (Or.inl rfl)

/-- What was published are the encodings of the messages that the loop has taken and that can be sent. -/
lemma Sound.payloads_eq (h : log.Sound config) : log.payloads = log.handled.filterMap NodeCommand.encoding? := by
  induction log using List.reverseRecOn with
  | nil => rfl
  | append_singleton log r ih =>
    have hlog := ih h.of_append
    have hfits := h.last
    rw [payloads_append, handled_append, List.filterMap_append, hlog]
    congr 1
    cases r with
    | published user text payload =>
      simp [payloads, handled, Record.taken?, NodeCommand.encoding?, hfits.2, Except.toOption]
    | failed user text e =>
      simp [payloads, handled, Record.taken?, NodeCommand.encoding?, hfits.2, Except.toOption]
    | _ => rfl

/-- What failed are the other messages that the loop has taken. -/
lemma Sound.failures_eq (h : log.Sound config) : log.failures = log.handled.filterMap NodeCommand.failure? := by
  induction log using List.reverseRecOn with
  | nil => rfl
  | append_singleton log r ih =>
    have hlog := ih h.of_append
    have hfits := h.last
    rw [failures_append, handled_append, List.filterMap_append, hlog]
    congr 1
    cases r with
    | published user text payload => simp [failures, handled, Record.taken?, NodeCommand.failure?, hfits.2]
    | failed user text e => simp [failures, handled, Record.taken?, NodeCommand.failure?, hfits.2]
    | _ => rfl

/-- A command is only accepted while the loop is there and less than 256 commands wait. -/
lemma Sound.accepts (h : log.Sound config) {before after : Logbook} {c : NodeCommand}
    (heq : log = before ++ .accepted c :: after) : before.hasEnded = false ∧
      ∃ waiting, before.accepted = before.handled ++ waiting ∧ waiting.length < 256 := by
  obtain ⟨halive, hroom⟩ := refusal?_eq_none.1 (h before _ after heq)
  rw [heq] at h
  exact ⟨halive, before.waiting, h.of_append.orderly.waits halive, hroom⟩

/-- A message is only refused when the loop has ended or 256 commands wait. -/
lemma Sound.refuses (h : log.Sound config) {before after : Logbook} {user text reason : String}
    (heq : log = before ++ .refused user text reason :: after) :
    before.hasEnded = true ∧ reason = "node stopped" ∨
      before.hasEnded = false ∧ reason = "node busy: command queue full" ∧
        ∃ waiting, before.accepted = before.handled ++ waiting ∧ waiting.length = 256 := by
  have hreason : before.refusal? = some reason := h before _ after heq
  rw [heq] at h
  have horderly := h.of_append.orderly
  unfold refusal? at hreason
  split at hreason
  · next hended =>
    cases hreason
    exact Or.inl ⟨hended, rfl⟩
  · next hnot =>
    rw [Bool.not_eq_true] at hnot
    split at hreason
    · cases hreason
    · next hfull =>
      cases hreason
      have hbounded := horderly.bounded
      exact Or.inr ⟨hnot, rfl, before.waiting, horderly.waits hnot, by omega⟩

/-- The loop answers a question after all that was accepted before it, and counts the messages among that. -/
lemma Sound.answers (h : log.Sound config) {before after : Logbook} {s : NodeStatus}
    (heq : log = before ++ .answered s :: after) : ∃ earlier later,
      before.accepted = earlier ++ .status :: later ∧
        s = { queueName := config.queueName, ackMode := config.ackMode,
              sent := earlier.countP NodeCommand.isSend } := by
  obtain ⟨hhead, hstatus⟩ := h before _ after heq
  rw [heq] at h
  obtain ⟨later, hwaiting⟩ := List.head?_eq_some_iff.1 hhead
  exact ⟨before.handled, later, (h.of_append.orderly.take hwaiting).2, hstatus⟩

end Logbook

/-! ## Mailboxes in which there is room -/

/-- Whether an event says that a message could not be sent. -/
def Event.isReport : Event → Bool
  | sendFailed .. => true
  | received .. | malformed .. => false

namespace Mailbox

variable {m m' m'' : Mailbox} {es es' : List Event} {event : Event} {sender : Sender}

/-- The events that can be taken that say that a message could not be sent. -/
def reports (m : Mailbox) : List Event :=
  m.posted.filter Event.isReport

/-- `m'` is `m` at a later time, and nothing was taken in between: if there is room at the end then there was room all
the time, nobody had to wait, and the given reports have come. -/
structure Tells (es : List Event) (m m' : Mailbox) : Prop where
  isOpen : m'.IsOpen → m.IsOpen
  tells : m'.IsOpen → m.IsCalm → m'.IsCalm ∧ m'.reports = m.reports ++ es

namespace Tells

lemma refl (m : Mailbox) : Tells [] m m :=
  ⟨id, fun _ hcalm => ⟨hcalm, (List.append_nil _).symm⟩⟩

lemma trans (h : Tells es m m') (h' : Tells es' m' m'') : Tells (es ++ es') m m'' := by
  refine ⟨fun hopen => h.isOpen (h'.isOpen hopen), fun hopen hcalm => ?_⟩
  obtain ⟨hcalm', htold⟩ := h.tells (h'.isOpen hopen) hcalm
  obtain ⟨hcalm'', htold'⟩ := h'.tells hopen hcalm'
  exact ⟨hcalm'', by rw [htold', htold, List.append_assoc]⟩

/-- Of a mailbox that is full, or thrown away, nothing is said. -/
lemma of_not_isOpen (h : ¬ m'.IsOpen) : Tells es m m' :=
  ⟨fun hopen => absurd hopen h, fun hopen => absurd hopen h⟩

/-- Where there is room nobody waits. -/
lemma waits (hroom : m.room = 0) : Tells es m { m with waiting := m.waiting ++ [(sender, event)] } := by
  refine ⟨fun hopen => hopen, fun hopen hcalm => ?_⟩
  have hpos : 0 < m.room := IsOpen.room (m := m) hopen hcalm
  omega

/-- Those who wait may go away. -/
lemma leave {waiting granted : List (Sender × Event)} (hwaiting : waiting.Sublist m.waiting)
    (hgranted : granted.Sublist m.granted) : Tells [] m { m with waiting, granted } := by
  refine ⟨fun hopen => hopen, fun _ hcalm => ⟨⟨?_, ?_⟩, (List.append_nil _).symm⟩⟩
  · rw [hcalm.1] at hgranted
    exact List.sublist_nil.1 hgranted
  · rw [hcalm.2] at hwaiting
    exact List.sublist_nil.1 hwaiting

lemma forget (m : Mailbox) (sender : Sender) : Tells [] m (m.forget sender) :=
  leave List.filter_sublist List.filter_sublist

/-- An event is posted. -/
lemma put (hevent : [event].filter Event.isReport = es) : Tells es m (m.put event) := by
  refine ⟨isOpen_of_put, fun _ hcalm => ⟨hcalm, ?_⟩⟩
  rw [← hevent]
  exact List.filter_append ..

/-- Somebody uses a place that he was given. -/
lemma grant {rest : List (Sender × Event)} (h : m.granted = (sender, event) :: rest) :
    Tells es m (({ m with granted := rest } : Mailbox).put event) := by
  refine ⟨fun hopen => isOpen_of_put (m := m) hopen, fun _ hcalm => ?_⟩
  rw [hcalm.1] at h
  cases h

/-- An event is posted if there is room. -/
lemma tryPost (m : Mailbox) (event : Event) : Tells ([event].filter Event.isReport) m (m.tryPost event) := by
  unfold Mailbox.tryPost
  split
  · exact put rfl
  · next hfull =>
    refine ⟨id, fun hopen hcalm => absurd ?_ hfull⟩
    simp [hopen.1, hopen.room hcalm]

lemma tryPosts (m : Mailbox) (events : List Event) :
    Tells (events.filter Event.isReport) m (events.foldl Mailbox.tryPost m) := by
  induction events generalizing m with
  | nil => exact refl m
  | cons event rest ih =>
    have hall := (tryPost m event).trans (ih (m.tryPost event))
    rwa [← List.filter_append] at hall

end Tells

end Mailbox

namespace Station

variable {s s' : Station} {b b' : Broker}

lemma eventOf_isReport (payload : Bytes) : (Relay.eventOf payload).1.isReport = false := by
  unfold Relay.eventOf
  split <;> rfl

/-- Whatever a consumer does, no report comes of it. -/
lemma Turn.tells (h : Turn (s, b) (s', b')) : s.mailbox.Tells [] s'.mailbox := by
  cases h with
  | post _ _ _ _ hoffer =>
    obtain ⟨-, -, rfl⟩ := Mailbox.offer_eq_posted hoffer
    exact .put (by rw [List.filter_singleton, eventOf_isReport]; rfl)
  | wait _ _ _ _ hoffer =>
    obtain ⟨-, hroom, rfl⟩ := Mailbox.offer_eq_waits hoffer
    exact .waits hroom
  | refuse => exact .forget _ _
  | stop => exact .forget _ _

lemma close_tells (link : Link) (s : Station) (b : Broker) : s.mailbox.Tells [] (s.close link b).2.1.mailbox := by
  unfold Station.close
  split
  · exact .refl _
  · rw [finishClose_eq]
    exact .leave List.filter_sublist List.filter_sublist

lemma discardMailbox_tells (s : Station) (b : Broker) :
    s.mailbox.Tells [] (s.discardMailbox b).1.mailbox := by
  refine .of_not_isOpen fun hopen => ?_
  rw [Mailbox.IsOpen, discardMailbox_kept] at hopen
  cases hopen.1

end Station

/-! ## What a node does -/

namespace Node

variable {link : Link} {b b' : Broker} {node node' : Node} {log : Logbook} {r : Option Record}

/-- **What a node does about its commands**, with what is written down of it. -/
inductive Handles (link : Link) (b : Broker) : Node → Option Record → Node → Broker → Prop
  /-- It accepts a command. -/
  | accept {node : Node} (h : node.refusal? = none) (c : NodeCommand) :
      Handles link b node (some (.accepted c)) (node.enqueue c) b
  /-- It does not accept a message. -/
  | refuse {node : Node} {reason : String} (h : node.refusal? = some reason) (user text : String) :
      Handles link b node (some (.refused user text reason)) (node.reportRefused reason) b
  /-- The loop publishes a message. -/
  | publish {node : Node} {user text : String} {rest : List NodeCommand} {payload : Bytes}
      (hrun : node.canRun = true) (hcommands : node.commands = .send user text :: rest)
      (hpayload : node.station.relay.payloadOf user text = .ok payload) :
      Handles link b node (some (.published user text payload)) (({ node with commands := rest } : Node).count user text)
        (b.route node.station.relay.config.queueName payload)
  /-- The loop takes a message that cannot be sent. -/
  | fail {node : Node} {user text : String} {rest : List NodeCommand} {e : RelayError}
      (hrun : node.canRun = true) (hcommands : node.commands = .send user text :: rest)
      (hpayload : node.station.relay.payloadOf user text = .error e) :
      Handles link b node (some (.failed user text e))
        ((({ node with commands := rest } : Node).count user text).conclude (.error e)) b
  /-- The loop answers a question. -/
  | answer {node : Node} {rest : List NodeCommand} (hrun : node.canRun = true)
      (hcommands : node.commands = .status :: rest) :
      Handles link b node (some (.answered node.status)) { node with commands := rest, answer := some node.status } b
  /-- The loop ends, or will never start. -/
  | exit {node : Node} (h : node.phase = .unstarted ∨ node.canRun = true) :
      Handles link b node (some (.ended node.commands)) (node.leave link b).1 (node.leave link b).2
  /-- The user takes events from the mailbox. -/
  | take (node : Node) (limit : Option Nat) :
      Handles link b node (some .emptied)
        { node with station := { node.station with mailbox := (node.station.mailbox.take limit).2 } } b
  /-- It notes something else. -/
  | note {node node' : Node} (hstation : node'.station = node.station) (hdirect : node'.direct = node.direct)
      (htransports : node'.transports = node.transports) (hcommands : node'.commands = node.commands)
      (hsent : node'.sent = node.sent) (hpublication : node'.publication = node.publication)
      (hphase : node'.phase = node.phase ∨ node.phase = .unstarted ∧ node'.phase = .running) :
      Handles link b node none node' b

/-- **A node that has only a queue relay is as its logbook says.** -/
structure Keeps (config : QueueConfig) (log : Logbook) (node : Node) : Prop where
  direct_eq : node.direct = none
  sound : log.Sound config
  config_eq : node.station.relay.config = config
  waiting_eq : log.waiting = node.commands
  sent_eq : node.sent = log.handled.countP NodeCommand.isSend
  ended_iff : log.hasEnded = true ↔ node.phase = .exited
  isOpen : node.phase ≠ .exited → node.station.relay.closed = false
  idle : node.publication = none

variable {config : QueueConfig}

lemma Keeps.refusal?_eq (h : node.Keeps config log) : log.refusal? = node.refusal? := by
  have hended : log.hasEnded = node.hasExited := by
    rw [Bool.eq_iff_iff, h.ended_iff]
    simp [hasExited]
  have hroom : node.hasRoom = true ↔ node.commands.length < 256 := decide_eq_true_iff
  simp only [Logbook.refusal?, refusal?, h.waiting_eq, hended, hroom]

/-- A node that writes something down keeps to its logbook if that is what is called for. -/
lemma Keeps.record (h : node.Keeps config log) {r : Record} (hfits : log.Fits config r)
    (hconfig : node'.station.relay.config = node.station.relay.config)
    (hwaiting : r.leaves node.commands = node'.commands)
    (hsent : node'.sent = node.sent + ([r].filterMap Record.taken?).countP NodeCommand.isSend)
    (hended : node'.phase = .exited ↔ node.phase = .exited ∨ Logbook.hasEnded [r] = true)
    (hopen : node'.phase ≠ .exited → node'.station.relay.closed = node.station.relay.closed)
    (hdirect : node'.direct = none) (hidle : node'.publication = none) : node'.Keeps config (log ++ [r]) where
  direct_eq := hdirect
  sound := h.sound.record hfits
  config_eq := hconfig.trans h.config_eq
  waiting_eq := by rw [Logbook.waiting_record, h.waiting_eq, hwaiting]
  sent_eq := by
    rw [hsent, h.sent_eq, Logbook.handled_append, List.countP_append]
    rfl
  ended_iff := by rw [Logbook.hasEnded_append, Bool.or_eq_true, h.ended_iff, hended]
  isOpen hphase := by
    rw [hopen hphase]
    exact h.isOpen fun hexited => hphase (hended.2 (Or.inl hexited))
  idle := hidle

/-- A node that writes nothing down keeps to its logbook if nothing changes that the logbook is about. -/
lemma Keeps.congr (h : node.Keeps config log) (hdirect : node'.direct = node.direct)
    (hconfig : node'.station.relay.config = node.station.relay.config)
    (hclosed : node'.station.relay.closed = node.station.relay.closed) (hcommands : node'.commands = node.commands)
    (hsent : node'.sent = node.sent) (hpublication : node'.publication = node.publication)
    (hphase : node'.phase = .exited ↔ node.phase = .exited) : node'.Keeps config log where
  direct_eq := hdirect.trans h.direct_eq
  sound := h.sound
  config_eq := hconfig.trans h.config_eq
  waiting_eq := h.waiting_eq.trans hcommands.symm
  sent_eq := hsent.trans h.sent_eq
  ended_iff := h.ended_iff.trans hphase.symm
  isOpen hne := hclosed.trans (h.isOpen fun hexited => hne (hphase.2 hexited))
  idle := hpublication.trans h.idle

/-- What the loop takes is the first command that waits, and is dealt with as its relay would. -/
lemma Keeps.head (h : node.Keeps config log) (hrun : node.canRun = true) {c : NodeCommand} {rest : List NodeCommand}
    (hcommands : node.commands = c :: rest) :
    log.waiting.head? = some c ∧ node.phase ≠ .exited ∧ node.station.relay.payloadOf = Envelope.outcome := by
  obtain ⟨hrunning, -, -⟩ := canRun_iff.1 hrun
  have halive : node.phase ≠ .exited := by
    rw [hrunning]
    intro heq
    cases heq
  refine ⟨by rw [h.waiting_eq, hcommands]; rfl, halive, ?_⟩
  funext user text
  exact Relay.payloadOf_eq_outcome (h.isOpen halive) user text

/-- What a node that has only a queue relay says about itself. -/
lemma Keeps.status_eq (h : node.Keeps config log) : node.status =
    { queueName := config.queueName, ackMode := config.ackMode, sent := log.handled.countP NodeCommand.isSend } := by
  rw [status, h.direct_eq, h.config_eq, h.sent_eq]
  rfl

/-- Nothing is left to a direct relay that is not there. -/
lemma count_direct (hdirect : node.direct = none) {user text : String} : (node.count user text).direct = none := by
  rw [count, hdirect]
  rfl

lemma onDirect_of_none (hdirect : node.direct = none) (f : DirectRelay → Mailbox → DirectRelay × Mailbox) :
    node.onDirect f = node := by
  simp only [onDirect, hdirect]

/-- **Whatever a node does about its commands, it keeps to its logbook.** -/
lemma Handles.keeps (h : node.Handles link b r node' b') (hk : node.Keeps config log) :
    node'.Keeps config (log ++ r.toList) := by
  have hdirect := hk.direct_eq
  have hidle := hk.idle
  cases h with
  | accept hnone c =>
    refine hk.record (hk.refusal?_eq.trans hnone) rfl rfl rfl ?_ (fun _ => rfl) hdirect hidle
    simp [enqueue, Logbook.hasEnded]
  | refuse hsome user text =>
    refine hk.record (hk.refusal?_eq.trans hsome) rfl rfl rfl ?_ (fun _ => rfl) hdirect hidle
    simp [reportRefused, Logbook.hasEnded]
  | @publish user text rest payload hrun hcommands hpayload =>
    obtain ⟨hhead, halive, houtcome⟩ := hk.head hrun hcommands
    rw [houtcome] at hpayload
    refine hk.record ⟨hhead, hpayload⟩ rfl (by rw [hcommands]; rfl) rfl ?_ (fun _ => rfl) (count_direct hdirect) hidle
    simp [Logbook.hasEnded, count]
  | @fail user text rest e hrun hcommands hpayload =>
    obtain ⟨hhead, halive, houtcome⟩ := hk.head hrun hcommands
    rw [houtcome] at hpayload
    have hrelay := conclude_relay (({ node with commands := rest } : Node).count user text) (.error e)
    obtain ⟨s, heq⟩ := conclude_eq (({ node with commands := rest } : Node).count user text) (.error e)
    rw [heq] at hrelay ⊢
    refine hk.record ⟨hhead, hpayload⟩ (congrArg _ hrelay) (by rw [hcommands]; rfl) rfl ?_
      (fun _ => congrArg _ hrelay) (count_direct hdirect) hidle
    simp [Logbook.hasEnded, count]
  | @answer rest hrun hcommands =>
    obtain ⟨hhead, halive, -⟩ := hk.head hrun hcommands
    refine hk.record ⟨hhead, hk.status_eq⟩ rfl (by rw [hcommands]; rfl) rfl ?_ (fun _ => rfl) hdirect hidle
    simp [Logbook.hasEnded]
  | exit hends =>
    have halive : node.phase ≠ .exited := by
      rcases hends with hunstarted | hrun
      · rw [hunstarted]
        intro heq
        cases heq
      · rw [(canRun_iff.1 hrun).1]
        intro heq
        cases heq
    have hnot : log.hasEnded = false := by rw [← Bool.not_eq_true, hk.ended_iff]; exact halive
    rw [leave, hangUp, onDirect_of_none hdirect]
    refine hk.record ⟨hnot, hk.waiting_eq.symm⟩ ?_ rfl rfl ?_ (fun hne => absurd rfl hne) hdirect hidle
    · exact (Station.close_ahead link node.station b).config_eq
    · exact iff_of_true rfl (Or.inr rfl)
  | take limit =>
    refine hk.record trivial rfl rfl rfl ?_ (fun _ => rfl) hdirect hidle
    simp [Logbook.hasEnded]
  | note hstation hsame htransports hcommands hsent hpublication hphase =>
    rw [Option.toList_none, List.append_nil]
    refine hk.congr hsame (by rw [hstation]) (by rw [hstation]) hcommands hsent hpublication ?_
    rcases hphase with heq | ⟨hold, hnew⟩
    · rw [heq]
    · simp [hold, hnew]

/-- A failure that the loop reports. -/
lemma conclude_tells (node : Node) (e : RelayError) :
    node.station.mailbox.Tells [.sendFailed .queue e.message] (node.conclude (.error e)).station.mailbox := by
  simp only [conclude]
  cases hoffer : node.station.mailbox.offer .loop (.sendFailed .queue e.message) with
  | posted m =>
    obtain ⟨-, -, rfl⟩ := Mailbox.offer_eq_posted hoffer
    exact .put rfl
  | waits m =>
    obtain ⟨-, hroom, rfl⟩ := Mailbox.offer_eq_waits hoffer
    exact .waits hroom
  | refused =>
    refine .of_not_isOpen fun hopen => ?_
    have hkept : node.station.mailbox.kept = true := hopen.1
    rw [Mailbox.offer_eq_refused hoffer] at hkept
    cases hkept

lemma reportRefused_tells (node : Node) (reason : String) :
    node.station.mailbox.Tells (node.transports.map fun t => .sendFailed t reason)
      (node.reportRefused reason).station.mailbox := by
  have hposts := Mailbox.Tells.tryPosts node.station.mailbox (node.transports.map fun t => .sendFailed t reason)
  rw [reportRefused_eq]
  rwa [List.filter_eq_self.2 (by simp [Event.isReport])] at hposts

/-- Nothing is reported when a direct relay is released. -/
lemma hangUp_tells (node : Node) : node.station.mailbox.Tells [] node.hangUp.station.mailbox := by
  unfold hangUp onDirect
  split
  · exact .refl _
  · exact .leave List.filter_sublist (List.Sublist.refl _)

lemma hangUp_transports (node : Node) : node.hangUp.transports = node.transports := by
  obtain ⟨direct, m, heq, -⟩ := node.hangUp_eq
  rw [heq]

/-- **What a node does about its commands is reported**, if no event is taken and there is room at the end. -/
lemma Handles.tells (h : node.Handles link b r node' b') :
    node'.transports = node.transports ∧ (r ≠ some .emptied →
      node.station.mailbox.Tells (Logbook.reports node.transports r.toList) node'.station.mailbox) := by
  cases h with
  | accept | publish | answer => exact ⟨rfl, fun _ => .refl _⟩
  | @refuse reason hsome user text =>
    refine ⟨rfl, fun _ => ?_⟩
    have htells := reportRefused_tells node reason
    simpa [Logbook.reports] using htells
  | @fail user text rest e hrun hcommands hpayload =>
    exact ⟨conclude_transports _ _, fun _ => conclude_tells (({ node with commands := rest } : Node).count user text) e⟩
  | exit => exact ⟨node.hangUp_transports, fun _ => node.hangUp_tells.trans (Station.close_tells link _ b)⟩
  | take limit => exact ⟨rfl, fun hne => absurd rfl hne⟩
  | note hstation hdirect htransports =>
    refine ⟨htransports, fun _ => ?_⟩
    rw [hstation]
    exact .refl _

end Node

end MessageRelay
