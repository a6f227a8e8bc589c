import MessageRelay.Proofs.Exchange.Attendance
import MessageRelay.Proofs.Exchange.Stillness
import MessageRelay.Proofs.Node.Accounted
import MessageRelay.Proofs.Node.Shutdown

/-!
# What becomes of a node whose loop has ended

What is done in an exchange can do eight things to a node (`Node.Deals`).  Only a loop that runs has a message on its way
or waits for a place in the mailbox, and only calls of a server that listens wait there (`Diary.lively`).  So when the
loop has ended, or is never to start, nothing is left of the node that could go on but tasks of its direct relay, which
report that a message was not sent (`inert_of_exited`).  Whatever anybody does then, it stays so, and no event comes to
the mailbox but failures (`Diary.fades`).
-/

namespace MessageRelay

/-! ## Mailboxes -/

namespace Mailbox

variable {m : Mailbox}

/-- Reports that nobody waits with are posted as long as there is room. -/
lemma foldl_tryPost_eq (hkept : m.kept = true) (es : List Event) :
    es.foldl Mailbox.tryPost m = { m with posted := m.posted ++ es.take m.room } := by
  induction es generalizing m with
  | nil => simp
  | cons e rest ih =>
    rw [List.foldl_cons]
    by_cases hroom : 0 < m.room
    · have hpost : m.tryPost e = m.put e := by simp [tryPost, hkept, hroom]
      obtain ⟨room, hsucc⟩ := Nat.exists_eq_succ_of_ne_zero hroom.ne'
      rw [hpost, ih (m := m.put e) hkept, room_put, hsucc]
      simp [put]
    · have hpost : m.tryPost e = m := by simp [tryPost, hroom]
      rw [hpost, ih hkept, Nat.eq_zero_of_not_pos hroom, List.take_zero, List.take_zero]

lemma foldl_tryPost_of_discarded (hkept : m.kept = false) (es : List Event) : es.foldl Mailbox.tryPost m = m := by
  induction es with
  | nil => rfl
  | cons e rest ih =>
    have hpost : m.tryPost e = m := by simp [tryPost, hkept]
    rw [List.foldl_cons, hpost, ih]

/-- Reports are added to what was posted, and nothing else changes. -/
lemma foldl_tryPost_adds (m : Mailbox) (es : List Event) :
    ∃ l, l ⊆ es ∧ es.foldl Mailbox.tryPost m = { m with posted := m.posted ++ l } := by
  by_cases hkept : m.kept = true
  · exact ⟨es.take m.room, List.take_subset _ _, foldl_tryPost_eq hkept es⟩
  · rw [Bool.not_eq_true] at hkept
    exact ⟨[], List.nil_subset _, by rw [foldl_tryPost_of_discarded hkept, List.append_nil]⟩

/-- `m'` is `m` after nobody has begun to wait for a place but senders of a certain kind. -/
structure Admits (P : Sender × Event → Prop) (m m' : Mailbox) : Prop where
  waiting : ∀ e ∈ m'.waiting, e ∈ m.waiting ∨ P e
  all : ∀ e ∈ m'.waiting ++ m'.granted, e ∈ m.waiting ++ m.granted ∨ P e

variable {P : Sender × Event → Prop} {m' : Mailbox}

lemma Admits.of_eq (hwaiting : m'.waiting = m.waiting) (hgranted : m'.granted = m.granted) : m.Admits P m' where
  waiting e he := Or.inl (hwaiting ▸ he)
  all e he := Or.inl (by rwa [hwaiting, hgranted] at he)

lemma Admits.wait {sender : Sender} {event : Event} (hP : P (sender, event)) :
    m.Admits P { m with waiting := m.waiting ++ [(sender, event)] } where
  waiting e he := (List.mem_append.1 he).imp id fun he => by rwa [List.mem_singleton.1 he]
  all e he := by
    simp only [List.mem_append, List.mem_singleton] at he ⊢
    rcases he with (he | rfl) | he
    · exact Or.inl (Or.inl he)
    · exact Or.inr hP
    · exact Or.inl (Or.inr he)

lemma admits_forget (m : Mailbox) (sender : Sender) : m.Admits P (m.forget sender) where
  waiting _ he := Or.inl (List.mem_of_mem_filter he)
  all _ he := Or.inl (mem_of_forget he)

lemma admits_take (m : Mailbox) (limit : Option Nat) : m.Admits P (m.take limit).2 where
  waiting _ he := Or.inl (List.mem_of_mem_drop he)
  all _ he := Or.inl
    (mem_of_grant (m := { m with posted := m.posted.drop (limit.getD m.posted.length) }) he)

lemma admits_leave {sender : Sender} {event : Event} (hP : P (sender, event)) :
    m.Admits P (m.leave sender event) := by
  rcases m.leave_cases sender event with hoffer | hoffer | hsame
  · obtain ⟨-, -, heq⟩ := offer_eq_posted hoffer
    rw [heq]
    exact .of_eq rfl rfl
  · obtain ⟨-, -, heq⟩ := offer_eq_waits hoffer
    rw [heq]
    exact .wait hP
  · rw [hsame]
    exact .of_eq rfl rfl

lemma mem_of_posted_leave {sender : Sender} {event e : Event} (he : e ∈ (m.leave sender event).posted) :
    e ∈ m.posted ∨ e = event := by
  rcases m.leave_cases sender event with hoffer | hoffer | hsame
  · obtain ⟨-, -, heq⟩ := offer_eq_posted hoffer
    rw [heq] at he
    exact (List.mem_append.1 he).imp_right List.mem_singleton.1
  · obtain ⟨-, -, heq⟩ := offer_eq_waits hoffer
    rw [heq] at he
    exact Or.inl he
  · rw [hsame] at he
    exact Or.inl he

/-- No call waits when all have ended. -/
lemma isCall_of_mem_hangUp {e : Sender × Event} (he : e ∈ m.hangUp.waiting) : e.1.isCall = false := by
  simpa using (List.mem_filter.1 he).2

lemma admits_hangUp (m : Mailbox) : m.Admits P m.hangUp where
  waiting _ he := Or.inl (List.mem_of_mem_filter he)
  all _ he := Or.inl (List.mem_append.2 ((List.mem_append.1 he).imp_left List.mem_of_mem_filter))

end Mailbox

namespace Station

variable {s s' : Station} {b b' : Broker}

/-- What consumers do adds nobody but consumers to those who wait. -/
lemma Turn.admits (h : Turn (s, b) (s', b')) :
    s.mailbox.Admits (fun e => ∃ i, e.1 = .consumer i) s'.mailbox := by
  cases h with
  | post _ _ _ _ hoffer =>
    obtain ⟨-, -, rfl⟩ := Mailbox.offer_eq_posted hoffer
    exact .of_eq rfl rfl
  | wait _ _ _ _ hoffer =>
    obtain ⟨-, -, rfl⟩ := Mailbox.offer_eq_waits hoffer
    exact .wait ⟨_, rfl⟩
  | refuse => exact Mailbox.admits_forget _ _
  | stop => exact Mailbox.admits_forget _ _

/-- Nobody begins to wait when a relay is closed. -/
lemma close_admits (link : Link) (s : Station) (b : Broker) :
    s.mailbox.Admits (fun _ => False) (s.close link b).2.1.mailbox := by
  unfold close
  split
  · exact .of_eq rfl rfl
  · rw [finishClose_eq]
    refine ⟨fun e he => Or.inl (List.mem_of_mem_filter he), fun e he => Or.inl ?_⟩
    exact List.mem_append.2 ((List.mem_append.1 he).imp List.mem_of_mem_filter List.mem_of_mem_filter)

end Station

namespace Node

variable {link : Link} {b b' : Broker} {node node' node'' : Node} {es : List Entry}

/-! ## What one deed does to a node -/

/-- What can become of a node when something is done in an exchange. -/
inductive Deals (link : Link) : Node → Node → Prop
  /-- Nothing. -/
  | same (node : Node) : Deals link node node
  /-- One of its consumers takes a turn. -/
  | turn {node : Node} {s : Station} {b b' : Broker} (h : Station.Turn (node.station, b) (s, b')) :
      Deals link node { node with station := s }
  /-- Somebody who was given a place uses it. -/
  | grant {node : Node} {sender : Sender} {event : Event} {rest : List (Sender × Event)}
      (h : node.station.mailbox.granted = (sender, event) :: rest) :
      Deals link node { node with station := { node.station with
        mailbox := ({ node.station.mailbox with granted := rest } : Mailbox).put event } }
  /-- It does something itself. -/
  | doing {node node' : Node} {b b' : Broker} {es : List Entry} (h : Doing link b node es node' b') :
      Deals link node node'
  /-- The user takes events. -/
  | take (node : Node) (limit : Option Nat) :
      Deals link node { node with station := { node.station with
        mailbox := (node.station.mailbox.take limit).2 } }
  /-- The user throws the mailbox away. -/
  | discard (node : Node) (b : Broker) :
      Deals link node { node with station := (node.station.discardMailbox b).1 }
  /-- A stream breaks. -/
  | breakStream (node : Node) (stream : Nat) :
      Deals link node { node with station := node.station.breakStream stream }
  /-- Its relay gets a stream. -/
  | listen {node : Node} (hclosed : node.station.relay.closed = false) (queue : String) (stream : Nat) :
      Deals link node { node with station := { node.station with
        relay := node.station.relay.withConsumer queue stream } }

/-! ## Who has something to do -/

/-- A task of the direct relay reports that a message was not sent. -/
def IsTask (node : Node) (e : Sender × Event) : Prop :=
  node.direct.isSome = true ∧ ∃ task reason, e = (.outgoing task, .sendFailed .direct reason)

/-- Somebody may wait for a place in the mailbox of a node. -/
def MayWait (node : Node) (e : Sender × Event) : Prop :=
  match e.1 with
  | .consumer _ | .call _ => True
  | .outgoing _ => node.IsTask e
  | .loop => node.phase = .running

lemma MayWait.of {e : Sender × Event} (h : node.MayWait e)
    (hdirect : node.direct.isSome = true → node'.direct.isSome = true)
    (hloop : e.1 = .loop → node.phase = .running → node'.phase = .running) : node'.MayWait e := by
  unfold MayWait at h ⊢
  split
  · trivial
  · trivial
  · next hsender =>
    rw [hsender] at h
    exact ⟨hdirect h.1, h.2⟩
  · next hsender =>
    rw [hsender] at h
    exact hloop hsender h

/-- Only a loop that runs has a message on its way or waits for a place, and calls only wait as long as the server
listens. -/
structure Lively (node : Node) : Prop where
  running : node.publication.isSome = true → node.phase = .running
  senders : ∀ e ∈ node.station.mailbox.waiting ++ node.station.mailbox.granted, node.MayWait e
  calls : node.IsHungUp → ∀ e ∈ node.station.mailbox.waiting, e.1.isCall = false

lemma Lively.of_admits (h : node.Lively) {P : Sender × Event → Prop} {s : Station}
    (hs : node.station.mailbox.Admits P s.mailbox) (hP : ∀ e, P e → node.MayWait e ∧ e.1.isCall = false) :
    ({ node with station := s } : Node).Lively where
  running := h.running
  senders e he := (hs.all e he).elim (h.senders e) fun hnew => (hP e hnew).1
  calls hungUp e he := (hs.waiting e he).elim (h.calls hungUp e) fun hnew => (hP e hnew).2

lemma mayWait_consumer {e : Sender × Event} (he : ∃ i, e.1 = .consumer i) :
    node.MayWait e ∧ e.1.isCall = false := by
  obtain ⟨i, hi⟩ := he
  rw [MayWait, hi]
  exact ⟨trivial, rfl⟩

lemma Lively.conclude (h : node.Lively) (hrunning : node.phase = .running) (result : Except RelayError Unit) :
    (node.conclude result).Lively := by
  cases result with
  | ok => exact h
  | error e =>
    rw [conclude_error]
    refine h.of_admits (P := fun entry => entry = (.loop, .sendFailed .queue e.message)) (Mailbox.admits_leave rfl) ?_
    rintro _ rfl
    exact ⟨hrunning, rfl⟩

/-- A message that is counted is left to the direct relay. -/
lemma Lively.count (h : node.Lively) (user text : String) : (node.count user text).Lively where
  running := h.running
  senders e he := (h.senders e he).of (by simp [Node.count]) fun _ => id
  calls hungUp := by
    refine h.calls (hungUp.of_ends ?_)
    simp only [Node.count, Option.map_map]
    rfl

lemma IsTask.mayWait {e : Sender × Event} (he : node.IsTask e) : node.MayWait e := by
  obtain ⟨hsome, task, reason, rfl⟩ := he
  exact ⟨hsome, task, reason, rfl⟩

lemma IsTask.isCall_eq {e : Sender × Event} (he : node.IsTask e) : e.1.isCall = false := by
  obtain ⟨-, task, reason, rfl⟩ := he
  rfl

/-- Whatever becomes of a direct relay, its tasks are tasks. -/
lemma IsTask.withDirect {e : Sender × Event} (he : node.IsTask e) (p : DirectRelay × Mailbox) :
    (node.withDirect p).IsTask e :=
  ⟨rfl, he.2⟩

/-- The direct relay of a node and its mailbox change. -/
lemma Lively.withDirect (h : node.Lively) {P : Sender × Event → Prop} {p : DirectRelay × Mailbox}
    (hp : node.station.mailbox.Admits P p.2) (hP : ∀ e, P e → (node.withDirect p).MayWait e)
    (hcalls : p.1.IsReleased → ∀ e ∈ p.2.waiting, e.1.isCall = false) : (node.withDirect p).Lively where
  running := h.running
  senders e he := (hp.all e he).elim (fun hold => (h.senders e hold).of (fun _ => rfl) fun _ => id) (hP e)
  calls hungUp := hcalls ((isHungUp_iff rfl).1 hungUp)

/-- What happens at a direct relay makes nobody wait but its own calls and tasks, and no calls when it was released. -/
lemma Lively.directTurn (h : node.Lively) {call : Option (String × String)} (hturn : DirectTurn node call node') :
    node'.Lively := by
  cases hturn with
  | @turn d call p hd hturn =>
    -- a relay that was released before has no calls that wait
    have hbefore : ∀ {d' : DirectRelay}, d'.ends = d.ends → d'.IsReleased →
        ∀ e ∈ node.station.mailbox.waiting, e.1.isCall = false :=
      fun hends hreleased => h.calls ((isHungUp_iff hd).2 (hreleased.of_ends hends.symm))
    cases hturn with
    | note hends => exact h.withDirect (.of_eq rfl rfl) (fun e (he : False) => he.elim) (hbefore hends)
    | @report d d' m hends task reason =>
      have hadmits : node.station.mailbox.Admits (node.withDirect (d', node.station.mailbox)).IsTask
          (node.station.mailbox.leave (.outgoing task) (.sendFailed .direct reason)) :=
        Mailbox.admits_leave ⟨rfl, task, reason, rfl⟩
      refine h.withDirect hadmits (fun e he => IsTask.mayWait he) fun hreleased e he => ?_
      exact (hadmits.waiting e he).elim (hbefore hends hreleased e) IsTask.isCall_eq
    | @called d d' m hends hlistens k user text =>
      have hadmits : node.station.mailbox.Admits (fun e => e.1 = .call k)
          (node.station.mailbox.leave (.call k) (Direct.Service.eventOf user text)) := Mailbox.admits_leave rfl
      refine h.withDirect hadmits (fun e he => ?_) fun hreleased => ?_
      · unfold MayWait
        rw [he]
        trivial
      · have hstopped := (hreleased.of_ends hends.symm).server
        rw [hlistens] at hstopped
        cases hstopped
    | release =>
      exact h.withDirect (Mailbox.admits_hangUp _) (fun e (he : False) => he.elim)
        fun _ e he => Mailbox.isCall_of_mem_hangUp he

/-- When the loop ends it does not wait for a place. -/
lemma Lively.exit (h : node.Lively) (hends : node.phase = .unstarted ∨ node.canRun = true) :
    (node.exit link b).1.Lively := by
  have hidle : node.publication = none := by
    rcases hends with hunstarted | hrun
    · rw [← Option.not_isSome_iff_eq_none]
      intro hp
      rw [h.running hp] at hunstarted
      cases hunstarted
    · exact (canRun_iff.1 hrun).2.2
  have hadmits := Station.close_admits link node.station b
  refine ⟨fun hp => ?_, fun e he => ?_, fun hungUp e he => ?_⟩
  · rw [show (node.exit link b).1.publication = none from hidle] at hp
    cases hp
  · have hbefore := (hadmits.all e he).resolve_right not_false
    refine (h.senders e hbefore).of id fun hloop hrunning => ?_
    -- the loop is not among those who wait
    rcases hends with hunstarted | hrun
    · rw [hrunning] at hunstarted
      cases hunstarted
    · have hblocked := (canRun_iff.1 hrun).2.1
      rw [isBlocked, Mailbox.holds, List.any_eq_false] at hblocked
      exact absurd (beq_iff_eq.2 hloop) (hblocked e hbefore)
  · exact h.calls hungUp e ((hadmits.waiting e he).resolve_right not_false)

lemma reportRefused_eq (node : Node) (reason : String) :
    node.reportRefused reason = { node with station := { node.station with
      mailbox := (node.transports.map fun t => Event.sendFailed t reason).foldl Mailbox.tryPost
        node.station.mailbox } } := by
  rw [reportRefused, List.foldl_map]

lemma Doing.lively (hdoing : Doing link b node es node' b') (h : node.Lively) : node'.Lively := by
  cases hdoing with
  | accept hphase c => exact ⟨h.running, h.senders, h.calls⟩
  | refuse user text reason =>
    rw [reportRefused_eq]
    obtain ⟨l, -, heq⟩ := Mailbox.foldl_tryPost_adds node.station.mailbox
      (node.transports.map fun t => Event.sendFailed t reason)
    rw [heq]
    exact h.of_admits (.of_eq rfl rfl) fun e (he : False) => he.elim
  | @fail user text rest e hrun hcommands hpayload =>
    have hacting : ({ node with commands := rest } : Node).Lively := ⟨h.running, h.senders, h.calls⟩
    exact (hacting.count user text).conclude (canRun_iff.1 hrun).1 _
  | @begin user text rest payload hrun hcommands hpayload due =>
    have hacting : ({ node with commands := rest } : Node).Lively := ⟨h.running, h.senders, h.calls⟩
    have hcounted := hacting.count user text
    exact ⟨fun _ => (canRun_iff.1 hrun).1, hcounted.senders, hcounted.calls⟩
  | land hp hencodes harrive => exact ⟨(fun h => by cases h), h.senders, h.calls⟩
  | giveUp hp hencodes harrive =>
    have hacting : ({ node with publication := none } : Node).Lively := ⟨(fun h => by cases h), h.senders, h.calls⟩
    exact hacting.conclude (h.running (by rw [hp]; rfl)) _
  | direct hturn => exact h.directTurn hturn
  | exit hends => exact h.exit hends
  | note hstation hdirect hpublication hmessages htransports hphase =>
    have hstill : node.phase = .running → node'.phase = .running := by
      intro hrunning
      rcases hphase with heq | ⟨hunstarted, -⟩
      · rw [heq, hrunning]
      · rw [hrunning] at hunstarted
        cases hunstarted
    refine ⟨fun hp => hstill (h.running (by rwa [← hpublication])), fun e he => ?_, fun hungUp => ?_⟩
    · rw [hstation] at he
      exact (h.senders e he).of (fun hsome => by rwa [hdirect]) fun _ => hstill
    · rw [hstation]
      exact h.calls (hungUp.of_ends (by rw [hdirect]))

lemma Deals.lively (hdeals : Deals link node node') (h : node.Lively) : node'.Lively := by
  cases hdeals with
  | same => exact h
  | turn hturn => exact h.of_admits hturn.admits fun e => mayWait_consumer
  | grant hg =>
    refine ⟨h.running, fun e he => h.senders e ?_, h.calls⟩
    rw [hg]
    exact (List.mem_append.1 he).elim (List.mem_append_left _) fun he =>
      List.mem_append_right _ (List.mem_cons_of_mem _ he)
  | doing hdoing => exact hdoing.lively h
  | take limit => exact h.of_admits (Mailbox.admits_take _ limit) fun e (he : False) => he.elim
  | discard b =>
    rw [Station.discardMailbox_eq]
    exact ⟨h.running, fun e he => (by cases he), fun _ e he => (by cases he)⟩
  | breakStream stream => exact h.of_admits (.of_eq rfl rfl) fun e (he : False) => he.elim
  | listen hclosed queue stream => exact h.of_admits (.of_eq rfl rfl) fun e (he : False) => he.elim

/-! ## A node that is over -/

/-- The loop of a node has ended and its relays were released; nothing is left that could go on, but tasks of the
direct relay, if there is one, that report failures. -/
structure Inert (node : Node) : Prop where
  exited : node.phase = .exited
  idle : node.publication = none
  closed : node.station.relay.closed = true
  consumers : node.station.relay.consumers = []
  hungUp : node.IsHungUp
  tasks : ∀ e ∈ node.station.mailbox.waiting ++ node.station.mailbox.granted, node.IsTask e

/-- `node'` is `node`, which is over, at a later time: it may have reported failures. -/
structure Fades (node node' : Node) : Prop where
  inert : node'.Inert
  posted : ∀ e ∈ node'.station.mailbox.posted,
    e ∈ node.station.mailbox.posted ∨ ∃ t reason, e = .sendFailed t reason

lemma Inert.fades (h : node.Inert) : node.Fades node :=
  ⟨h, fun _ => Or.inl⟩

lemma Fades.trans (h : node.Fades node') (h' : node'.Fades node'') : node.Fades node'' where
  inert := h'.inert
  posted e he := (h'.posted e he).elim (h.posted e) Or.inr

lemma Inert.canRun (h : node.Inert) : node.canRun = false := by
  simp [Node.canRun, h.exited]

/-- Only the mailbox of a node that is over changes. -/
lemma Inert.fades_mailbox (h : node.Inert) {m : Mailbox} (htasks : ∀ e ∈ m.waiting ++ m.granted, node.IsTask e)
    (hposted : ∀ e ∈ m.posted, e ∈ node.station.mailbox.posted ∨ ∃ t reason, e = .sendFailed t reason) :
    node.Fades { node with station := { node.station with mailbox := m } } :=
  ⟨⟨h.exited, h.idle, h.closed, h.consumers, h.hungUp, htasks⟩, hposted⟩

/-- Something is noted of a node that is over. -/
lemma Inert.fades_note (h : node.Inert) (hstation : node'.station = node.station) (hdirect : node'.direct = node.direct)
    (hpublication : node'.publication = node.publication) (hphase : node'.phase = node.phase) :
    node.Fades node' := by
  refine ⟨⟨hphase.trans h.exited, hpublication.trans h.idle, ?_, ?_, h.hungUp.of_ends (by rw [hdirect]), ?_⟩,
    fun e he => Or.inl ?_⟩
  · rw [hstation]
    exact h.closed
  · rw [hstation]
    exact h.consumers
  · rw [hstation]
    unfold IsTask
    rw [hdirect]
    exact h.tasks
  · rwa [hstation] at he

/-- What happens at the direct relay of a node that is over is that a failure is reported. -/
lemma Inert.fades_directTurn (h : node.Inert) {call : Option (String × String)} (hturn : DirectTurn node call node') :
    node.Fades node' := by
  have hungUp := hturn.isHungUp h.hungUp
  rcases call with - | call
  · cases hturn with
    | @turn d call p hd hturn =>
      have hdirect : ∀ e ∈ node.station.mailbox.waiting ++ node.station.mailbox.granted, (node.withDirect p).IsTask e :=
        fun e he => (h.tasks e he).withDirect p
      cases hturn with
      | note hends => exact ⟨⟨h.exited, h.idle, h.closed, h.consumers, hungUp, hdirect⟩, fun _ => Or.inl⟩
      | report hends task reason =>
        refine ⟨⟨h.exited, h.idle, h.closed, h.consumers, hungUp, fun e he => ?_⟩, fun e he => ?_⟩
        · rcases Mailbox.mem_of_leave he with rfl | hold
          · exact ⟨rfl, task, reason, rfl⟩
          · exact hdirect e hold
        · exact (Mailbox.mem_of_posted_leave he).imp_right fun heq => ⟨.direct, reason, heq⟩
      | release =>
        refine ⟨⟨h.exited, h.idle, h.closed, h.consumers, hungUp, fun e he => hdirect e ?_⟩, fun _ => Or.inl⟩
        exact List.mem_append.2 ((List.mem_append.1 he).imp_left List.mem_of_mem_filter)
  · exact absurd hturn h.hungUp.not_called

lemma Inert.fades_directTurns (h : node.Inert) (hturns : DirectTurns node node') : node.Fades node' := by
  induction hturns with
  | refl => exact h.fades
  | tail _ hlast ih => exact ih.trans (ih.inert.fades_directTurn hlast)

/-- Somebody who was given a place in the mailbox of a node that is over reports a failure there. -/
lemma Inert.fades_grant (h : node.Inert) {sender : Sender} {event : Event} {rest : List (Sender × Event)}
    (hg : node.station.mailbox.granted = (sender, event) :: rest) :
    node.Fades { node with station := { node.station with
      mailbox := ({ node.station.mailbox with granted := rest } : Mailbox).put event } } := by
  refine h.fades_mailbox (fun e he => h.tasks e ?_) fun e he => (List.mem_append.1 he).imp_right fun he => ?_
  · rw [hg]
    exact List.mem_append.2 ((List.mem_append.1 he).imp_right (List.mem_cons_of_mem _))
  · obtain ⟨-, task, reason, heq⟩ := h.tasks (sender, event) (by rw [hg]; simp)
    cases heq
    exact ⟨.direct, reason, List.mem_singleton.1 he⟩

lemma Inert.reportRefused (h : node.Inert) (reason : String) : node.Fades (node.reportRefused reason) := by
  rw [reportRefused_eq]
  obtain ⟨l, hl, heq⟩ := Mailbox.foldl_tryPost_adds node.station.mailbox
    (node.transports.map fun t => Event.sendFailed t reason)
  rw [heq]
  refine h.fades_mailbox h.tasks fun e he => (List.mem_append.1 he).imp_right fun he => ?_
  obtain ⟨t, -, rfl⟩ := List.mem_map.1 (hl he)
  exact ⟨t, reason, rfl⟩

lemma Inert.take (h : node.Inert) (limit : Option Nat) :
    node.Fades { node with station := { node.station with
      mailbox := (node.station.mailbox.take limit).2 } } := by
  have hadmits := Mailbox.admits_take (P := fun _ => False) node.station.mailbox limit
  refine h.fades_mailbox (fun e he => h.tasks e ?_) fun e he => Or.inl (List.mem_of_mem_drop he)
  exact (hadmits.all e he).resolve_right not_false

/-- No consumer waits who would have to stop. -/
lemma Inert.discardMailbox_eq (h : node.Inert) (b : Broker) :
    node.station.discardMailbox b = ({ node.station with mailbox := node.station.mailbox.discard.2 }, b) := by
  have hnone : node.station.waitingStreams = [] := by
    rw [Station.waitingStreams, List.filterMap_eq_nil_iff]
    intro e he
    obtain ⟨-, task, reason, rfl⟩ := h.tasks e (List.mem_append.2 (List.mem_append.1 he).symm)
    rfl
  simp [Station.discardMailbox_eq, Station.discarded, Station.stopped, hnone, Mailbox.discard]

lemma Inert.discard (h : node.Inert) (b : Broker) :
    node.Fades { node with station := (node.station.discardMailbox b).1 } := by
  rw [h.discardMailbox_eq]
  exact h.fades_mailbox (fun e he => by cases he) fun e he => by cases he

/-- **Whatever is done, a node that is over stays so.** -/
lemma Deals.fades (hdeals : Deals link node node') (h : node.Inert) : node.Fades node' := by
  cases hdeals with
  | same => exact h.fades
  | turn hturn => exact absurd h.consumers hturn.consumers_ne
  | grant hg => exact h.fades_grant hg
  | doing hdoing =>
    cases hdoing with
    | accept hphase => exact absurd h.exited hphase
    | refuse user text reason => exact h.reportRefused reason
    | fail hrun | begin hrun =>
      rw [h.canRun] at hrun
      cases hrun
    | land hp | giveUp hp =>
      rw [h.idle] at hp
      cases hp
    | direct hturn => exact h.fades_directTurn hturn
    | exit hends =>
      rw [h.canRun, h.exited] at hends
      rcases hends with hends | hends <;> cases hends
    | note hstation hdirect hpublication hmessages htransports hphase =>
      refine h.fades_note hstation hdirect hpublication (hphase.resolve_right ?_)
      rintro ⟨hunstarted, -⟩
      rw [h.exited] at hunstarted
      cases hunstarted
  | take limit => exact h.take limit
  | discard b => exact h.discard b
  | breakStream stream =>
    refine ⟨⟨h.exited, h.idle, h.closed, ?_, h.hungUp, h.tasks⟩, fun e he => Or.inl he⟩
    exact List.map_eq_nil_iff.2 h.consumers
  | listen hclosed =>
    rw [h.closed] at hclosed
    cases hclosed

end Node

namespace Exchange

variable {x x' : Exchange} {d d' : Doorway} {seat : Seat} {s s' : Station} {b : Broker} {k n : Nat}
  {node node' : Node} {log entries : List (Nat × Entry)}

/-! ## What is done in an exchange -/

lemma place_deals (hn : x.nodes[k]? = some node) (b : Broker)
    (h : seat = .node k → node.Deals x.link { node with station := s }) :
    ∃ node', (x.place seat s b).nodes[k]? = some node' ∧ node.Deals x.link node' := by
  rw [place_nodes, hn, Option.map_some]
  refine ⟨_, rfl, ?_⟩
  split
  · next hseat => exact h hseat
  · exact .same node

lemma station?_node (hn : x.nodes[k]? = some node) : x.station? (.node k) = some node.station := by
  rw [station?, hn, Option.map_some]

/-- What a deed does to a node that is there. -/
lemma Deed.deals (h : Deed d x entries d' x') (hn : x.nodes[k]? = some node) :
    ∃ node', x'.nodes[k]? = some node' ∧ node.Deals x.link node' := by
  have hself : ∀ {s : Station}, x.station? (.node k) = some s → s = node.station := by
    intro s hs
    rw [station?_node hn, Option.some.injEq] at hs
    exact hs.symm
  cases h with
  | turn hs h =>
    refine place_deals hn _ fun hseat => ?_
    subst hseat
    obtain rfl := hself hs
    exact .turn h
  | grant hs h =>
    refine place_deals hn _ fun hseat => ?_
    subst hseat
    obtain rfl := hself hs
    exact .grant h
  | @node n acting acting' b es hn' h =>
    by_cases hk : n = k
    · subst hk
      rw [hn, Option.some.injEq] at hn'
      subst hn'
      exact ⟨acting', withNode_nodes_self hn _, .doing h⟩
    · refine ⟨node, ?_, .same node⟩
      rw [withNode, setNode, List.getElem?_set_ne hk]
      exact hn
  | take hs limit =>
    refine place_deals hn _ fun hseat => ?_
    subst hseat
    obtain rfl := hself hs
    exact .take node limit
  | discard hs =>
    refine place_deals hn _ fun hseat => ?_
    subst hseat
    obtain rfl := hself hs
    exact .discard node x.broker
  | breakStream hs stream =>
    refine place_deals hn _ fun hseat => ?_
    subst hseat
    obtain rfl := hself hs
    exact .breakStream node stream
  | listen hs hclosed =>
    refine place_deals hn _ fun hseat => ?_
    subst hseat
    obtain rfl := hself hs
    exact .listen hclosed _ _
  | retire hs | leave hs => exact place_deals hn _ fun hseat => by cases hseat
  | enrolNode hmem config transports direct =>
    have hlt : k < x.nodes.length := (List.getElem?_eq_some_iff.1 hn).1
    exact ⟨node, by rw [List.getElem?_append_left hlt, hn], .same node⟩
  | tick | decline | drop | office | welcome | enrolRelay | dismiss => exact ⟨node, hn, .same node⟩

/-- A node that has just come up. -/
lemma Deed.lively_of_new (h : Deed d x entries d' x') (hnone : x.nodes[k]? = none)
    (hn' : x'.nodes[k]? = some node') : node'.Lively := by
  have hlength : x'.nodes.length = x.nodes.length → node'.Lively := by
    intro heq
    have hlt := (List.getElem?_eq_some_iff.1 hn').1
    rw [heq] at hlt
    exact absurd hnone (by simp [hlt])
  cases h with
  | enrolNode hmem config transports direct =>
    rw [List.getElem?_append_right (List.getElem?_eq_none_iff.1 hnone)] at hn'
    rw [List.mem_singleton.1 (List.mem_of_getElem? hn')]
    exact ⟨(fun h => by cases h), fun e he => (by cases he), fun _ e he => by cases he⟩
  | turn | grant | take | discard | breakStream | listen | retire | leave => exact hlength (place_nodes_length ..)
  | node => exact hlength List.length_set
  | tick | decline | drop | office | welcome | enrolRelay | dismiss => exact hlength rfl

lemma Diary.lively (h : Diary d x log d' x') (hx : ∀ (k : Nat) node, x.nodes[k]? = some node → node.Lively) :
    ∀ (k : Nat) node, x'.nodes[k]? = some node → node.Lively := by
  induction h with
  | start => exact hx
  | @step log entries d₁ d₂ y y' _ hdeed ih =>
    intro k node' hn'
    cases hn : y.nodes[k]? with
    | none => exact hdeed.lively_of_new hn hn'
    | some node =>
      obtain ⟨node₁, hn₁, hdeals⟩ := hdeed.deals hn
      rw [hn', Option.some.injEq] at hn₁
      subst hn₁
      exact hdeals.lively (ih k node hn)

lemma Diary.fades (h : Diary d x log d' x') (hn : x.nodes[k]? = some node) (hi : node.Inert) :
    ∃ node', x'.nodes[k]? = some node' ∧ node.Fades node' := by
  induction h with
  | start => exact ⟨node, hn, hi.fades⟩
  | step _ hdeed ih =>
    obtain ⟨node', hn', hfades⟩ := ih
    obtain ⟨node'', hn'', hdeals⟩ := hdeed.deals hn'
    exact ⟨node'', hn'', hfades.trans (hdeals.fades hfades.inert)⟩

/-- **When the loop of a node has ended, nothing of it is left that could go on.** -/
lemma inert_of_exited (link : Link) (cs : List Command) (hn : (({ link } : Exchange).run cs).2.nodes[k]? = some node)
    (hexited : node.phase = .exited) : node.Inert := by
  obtain ⟨log, hcourse, -⟩ := run_course link cs
  obtain ⟨log', hdiary, -⟩ := run_proceeds cs (shipshape_empty link)
  have htidy := hcourse.tidy k node hn
  have hclosed := htidy.closed_iff.2 hexited
  have hconsumers := (htidy.retired hclosed).consumers
  have hlively := hdiary.lively (fun k node hn => by simp at hn) k node hn
  have hgranted : node.station.mailbox.granted = [] := (rested_run link cs).granted (station?_node hn)
  have htasks : ∀ e ∈ node.station.mailbox.waiting ++ node.station.mailbox.granted, node.IsTask e := by
    intro e he
    have hmay := hlively.senders e he
    unfold Node.MayWait at hmay
    split at hmay
    · -- consumers that wait have not stopped, and all have
      next i hconsumer =>
      obtain ⟨name, hmem⟩ := (roster_run link cs).senders (station?_node hn) he hconsumer
      rw [Relay.crew, hconsumers] at hmem
      cases hmem
    · next i hcall =>
      rw [hgranted, List.append_nil] at he
      have hnone := hlively.calls (htidy.hungUp hexited) e he
      rw [hcall] at hnone
      cases hnone
    · exact hmay
    · rw [hexited] at hmay
      cases hmay
  refine ⟨hexited, ?_, hclosed, hconsumers, htidy.hungUp hexited, htasks⟩
  rw [← Option.not_isSome_iff_eq_none]
  intro hp
  rw [hlively.running hp] at hexited
  cases hexited

end Exchange

end MessageRelay
