import MessageRelay.Proofs.Node.Pace

/-!
# Shutting a node down

A node that is shut down tells its loop to end, and waits until it has.  When the loop ends, all consumers
of the node stop and its session ends (`Course.tidy`), so that nothing of the node is left at the broker.

The loop ends with its next step.  One thing can keep it from taking a step for good: it waits for a place in
the mailbox, to report a message that could not be sent, and nobody takes anything from there
(`shutdown_ends_unless_loop_waits`).  Consumers that wait for a place are stopped; a loop is not.  It comes to
that when a node is asked for more messages that cannot be sent than there are places
(`shutdown_never_after_burst`).
-/

namespace MessageRelay

/-! ## What is left of a relay -/

namespace Station

variable {link : Link} {p p' : Station × Broker} {e : Option Station.Entry}

/-- A relay has no consumers, and its session has ended. -/
structure Retired (b : Broker) (s : Station) : Prop where
  consumers : s.relay.consumers = []
  ended : b.isOpen s.relay.session = false

/-- No consumer starts at a relay that was closed. -/
lemma Act.consumers_eq_nil (h : Act link p e p') (hclosed : p.1.relay.closed = true)
    (hnil : p.1.relay.consumers = []) : p'.1.relay.consumers = [] := by
  have hfilter : ∀ f : Consumer → Bool, p.1.relay.consumers.filter f = [] := by
    intro f
    rw [hnil]
    rfl
  cases h with
  | post => exact hnil
  | wait => exact hnil
  | serveLast => exact hfilter _
  | stop => exact hfilter _
  | grant => exact hnil
  | report => exact hnil
  | hold => exact hnil
  | called => exact hnil
  | hangUp => exact hnil
  | take => exact hnil
  | discard =>
    rw [discardMailbox_eq]
    exact hfilter _
  | breakStream stream => exact List.map_eq_nil_iff.2 hnil
  | listen hconsume =>
    rw [Relay.startConsumer_of_closed hclosed]
    exact hnil
  | markClosed => exact hnil
  | finishClose =>
    rw [finishClose_eq]
    exact hfilter _
  | close =>
    rw [Station.close, if_pos hclosed]
    exact hnil

/-- A relay that was closed stays so, and nothing of it comes back. -/
lemma Retired.act (h : p.1.Retired p.2) (hact : Act link p e p')
    (hlt : p.1.relay.session < p.2.sessions.length) (hclosed : p.1.relay.closed = true) :
    p'.1.Retired p'.2 where
  consumers := hact.consumers_eq_nil hclosed h.consumers
  ended := by
    rw [hact.same.1]
    exact hact.works.not_isOpen hlt h.ended

/-- When a relay is closed, all its consumers stop and its session ends. -/
lemma retired_close {s : Station} (h : s.relay.closed = false) (link : Link) (b : Broker) :
    (s.close link b).2.1.relay.closed = true ∧ (s.close link b).2.1.Retired (s.close link b).2.2 := by
  rw [Station.close, if_neg (by rw [h]; decide), finishClose_eq]
  exact ⟨rfl, stopped_streams_consumers s.markClosed, Broker.isOpen_close_self _ _⟩

end Station

namespace Exchange

variable {x x' : Exchange} {h : Option Happening} {log : List Happening} {n k : Nat} {node node' : Node}

/-- A node after something has happened: it is at the same station, or something has happened there, or its
loop has ended, or it has just come up. -/
lemma Move.node_cases (hm : Move x h x') (hn' : x'.nodes[k]? = some node') :
    (∃ node, x.nodes[k]? = some node ∧ node'.station = node.station ∧
        (node'.phase = .exited ↔ node.phase = .exited) ∧ (node.IsHungUp → node'.IsHungUp)) ∨
      (∃ node e, x.nodes[k]? = some node ∧
        Station.Act x.link (node.station, x.broker) e (node'.station, x'.broker) ∧
        node'.station.relay.closed = node.station.relay.closed ∧ node'.phase = node.phase ∧
        node'.direct = node.direct) ∨
      (∃ node, x.nodes[k]? = some node ∧ node.phase ≠ .exited ∧ node.IsHungUp ∧
        (node', x'.broker) = node.exit x.link x.broker) ∨
      (Fresh x'.broker node'.station ∧ node'.station.relay.closed = false ∧ node'.phase = .unstarted) := by
  have hsame : x.nodes[k]? = some node' → ∃ node, x.nodes[k]? = some node ∧ node'.station = node.station ∧
      (node'.phase = .exited ↔ node.phase = .exited) ∧ (node.IsHungUp → node'.IsHungUp) :=
    fun hn => ⟨node', hn, rfl, Iff.rfl, id⟩
  cases hm with
  | @station seat s s' b e hs hact hclosed =>
    rw [place_nodes] at hn'
    obtain ⟨node, hn, rfl⟩ := Option.map_eq_some_iff.1 hn'
    by_cases hseat : seat = .node k
    · subst hseat
      obtain ⟨node₀, hn₀, rfl⟩ := Option.map_eq_some_iff.1 hs
      rw [hn, Option.some.injEq] at hn₀
      subst hn₀
      simp only [if_true]
      exact Or.inr (Or.inl ⟨node, e, hn, by rwa [place_broker], hclosed k rfl, rfl, rfl⟩)
    · simp only [if_neg hseat]
      exact Or.inl ⟨node, hn, rfl, Iff.rfl, id⟩
  | publish => exact Or.inl (hsame hn')
  | ask hn =>
    rcases setNode_nodes_cases hn' with ⟨rfl, rfl⟩ | ⟨-, hold⟩
    · exact Or.inl ⟨_, hn, rfl, Iff.rfl, id⟩
    · exact Or.inl (hsame hold)
  | send hn =>
    rw [noteUnderway_nodes] at hn'
    rcases setNode_nodes_cases hn' with ⟨rfl, rfl⟩ | ⟨-, hold⟩
    · exact Or.inl ⟨_, hn, rfl, Iff.rfl, id⟩
    · exact Or.inl (hsame hold)
  | arrive hn =>
    rcases setNode_nodes_cases hn' with ⟨rfl, rfl⟩ | ⟨-, hold⟩
    · exact Or.inl ⟨_, hn, rfl, Iff.rfl, id⟩
    · exact Or.inl (hsame hold)
  | exit hn hphase hdirect =>
    rcases setNode_nodes_cases hn' with ⟨rfl, rfl⟩ | ⟨-, hold⟩
    · exact Or.inr (Or.inr (Or.inl ⟨_, hn, hphase, hdirect, rfl⟩))
    · exact Or.inl (hsame hold)
  | keep hn hstation hdirect hpublication hphase =>
    rcases setNode_nodes_cases hn' with ⟨rfl, rfl⟩ | ⟨-, hold⟩
    · exact Or.inl ⟨_, hn, hstation, hphase, hdirect⟩
    · exact Or.inl (hsame hold)
  | enrolRelay => exact Or.inl (hsame hn')
  | enrolNode hsession config transports direct =>
    rw [List.getElem?_append] at hn'
    split at hn'
    · exact Or.inl (hsame hn')
    · rw [List.mem_singleton.1 (List.mem_of_getElem? hn')]
      exact Or.inr (Or.inr (Or.inr ⟨⟨hsession, rfl, rfl, rfl, rfl⟩, rfl, rfl⟩))
  | drop => exact Or.inl (hsame hn')
  | broker => exact Or.inl (hsame hn')
  | inject => exact Or.inl (hsame hn')
  | tick => exact Or.inl (hsame hn')

/-- The relays of a node are closed when its loop has ended, and then nothing of them is left. -/
structure Tidy (b : Broker) (node : Node) : Prop where
  session_lt : node.station.relay.session < b.sessions.length
  hungUp : node.phase = .exited → node.IsHungUp
  closed_iff : node.station.relay.closed = true ↔ node.phase = .exited
  retired : node.station.relay.closed = true → node.station.Retired b

lemma Move.tidy (hm : Move x h x') (hx : ∀ (k : Nat) node, x.nodes[k]? = some node → Tidy x.broker node)
    (hn' : x'.nodes[k]? = some node') : Tidy x'.broker node' := by
  have hwider : x.broker.sessions.length ≤ x'.broker.sessions.length := (Desk.Works.wider hm.works).2
  rcases hm.node_cases hn' with ⟨node, hn, hstation, hphase, hdirect⟩ |
    ⟨node, e, hn, hact, hclosed, hphase, hdirect⟩ | ⟨node, hn, hphase, hdirect, hexit⟩ | ⟨hfresh, hopen, hphase⟩
  · have htidy := hx k node hn
    refine ⟨?_, fun hexited => hdirect (htidy.hungUp (hphase.1 hexited)), ?_, fun hclosed => ?_⟩
    · rw [hstation]
      exact Nat.lt_of_lt_of_le htidy.session_lt hwider
    · rw [hstation, hphase, htidy.closed_iff]
    · rw [hstation] at hclosed ⊢
      have hretired := htidy.retired hclosed
      exact ⟨hretired.consumers, hm.works.not_isOpen htidy.session_lt hretired.ended⟩
  · have htidy := hx k node hn
    refine ⟨?_, fun hexited => ?_, ?_, fun hclosed' => ?_⟩
    · rw [hact.same.1]
      exact Nat.lt_of_lt_of_le htidy.session_lt hwider
    · exact (htidy.hungUp (hphase.symm.trans hexited)).of_ends (by rw [hdirect])
    · rw [hclosed, hphase, htidy.closed_iff]
    · rw [hclosed] at hclosed'
      exact (htidy.retired hclosed').act hact htidy.session_lt hclosed'
  · have htidy := hx k node hn
    have hopen : node.station.relay.closed = false := by
      rw [← Bool.not_eq_true, htidy.closed_iff]
      exact hphase
    have hact : Station.Act x.link (node.station, x.broker) none (node.station.close x.link x.broker).2 :=
      .close
    obtain ⟨hclosed, hretired⟩ := Station.retired_close hopen x.link x.broker
    obtain ⟨rfl, hbroker⟩ := Prod.mk.inj hexit
    rw [hbroker] at hwider ⊢
    refine ⟨?_, fun _ => hdirect, iff_of_true hclosed rfl, fun _ => hretired⟩
    have hsession : (node.station.close x.link x.broker).2.1.relay.session = node.station.relay.session :=
      hact.same.1
    exact hsession ▸ Nat.lt_of_lt_of_le htidy.session_lt hwider
  · refine ⟨hfresh.session_lt, fun hexited => ?_, ?_, fun hclosed => ?_⟩
    · rw [hphase] at hexited
      cases hexited
    · rw [hopen, hphase]
      exact iff_of_false (by decide) (by decide)
    · rw [hopen] at hclosed
      cases hclosed

/-- What holds of the nodes after one thing has happened holds in a whole course. -/
lemma Course.tidy {link : Link} (hc : Course { link } log x) :
    ∀ (n : Nat) node, x.nodes[n]? = some node → Tidy x.broker node := by
  induction hc with
  | start => exact fun n node hn => by simp at hn
  | step _ hmove ih => exact fun n node hn => hmove.tidy ih hn

/-- The loop of a node has ended and its direct relay, if it has one, was released.  Nothing of the node is
left at the broker: its session has ended, it has no consumer on any queue, and no message is kept for it. -/
def Released (x : Exchange) (n : Nat) : Prop :=
  ∃ node, x.nodes[n]? = some node ∧ node.phase = .exited ∧ node.IsHungUp ∧
    node.station.relay.consumers = [] ∧
    x.broker.isOpen node.station.relay.session = false ∧
    ∀ name q, x.broker.queue? name = some q →
      (∀ slot ∈ q.slots, slot.session ≠ node.station.relay.session) ∧
      ∀ u ∈ q.unacked, u.session ≠ node.station.relay.session

lemma Course.released {link : Link} (hc : Course { link } log x) (hn : x.nodes[n]? = some node)
    (hexited : node.phase = .exited) : x.Released n := by
  have htidy := hc.tidy n node hn
  have hretired := htidy.retired (htidy.closed_iff.2 hexited)
  obtain ⟨owner, hregular, -⟩ := Desk.Works.regular (Desk.regular_empty fun _ => 0) hc.works
  refine ⟨node, hn, hexited, htidy.hungUp hexited, hretired.consumers, hretired.ended, fun name q hq => ?_⟩
  -- only sessions that are open have consumers and unsettled messages
  have hwithin := hregular.attended name hq
  have hne : ∀ session, x.broker.isOpen session = true → session ≠ node.station.relay.session := by
    rintro session hopen rfl
    rw [hretired.ended] at hopen
    cases hopen
  exact ⟨fun slot hslot => hne _ (hwithin.slots slot hslot), fun u hu => hne _ (hwithin.unacked u hu)⟩

end Exchange

/-! ## The signal to end -/

namespace Node

variable {node : Node}

lemma signal_doomed (link : Link) (node : Node) (b : Broker) : (node.signal link b).1.Doomed := by
  unfold signal
  split
  · exact Or.inl rfl
  · next hphase => exact Or.inr ⟨hphase, rfl⟩
  · next hphase => exact Or.inl hphase

lemma signal_ending (link : Link) (node : Node) (hblocked : node.isBlocked = false)
    (hp : node.publication = none) (b : Broker) : (node.signal link b).1.Ending := by
  unfold signal
  split
  · exact Or.inl rfl
  · next hphase => exact Or.inr ⟨hphase, rfl, hblocked, hp⟩
  · next hphase => exact Or.inl hphase

lemma Stuck.signal (hs : node.Stuck) (link : Link) (b : Broker) : (node.signal link b).1.Stuck := by
  have hsignal : (node.signal link b).1 = { node with signalled := true } := by
    simp [Node.signal, hs.running]
  rw [hsignal]
  exact ⟨hs.running, hs.blocked, hs.granted⟩

end Node

namespace Exchange

variable {x x' : Exchange} {n : Nat} {node : Node}

lemma hasExited_iff : x.hasExited n = true ↔ ∃ node, x.nodes[n]? = some node ∧ node.phase = .exited := by
  simp [hasExited, Node.hasExited, Option.any_eq_true]

lemma told_eq (hn : x.nodes[n]? = some node) (hstate : node.state ≠ .shuttingDown) :
    x.told n = x.withNode n (({ node with state := .shuttingDown } : Node).signal x.link x.broker) := by
  rw [told, onNode_eq hn, Node.shutdown, if_neg hstate]

lemma told_nodes (hn : x.nodes[n]? = some node) (hstate : node.state ≠ .shuttingDown) :
    (x.told n).nodes[n]? = some (({ node with state := .shuttingDown } : Node).signal x.link x.broker).1 := by
  rw [told_eq hn hstate]
  exact withNode_nodes_self hn _

/-- The exchange after somebody has waited until the loop of a node has ended. -/
def awaited (x : Exchange) (n : Nat) : Exchange :=
  x.wait (·.hasExited n)

/-- Whoever shuts a node down waits until its loop has ended. -/
lemma shutdown_eq (hn : x.nodes[n]? = some node) (hstate : node.state ≠ .shuttingDown) :
    x.shutdown n = (if ((x.told n).awaited n).hasExited n then .done else .never, (x.told n).awaited n) := by
  have hnot : ¬x.isShuttingDown n = true := by
    simp [isShuttingDown, hn, hstate]
  rw [shutdown, if_neg hnot, told, awaited]

lemma awaited_halted (hn : x.nodes[n]? = some node) (hd : node.Doomed) : (x.awaited n).Halted n := by
  refine waitFor_induction (P := fun y => y.Halted n) _ _ (fun y clock hy => ?_) (quiesce_halted hn hd)
  obtain ⟨node₁, hn₁, hd₁, -⟩ := hy
  exact quiesce_halted (x := { y with clock }) hn₁ hd₁

/-- A loop that waits for a place waits as long as nobody takes anything from the mailbox. -/
lemma Jammed.awaited (h : x.Jammed n) : (x.awaited n).Jammed n := by
  refine waitFor_induction (P := fun y => y.Jammed n) _ _ (fun y clock hy => ?_) (h.goes (quiesce_goes x))
  have hclock : ({ y with clock } : Exchange).Jammed n := hy
  exact hclock.goes (quiesce_goes _)

/-- A loop that was told to end and that nothing keeps from it has ended when everything has gone on. -/
lemma awaited_of_ending (hn : x.nodes[n]? = some node) (he : node.Ending) :
    (x.awaited n).hasExited n = true := by
  have hexited : x.quiesce.hasExited n = true := by
    obtain ⟨node₁, hn₁, hgoes⟩ := (quiesce_goes x).node hn
    obtain ⟨node₂, hn₂, -, hrun⟩ := quiesce_halted hn he.doomed
    rw [hn₁, Option.some.injEq] at hn₂
    subst hn₂
    exact hasExited_iff.2 ⟨node₁, hn₁, (hgoes.ending he).exited hrun⟩
  have hawaited : x.awaited n = x.quiesce := by
    simp only [awaited, wait, waitFor, hexited, if_true]
  rw [hawaited, hexited]

/-- A loop that has not ended has nothing on its way any more. -/
lemma awaited_settles (hx : x.Shipshape) :
    (x.awaited n).hasExited n = true ∨ (x.awaited n).nextDue? = none :=
  wait_settles (·.hasExited n) hx

lemma awaited_onwards (n : Nat) (hx : x.Shipshape) : Onwards x (x.awaited n) :=
  wait_onwards (·.hasExited n) hx

lemma run_concat (x : Exchange) (cs : List Command) (c : Command) :
    (x.run (cs ++ [c])).2 = ((x.run cs).2.act c).2.quiesce := by
  rw [run_append, run_cons, step_eq, run]

/-- After a run, everybody who was given a place has used it. -/
lemma run_quiet (link : Link) (cs : List Command)
    (hn : n < (({ link } : Exchange).run cs).2.nodes.length) : (({ link } : Exchange).run cs).2.Quiet n := by
  rcases List.eq_nil_or_concat cs with rfl | ⟨init, c, rfl⟩
  · simp [run] at hn
  · rw [List.concat_eq_append, run_concat] at hn ⊢
    rw [(quiesce_goes _).length_eq] at hn
    exact quiesce_quiet hn

end Exchange

/-! ## A loop with more to report than there are places -/

namespace Mailbox

lemma room_put (m : Mailbox) (event : Event) : (m.put event).room = m.room - 1 := by
  simp only [room, put, List.length_append, List.length_singleton]
  omega

/-- Reports that nobody waits with take up the places that are left. -/
lemma foldl_tryPost {m : Mailbox} (hkept : m.kept = true) (reason : String) (transports : List Transport) :
    ∃ m', transports.foldl (fun m t => m.tryPost (.sendFailed t reason)) m = m' ∧ m'.kept = true ∧
      m'.granted = m.granted ∧ m'.room = m.room - transports.length := by
  induction transports generalizing m with
  | nil => exact ⟨m, rfl, hkept, rfl, rfl⟩
  | cons t rest ih =>
    rw [List.foldl_cons]
    by_cases hroom : 0 < m.room
    · have hpost : m.tryPost (.sendFailed t reason) = m.put (.sendFailed t reason) := by
        simp [tryPost, hkept, hroom]
      obtain ⟨m', heq, hkept', hgranted', hroom'⟩ := ih (m := m.put (.sendFailed t reason)) hkept
      rw [room_put] at hroom'
      exact ⟨m', by rw [hpost, heq], hkept', hgranted', by rw [hroom', List.length_cons]; omega⟩
    · have hpost : m.tryPost (.sendFailed t reason) = m := by
        simp [tryPost, hroom]
      obtain ⟨m', heq, hkept', hgranted', hroom'⟩ := ih hkept
      exact ⟨m', by rw [hpost, heq], hkept', hgranted', by rw [hroom', List.length_cons]; omega⟩

/-- No place gets free by what others do. -/
lemma Spares.room_le {m m' : Mailbox} (h : Spares m m') (hgranted : m.granted = []) : m'.room ≤ m.room := by
  have hnone : m'.granted = [] := List.sublist_nil.1 (hgranted ▸ h.granted)
  have hposted := h.posted
  simp only [room, hgranted, hnone, h.capacity, List.length_nil]
  omega

end Mailbox

/-- A message that no relay can send. -/
def Unsendable (user text : String) : Prop :=
  ∀ relay : Relay, ∃ e, relay.payloadOf user text = .error e

lemma unsendable_of_blank {user : String} (h : Text.isBlank user = true) (text : String) :
    Unsendable user text := by
  intro relay
  unfold Relay.payloadOf
  split
  · exact ⟨_, rfl⟩
  · rw [Envelope.make_of_blank h]
    exact ⟨_, rfl⟩

namespace Node

variable {link : Link} {now : Nat} {node node' : Node} {user text : String}

/-- The loop has nothing to do but messages that cannot be sent, and somebody may still want to hear about
them. -/
structure Futile (node : Node) : Prop where
  running : node.phase = .running
  unsignalled : node.signalled = false
  idle : node.publication = none
  kept : node.station.mailbox.kept = true
  granted : node.station.mailbox.granted = []
  transports : node.transports ≠ []
  commands : ∀ c ∈ node.commands, ∃ user text, c = .send user text ∧ Unsendable user text

/-- The loop has more messages that cannot be sent than there are places to report them. -/
structure Crowded (node : Node) : Prop extends Futile node where
  room : node.station.mailbox.room < node.commands.length

/-- Each message that a node is asked to send takes up room: it is one more command, or its refusal takes a
place. -/
lemma Futile.sendMessage (h : node.Futile) (hbad : Unsendable user text) {k : Nat}
    (hroom : node.station.mailbox.room < node.commands.length + (k + 1)) :
    (node.sendMessage user text).Futile ∧ (node.sendMessage user text).state = node.state ∧
      (node.sendMessage user text).station.mailbox.room <
        (node.sendMessage user text).commands.length + k := by
  unfold Node.sendMessage
  split
  · next reason hreason =>
    have hfull : 256 ≤ node.commands.length := by
      by_contra hfree
      simp [refusal?, hasExited, hasRoom, maxCommands, h.running, Nat.lt_of_not_le hfree] at hreason
    obtain ⟨m, heq, hkept, hgranted, hless⟩ := Mailbox.foldl_tryPost h.kept reason node.transports
    have hpos : 0 < node.transports.length := List.length_pos_iff.2 h.transports
    rw [Node.reportRefused, heq]
    refine ⟨⟨h.running, h.unsignalled, h.idle, hkept, hgranted.trans h.granted, h.transports, h.commands⟩,
      rfl, ?_⟩
    simp only
    omega
  · refine ⟨⟨h.running, h.unsignalled, h.idle, h.kept, h.granted, h.transports, ?_⟩, rfl, ?_⟩
    · intro c hc
      rcases List.mem_append.1 hc with hold | hnew
      · exact h.commands c hold
      · exact ⟨user, text, List.mem_singleton.1 hnew, hbad⟩
    · simp only [enqueue, List.length_append, List.length_singleton]
      omega

lemma Futile.burst (calls : List NodeCall) (h : node.Futile)
    (hbad : ∀ call ∈ calls, ∃ user text, call = .send user text ∧ Unsendable user text)
    (hroom : node.station.mailbox.room < node.commands.length + calls.length) :
    (node.burst calls).2.Crowded ∧ (node.burst calls).2.state = node.state := by
  induction calls generalizing node with
  | nil => exact ⟨⟨h, hroom⟩, rfl⟩
  | cons call rest ih =>
    obtain ⟨user, text, rfl, hunsendable⟩ := hbad call List.mem_cons_self
    obtain ⟨hfirst, hstate, hroom₁⟩ := h.sendMessage hunsendable hroom
    obtain ⟨hcrowded, hstate₁⟩ := ih hfirst (fun c hc => hbad c (List.mem_cons_of_mem _ hc)) hroom₁
    exact ⟨hcrowded, hstate₁.trans hstate⟩

lemma Crowded.stuck (h : node.Crowded) (hrun : node.canRun = false) : node.Stuck :=
  ⟨h.running, isBlocked_of_not_canRun h.running h.idle hrun, h.granted⟩

/-- The loop reports the next message that cannot be sent, or waits for a place to do so. -/
lemma Crowded.stepLoop (link : Link) (now : Nat) (h : node.Crowded) (b : Broker) :
    (node.stepLoop link now b).1.Stuck ∨ (node.stepLoop link now b).1.Crowded ∧
      (node.stepLoop link now b).1.station.mailbox.room < node.station.mailbox.room := by
  cases hrun : node.canRun with
  | false =>
    rw [stepLoop_of_not_canRun hrun]
    exact Or.inl (h.stuck hrun)
  | true =>
    have hroom := h.room
    cases hcommands : node.commands with
    | nil => simp [hcommands] at hroom
    | cons c rest =>
      obtain ⟨user, text, rfl, hbad⟩ := h.commands c (by simp [hcommands])
      obtain ⟨e, he⟩ := hbad node.station.relay
      have hstep : (node.stepLoop link now b).1 =
          (({ node with commands := rest } : Node).count user text).conclude (.error e) := by
        simp [Node.stepLoop, hrun, h.unsignalled, hcommands, handle, deliver, he]
      have hrest : ∀ c ∈ rest, ∃ user text, c = .send user text ∧ Unsendable user text :=
        fun c hc => h.commands c (by simp [hcommands, hc])
      rw [hstep]
      cases hoffer : node.station.mailbox.offer .loop (.sendFailed .queue e.message) with
      | posted m =>
        obtain ⟨-, hfree, rfl⟩ := Mailbox.offer_eq_posted hoffer
        simp only [Node.conclude, Node.count, hoffer, Mailbox.room_put]
        refine Or.inr ⟨⟨⟨h.running, h.unsignalled, h.idle, h.kept, h.granted, h.transports, hrest⟩, ?_⟩, ?_⟩
        · rw [hcommands, List.length_cons] at hroom
          simp only [Mailbox.room_put]
          omega
        · omega
      | waits m =>
        obtain ⟨-, -, rfl⟩ := Mailbox.offer_eq_waits hoffer
        simp only [Node.conclude, Node.count, hoffer]
        exact Or.inl ⟨h.running, by simp [isBlocked, Mailbox.holds], h.granted⟩
      | refused =>
        have hgone := Mailbox.offer_eq_refused hoffer
        rw [h.kept] at hgone
        cases hgone

lemma Goes.crowded (h : Goes link now node node') (hc : node.Crowded) : node'.Crowded ∨ node'.Stuck := by
  cases h with
  | station h =>
    refine Or.inl ⟨⟨hc.running, hc.unsignalled, hc.idle, h.kept.trans hc.kept, ?_, hc.transports,
      hc.commands⟩, ?_⟩
    · exact List.sublist_nil.1 (hc.granted ▸ h.granted)
    · exact Nat.lt_of_le_of_lt (h.room_le hc.granted) hc.room
  | grant h =>
    rw [hc.granted] at h
    cases h
  | loop b =>
    rcases hc.stepLoop link now b with hstuck | ⟨hcrowded, -⟩
    · exact Or.inr hstuck
    · exact Or.inl hcrowded
  | arrive b =>
    rw [arrive_of_none hc.idle]
    exact Or.inl hc

lemma GoesOn.crowded (h : GoesOn link now node node') (hc : node.Crowded ∨ node.Stuck) :
    node'.Crowded ∨ node'.Stuck := by
  induction h with
  | refl => exact hc
  | tail _ hlast ih =>
    rcases ih with hcrowded | hstuck
    · exact hlast.crowded hcrowded
    · exact Or.inr (hlast.stuck hstuck)

lemma arrive_state (node : Node) (b : Broker) : (node.arrive link b).1.state = node.state := by
  cases hp : node.publication with
  | none => rw [arrive_of_none hp]
  | some p =>
    obtain ⟨s, hs⟩ := arrive_eq link hp b
    rw [hs]

lemma leave_state (node : Node) (b : Broker) : (node.leave link b).1.state = node.state := by
  obtain ⟨direct, m, heq, -⟩ := node.hangUp_eq
  rw [leave, heq]
  rfl

lemma stepLoop_state (node : Node) (b : Broker) : (node.stepLoop link now b).1.state = node.state := by
  unfold stepLoop
  split
  · rfl
  · split
    · exact leave_state node b
    · split
      · rfl
      · next c rest _ =>
        cases c with
        | send user text =>
          simp only [handle, deliver]
          split
          · next e _ =>
            obtain ⟨s, hs⟩ := conclude_eq (({ node with commands := rest } : Node).count user text) (.error e)
            rw [hs]
            rfl
          · split
            · rw [arrive_state]
              rfl
            · rfl
        | status => rfl
        | shutdown => exact leave_state { node with commands := rest } b

/-- A node goes on being shut down, or not, until somebody asks for something. -/
lemma Goes.state_eq (h : Goes link now node node') : node'.state = node.state := by
  cases h with
  | station h => rfl
  | grant h => rfl
  | loop b => exact stepLoop_state node b
  | arrive b => exact arrive_state node b

lemma GoesOn.state_eq (h : GoesOn link now node node') : node'.state = node.state := by
  induction h with
  | refl => rfl
  | tail _ hlast ih => exact hlast.state_eq.trans ih

end Node

namespace Exchange

variable {x x' : Exchange} {n : Nat} {node : Node} {calls : List NodeCall}

/-- A loop that has more to report than there are places has to wait in the end. -/
lemma runLoop_jammed {steps : Nat} (hn : x.nodes[n]? = some node) (hc : node.Crowded)
    (hsteps : node.station.mailbox.room < steps) : (x.runLoop n steps).Jammed n := by
  induction steps generalizing x node with
  | zero => omega
  | succ steps ih =>
    have hfirst : (x.onNode n (Node.stepLoop x.link x.clock)).nodes[n]? =
        some (node.stepLoop x.link x.clock x.broker).1 := by
      rw [onNode_eq hn]
      exact withNode_nodes_self hn _
    rw [runLoop]
    rcases hc.stepLoop x.link x.clock x.broker with hstuck | ⟨hcrowded, hless⟩
    · have hjammed : (x.onNode n (Node.stepLoop x.link x.clock)).Jammed n := ⟨_, hfirst, hstuck⟩
      exact hjammed.goes (runLoop_goes n steps _)
    · exact ih hfirst hcrowded (by omega)

lemma finishLoop_jammed (hn : x.nodes[n]? = some node) (hc : node.Crowded ∨ node.Stuck) :
    (x.finishLoop n).Jammed n := by
  rcases hc with hcrowded | hstuck
  · have hjammed := runLoop_jammed hn hcrowded (Nat.lt_succ_of_lt hcrowded.room)
    simp only [finishLoop, hn]
    exact hjammed.goes (noteUnderway_goes _ n)
  · have hjammed : x.Jammed n := ⟨node, hn, hstuck⟩
    exact hjammed.goes (finishLoop_goes x n)

lemma quiesce_jammed (hn : x.nodes[n]? = some node) (hc : node.Crowded) : x.quiesce.Jammed n := by
  obtain ⟨node₁, hn₁, hgoes₁⟩ := ((resumed_goes x).trans (arrived_goes x)).node hn
  have hlt : n < x.arrived.nodes.length := (List.getElem?_eq_some_iff.1 hn₁).1
  -- the loops go on one after the other; this one when those before it have
  obtain ⟨before, after, hrange⟩ := List.append_of_mem (List.mem_range.2 hlt)
  have hlooped : x.looped = after.foldl finishLoop ((before.foldl finishLoop x.arrived).finishLoop n) := by
    rw [looped, hrange, List.foldl_append, List.foldl_cons]
  obtain ⟨node₂, hn₂, hgoes₂⟩ := (Goes.foldl finishLoop_goes before x.arrived).node hn₁
  have hjammed := finishLoop_jammed hn₂ (hgoes₂.crowded (hgoes₁.crowded (Or.inl hc)))
  rw [quiesce_eq_runConsumers, hlooped]
  exact hjammed.goes (((Goes.foldl finishLoop_goes after _).trans (beginTasks_goes _)).trans (runConsumers_goes _))

/-! ## The result -/

/-- The loop of a node waits for a place in the mailbox. -/
def LoopWaits (x : Exchange) (n : Nat) : Prop :=
  ∃ node, x.nodes[n]? = some node ∧ node.phase = .running ∧ node.isBlocked = true

/-- A loop that has not ended although it was told to, and although no message is on its way, waits for a
place. -/
lemma Halted.loopWaits (hx : x.Shipshape) (h : x.Halted n) (hdue : x.nextDue? = none)
    (hnot : x.hasExited n = false) : x.LoopWaits n := by
  obtain ⟨node, hn, hd, hrun⟩ := h
  have hp := publication_of_nextDue? hx hdue hn
  have hphase : node.phase ≠ .exited := by
    intro hexited
    rw [hasExited_iff.2 ⟨node, hn, hexited⟩] at hnot
    cases hnot
  obtain ⟨hrunning, -⟩ := hd.resolve_left hphase
  exact ⟨node, hn, hrunning, Node.isBlocked_of_not_canRun hrunning hp hrun⟩

/-- The answer to a node that is shut down tells whether its loop has ended. -/
lemma shutdown_fst_eq_done (hn : x.nodes[n]? = some node) (hstate : node.state ≠ .shuttingDown)
    (h : ((x.told n).awaited n).hasExited n = true) : (x.shutdown n).1 = .done := by
  simp only [shutdown_eq hn hstate, h, if_true]

lemma shutdown_fst_eq_never (hn : x.nodes[n]? = some node) (hstate : node.state ≠ .shuttingDown)
    (h : ((x.told n).awaited n).hasExited n = false) : (x.shutdown n).1 = .never := by
  simp only [shutdown_eq hn hstate, h, Bool.false_eq_true, if_false]

/-- The answer never comes to somebody who shuts a node down whose loop waits for a place. -/
lemma shutdown_of_stuck (hs : node.Stuck) (hn : x.nodes[n]? = some node) (hstate : node.state ≠ .shuttingDown) :
    (x.shutdown n).1 = .never ∧ (x.shutdown n).2.LoopWaits n := by
  have hstuck : ({ node with state := .shuttingDown } : Node).Stuck := ⟨hs.running, hs.blocked, hs.granted⟩
  have htold : (x.told n).Jammed n := ⟨_, told_nodes hn hstate, hstuck.signal x.link x.broker⟩
  obtain ⟨node', hn', hstuck'⟩ := htold.awaited
  have hnot : ((x.told n).awaited n).hasExited n = false := by
    rw [← Bool.not_eq_true, hasExited_iff]
    rintro ⟨node'', hn'', hexited⟩
    rw [hn', Option.some.injEq] at hn''
    subst hn''
    rw [hstuck'.running] at hexited
    cases hexited
  refine ⟨shutdown_fst_eq_never hn hstate hnot, ?_⟩
  rw [shutdown_eq hn hstate]
  exact ⟨node', hn', hstuck'.running, hstuck'.blocked⟩

/-- **A node with more to report than there are places never shuts down.**  Messages that cannot be sent are
reported, and if they are more than the mailbox has places then the loop waits, and goes on waiting when it is
told to end. -/
theorem shutdown_never_after_burst (hn : x.nodes[n]? = some node) (hf : node.Futile)
    (hstate : node.state ≠ .shuttingDown)
    (hbad : ∀ call ∈ calls, ∃ user text, call = .send user text ∧ Unsendable user text)
    (hroom : node.station.mailbox.room < node.commands.length + calls.length) :
    ((x.act (.burst n calls)).2.quiesce.shutdown n).1 = .never ∧
      ((x.act (.burst n calls)).2.quiesce.shutdown n).2.LoopWaits n := by
  have hasked : (x.act (.burst n calls)).2.nodes[n]? = some (node.burst calls).2 := by
    simp only [act, Exchange.burst, hn, Option.map_some]
    exact setNode_nodes_self hn _
  obtain ⟨hcrowded, hsame⟩ := hf.burst calls hbad hroom
  obtain ⟨node', hn', hstuck⟩ := quiesce_jammed hasked hcrowded
  obtain ⟨node₁, hn₁, hgoes⟩ := (quiesce_goes _).node hasked
  rw [hn', Option.some.injEq] at hn₁
  subst hn₁
  refine shutdown_of_stuck hstuck hn' ?_
  rwa [hgoes.state_eq, hsame]

/-- **A node shuts down, unless its loop waits for a place.**  After any run, a node that was not shut down
before is told to.  The answer comes, and then nothing of the node is left; or it never comes, and then the
loop waits for a place in the mailbox.  It comes if the loop does not wait for a place and has no message
on its way; it does not come if the loop waits for a place already. -/
theorem shutdown_ends_unless_loop_waits (link : Link) (cs : List Command) {x : Exchange} {n : Nat}
    {node : Node} (hx : x = (({ link } : Exchange).run cs).2) (hn : x.nodes[n]? = some node)
    (hstate : node.state ≠ .shuttingDown) :
    ((x.shutdown n).1 = .done ∧ (x.shutdown n).2.Released n ∨
      (x.shutdown n).1 = .never ∧ (x.shutdown n).2.LoopWaits n) ∧
    (node.isBlocked = false → node.publication = none → (x.shutdown n).1 = .done) ∧
    (node.phase = .running → node.isBlocked = true → (x.shutdown n).1 = .never) := by
  obtain ⟨log, hcourse, -⟩ := run_course link cs
  rw [← hx] at hcourse
  have hshape := hcourse.shipshape (shipshape_empty link)
  have htold := told_onwards x n
  have hshape₁ := htold.shipshape hshape
  have hwait := awaited_onwards n hshape₁
  have hsecond : (x.shutdown n).2 = (x.told n).awaited n := by rw [shutdown_eq hn hstate]
  refine ⟨?_, fun hblocked hp => ?_, fun hphase hblocked => ?_⟩
  · rw [hsecond]
    cases hexited : ((x.told n).awaited n).hasExited n with
    | true =>
      obtain ⟨log', hcourse', -⟩ := htold.trans hwait
      obtain ⟨node', hn', hphase'⟩ := hasExited_iff.1 hexited
      exact Or.inl ⟨shutdown_fst_eq_done hn hstate hexited, (hcourse.trans hcourse').released hn' hphase'⟩
    | false =>
      have hhalted := awaited_halted (told_nodes hn hstate) (Node.signal_doomed _ _ _)
      have hdue := (awaited_settles (n := n) hshape₁).resolve_left (by simp [hexited])
      exact Or.inr ⟨shutdown_fst_eq_never hn hstate hexited,
        hhalted.loopWaits (hwait.shipshape hshape₁) hdue hexited⟩
  · have hending : (({ node with state := .shuttingDown } : Node).signal x.link x.broker).1.Ending :=
      Node.signal_ending x.link { node with state := .shuttingDown } hblocked hp x.broker
    exact shutdown_fst_eq_done hn hstate (awaited_of_ending (told_nodes hn hstate) hending)
  · have hlt : n < x.nodes.length := (List.getElem?_eq_some_iff.1 hn).1
    rw [hx] at hlt
    obtain ⟨node₀, hn₀, hgranted⟩ := run_quiet link cs hlt
    rw [← hx, hn, Option.some.injEq] at hn₀
    subst hn₀
    exact (shutdown_of_stuck ⟨hphase, hblocked, hgranted⟩ hn hstate).1

/-- A node with a queue relay comes up and is started. -/
def startedRoom : List Command :=
  [.newNode { queue := some { brokerUri := "memory://", queueName := "room" } }, .start 0]

lemma startedRoom_node : ∃ node, (({} : Exchange).run startedRoom).2.nodes[0]? = some node ∧
    node.state = .running ∧ node.phase = .running ∧ node.signalled = false ∧ node.publication = none ∧
    node.station.mailbox = { capacity := 1024 } ∧ node.transports = [.queue] ∧ node.commands = [] :=
  ⟨_, rfl, rfl, rfl, rfl, rfl, rfl, rfl, rfl⟩

/-- A node with both relays comes up and is started. -/
def startedPair : List Command :=
  [.newNode { direct := some {}, queue := some { brokerUri := "memory://", queueName := "room" } } Direct.online,
    .start 0]

lemma startedPair_node : ∃ node, (({} : Exchange).run startedPair).2.nodes[0]? = some node ∧
    node.state = .running ∧ node.direct.isSome = true ∧ node.publication = none ∧
    node.station.mailbox = { capacity := 1024 } ∧ node.transports = [.direct, .queue] :=
  ⟨_, rfl, rfl, rfl, rfl, rfl, rfl⟩

theorem shutdown_ends_unless_loop_waits_startedRoom :
    (((({} : Exchange).run startedRoom).2.shutdown 0).1 = .done ∧
      ((({} : Exchange).run startedRoom).2.shutdown 0).2.Released 0) ∧
    ((({} : Exchange).run startedPair).2.shutdown 0).1 = .done ∧
      ((({} : Exchange).run startedPair).2.shutdown 0).2.Released 0 := by
  have hboth : ∀ cs node, (({} : Exchange).run cs).2.nodes[0]? = some node → node.state = .running →
      node.publication = none → node.station.mailbox = { capacity := 1024 } →
      ((({} : Exchange).run cs).2.shutdown 0).1 = .done ∧
        ((({} : Exchange).run cs).2.shutdown 0).2.Released 0 := by
    intro cs node hn hstate hp hmailbox
    have hblocked : node.isBlocked = false := by
      rw [Node.isBlocked, hmailbox]
      rfl
    obtain ⟨hcases, hends, -⟩ := shutdown_ends_unless_loop_waits {} cs rfl hn (by rw [hstate]; decide)
    have hdone := hends hblocked hp
    refine hcases.resolve_right ?_
    rintro ⟨hnever, -⟩
    rw [hdone] at hnever
    cases hnever
  obtain ⟨room, hroom, hstate, -, -, hp, hmailbox, -, -⟩ := startedRoom_node
  obtain ⟨pair, hpair, hstate', -, hp', hmailbox', -⟩ := startedPair_node
  exact ⟨hboth startedRoom room hroom hstate hp hmailbox, hboth startedPair pair hpair hstate' hp' hmailbox'⟩

/-- The node is asked to send one message more than its mailbox has places, and none of them has a sender. -/
def floodedRoom : List Command :=
  startedRoom ++ [.burst 0 (List.replicate 1025 (.send "" "x"))]

theorem shutdown_never_floodedRoom :
    ((({} : Exchange).run floodedRoom).2.shutdown 0).1 = .never ∧
      ((({} : Exchange).run floodedRoom).2.shutdown 0).2.LoopWaits 0 := by
  obtain ⟨node, hn, hstate, hphase, hsignalled, hp, hmailbox, htransports, hcommands⟩ := startedRoom_node
  have hfutile : node.Futile := by
    refine ⟨hphase, hsignalled, hp, ?_, ?_, ?_, ?_⟩
    · rw [hmailbox]
    · rw [hmailbox]
    · rw [htransports]
      decide
    · rw [hcommands]
      exact fun c hc => by cases hc
  have hroom : node.station.mailbox.room <
      node.commands.length + (List.replicate 1025 (NodeCall.send "" "x")).length := by
    rw [hmailbox, hcommands, List.length_replicate]
    decide
  rw [floodedRoom, run_concat]
  refine shutdown_never_after_burst hn hfutile (by rw [hstate]; decide) (fun call hcall => ?_) hroom
  exact ⟨"", "x", List.eq_of_mem_replicate hcall, unsendable_of_blank (by decide) "x"⟩

end Exchange

end MessageRelay
