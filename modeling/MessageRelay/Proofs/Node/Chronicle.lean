import MessageRelay.Proofs.Node.Logbook

/-!
# The chronicle of a node

A chronicle says how an exchange has come from one state to another as far as the commands of one node are concerned:
either the node does something about its commands, which is written down in its logbook, or something happens that has
nothing to do with them (`Chronicle`).  Where messages arrive at once, all that goes on by itself can be told in this
way (`Strides.recounts`).
-/

namespace MessageRelay

/-! ## Bystanders -/

namespace Node

variable {link : Link} {now : Nat} {node node' node'' : Node} {b : Broker}

/-- Something happens at the station of a node that has nothing to do with its commands. -/
structure Bystands (node node' : Node) : Prop where
  node_eq : node' = { node with station := node'.station }
  config_eq : node'.station.relay.config = node.station.relay.config
  closed_eq : node'.station.relay.closed = node.station.relay.closed
  tells : node.station.mailbox.Tells [] node'.station.mailbox

namespace Bystands

lemma refl (node : Node) : node.Bystands node where
  node_eq := rfl
  config_eq := rfl
  closed_eq := rfl
  tells := .refl _

lemma trans (h : node.Bystands node') (h' : node'.Bystands node'') : node.Bystands node'' where
  node_eq := by
    rw [h'.node_eq, h.node_eq]
  config_eq := h'.config_eq.trans h.config_eq
  closed_eq := h'.closed_eq.trans h.closed_eq
  tells := h.tells.trans h'.tells

lemma of_station {s : Station} (hconfig : s.relay.config = node.station.relay.config)
    (hclosed : s.relay.closed = node.station.relay.closed) (htells : node.station.mailbox.Tells [] s.mailbox) :
    node.Bystands { node with station := s } where
  node_eq := rfl
  config_eq := hconfig
  closed_eq := hclosed
  tells := htells

end Bystands

lemma Keeps.bystands {config : QueueConfig} {log : Logbook} (hk : node.Keeps config log) (h : node.Bystands node') :
    node'.Keeps config log := by
  rw [h.node_eq]
  exact hk.congr rfl h.config_eq h.closed_eq rfl rfl rfl Iff.rfl

/-- A node that does nothing by itself: it has only a queue relay, no message is on its way, and its loop has nothing to
do. -/
structure Idle (node : Node) : Prop where
  direct_eq : node.direct = none
  idle : node.publication = none
  resting : node.phase = .running → node.signalled = false ∧ node.commands = []

lemma Idle.bystands (hi : node.Idle) (h : node.Bystands node') : node'.Idle := by
  rw [h.node_eq]
  exact ⟨hi.direct_eq, hi.idle, hi.resting⟩

lemma Idle.stepLoop (hi : node.Idle) (link : Link) (now : Nat) (b : Broker) :
    node.stepLoop link now b = (node, b) :=
  stepLoop_of_resting (fun hrun => hi.resting (canRun_iff.1 hrun).1) link now b

/-- A message that takes no time arrives at once. -/
lemma deliver_at_once {user text : String} {payload : Bytes} (hinstant : link.publishMs = 0)
    (hopen : b.isOpen node.station.relay.session = true) (hidle : node.publication = none)
    (hpayload : node.station.relay.payloadOf user text = .ok payload) :
    node.deliver link now user text b =
      (node.count user text, b.route node.station.relay.config.queueName payload) := by
  have hdelay : node.station.relay.publishDelay link = 0 := by rw [Relay.publishDelay, hinstant, Nat.zero_min]
  have harrive : node.station.relay.arrive link node.station.relay.config.queueName payload b =
      (.ok (), b.route node.station.relay.config.queueName payload) := by
    rw [Relay.arrive, if_neg (by simp [hinstant]), Broker.publish, if_neg (by simp [hopen])]
  simp only [deliver, hpayload, hdelay, if_true, arrive, sending, count, harrive, conclude, ← hidle]

end Node

namespace Exchange

variable {x x' x'' : Exchange} {d : Doorway} {seat : Seat} {s s' : Station} {b : Broker} {k n : Nat}
  {node node' : Node} {log log' : Logbook} {asked asked' : List NodeCommand}

/-! ## What has nothing to do with a node -/

/-- Nothing that has happened has to do with the commands of a node. -/
structure Aside (k : Nat) (x x' : Exchange) : Prop where
  node : ∀ {node : Node}, x.nodes[k]? = some node → ∃ node', x'.nodes[k]? = some node' ∧ node.Bystands node'

namespace Aside

lemma of_nodes_eq (h : x'.nodes[k]? = x.nodes[k]?) : Aside k x x' :=
  ⟨fun {node} hn => ⟨node, h.trans hn, .refl node⟩⟩

lemma refl (k : Nat) (x : Exchange) : Aside k x x :=
  of_nodes_eq rfl

lemma trans (h : Aside k x x') (h' : Aside k x' x'') : Aside k x x'' where
  node hn := by
    obtain ⟨node', hn', hfirst⟩ := h.node hn
    obtain ⟨node'', hn'', hlast⟩ := h'.node hn'
    exact ⟨node'', hn'', hfirst.trans hlast⟩

lemma place (hs : x.station? seat = some s) (hconfig : s'.relay.config = s.relay.config)
    (hclosed : s'.relay.closed = s.relay.closed) (htells : s.mailbox.Tells [] s'.mailbox) (b : Broker) :
    Aside k x (x.place seat s' b) where
  node {node} hn := by
    rw [place_nodes, hn, Option.map_some]
    refine ⟨_, rfl, ?_⟩
    split
    · next hseat =>
      rw [hseat, station?_node hn, Option.some.injEq] at hs
      subst hs
      exact .of_station hconfig hclosed htells
    · exact .refl node

/-- A station that is not that of the node. -/
lemma place_of_ne (hne : seat ≠ .node k) (s : Station) (b : Broker) : Aside k x (x.place seat s b) := by
  refine of_nodes_eq ?_
  rw [place_nodes]
  cases x.nodes[k]? <;> simp [hne]

/-- Another node. -/
lemma withNode_of_ne (hne : n ≠ k) (p : Node × Broker) : Aside k x (x.withNode n p) :=
  of_nodes_eq (List.getElem?_set_ne hne)

end Aside

/-- The user throws the mailbox of a node away. -/
lemma discardMailbox_aside (hn : x.nodes[k]? = some node) :
    Aside k x (x.withNode k (node.discardMailbox x.broker)) := by
  have hconfig : (node.station.discardMailbox x.broker).1.relay.config = node.station.relay.config := by
    rw [Station.discardMailbox_eq]
    rfl
  have hplaced : Aside k x (x.place (.node k) (node.station.discardMailbox x.broker).1
      (node.station.discardMailbox x.broker).2) :=
    .place (station?_node hn) hconfig (discardMailbox_closed node.station x.broker)
      (Station.discardMailbox_tells node.station x.broker) _
  rwa [place_node hn] at hplaced

/-! ## Chronicles -/

/-- **What has become of the commands of a node** between two states of an exchange. -/
inductive Chronicle (k : Nat) (x : Exchange) : Logbook → Exchange → Prop
  | start : Chronicle k x [] x
  /-- Something goes on that has nothing to do with them. -/
  | aside {log : Logbook} {x' x'' : Exchange} (h : Chronicle k x log x') (hstride : Stride x' x'')
      (haside : Aside k x' x'') : Chronicle k x log x''
  /-- The user throws the mailbox away. -/
  | discard {log : Logbook} {x' : Exchange} {node : Node} (h : Chronicle k x log x')
      (hn : x'.nodes[k]? = some node) : Chronicle k x log (x'.withNode k (node.discardMailbox x'.broker))
  /-- The node does something about them. -/
  | handle {log : Logbook} {r : Option Record} {x' : Exchange} {node node' : Node} {b : Broker}
      (h : Chronicle k x log x') (hn : x'.nodes[k]? = some node)
      (hdoes : node.Handles x'.link x'.broker r node' b) :
      Chronicle k x (log ++ r.toList) (x'.withNode k (node', b))

lemma Chronicle.trans (h : Chronicle k x log x') (h' : Chronicle k x' log' x'') : Chronicle k x (log ++ log') x'' := by
  induction h' with
  | start => rwa [List.append_nil]
  | aside _ hstride haside ih => exact ih.aside hstride haside
  | discard _ hn ih => exact ih.discard hn
  | handle _ hn hdoes ih =>
    rw [← List.append_assoc]
    exact ih.handle hn hdoes

/-- What is kept by whatever a node does, and by what has nothing to do with its commands. -/
lemma Chronicle.follow {P : Logbook → Node → Prop} (before : Logbook) (h : Chronicle k x log x')
    (haside : ∀ {log : Logbook} {node node' : Node}, P log node → node.Bystands node' → P log node')
    (hdoes : ∀ {log : Logbook} {node node' : Node} {r : Option Record} {link : Link} {b b' : Broker},
      P log node → node.Handles link b r node' b' → P (log ++ r.toList) node')
    (hn : x.nodes[k]? = some node) (hP : P before node) :
    ∃ node', x'.nodes[k]? = some node' ∧ P (before ++ log) node' := by
  induction h with
  | start => exact ⟨node, hn, by rwa [List.append_nil]⟩
  | aside _ _ hlast ih =>
    obtain ⟨node₁, hn₁, hP₁⟩ := ih
    obtain ⟨node₂, hn₂, hbystands⟩ := hlast.node hn₁
    exact ⟨node₂, hn₂, haside hP₁ hbystands⟩
  | discard _ hn' ih =>
    obtain ⟨node₁, hn₁, hP₁⟩ := ih
    rw [hn', Option.some.injEq] at hn₁
    subst hn₁
    obtain ⟨node₂, hn₂, hbystands⟩ := (discardMailbox_aside hn').node hn'
    exact ⟨node₂, hn₂, haside hP₁ hbystands⟩
  | handle _ hn' hlast ih =>
    obtain ⟨node₁, hn₁, hP₁⟩ := ih
    rw [hn', Option.some.injEq] at hn₁
    subst hn₁
    refine ⟨_, withNode_nodes_self hn' _, ?_⟩
    rw [← List.append_assoc]
    exact hdoes hP₁ hlast

/-- **Along a chronicle a node keeps to its logbook.** -/
lemma Chronicle.keeps {config : QueueConfig} {before : Logbook} (h : Chronicle k x log x')
    (hn : x.nodes[k]? = some node) (hk : node.Keeps config before) :
    ∃ node', x'.nodes[k]? = some node' ∧ node'.Keeps config (before ++ log) :=
  h.follow before Node.Keeps.bystands (fun hP hdoes => hdoes.keeps hP) hn hk

/-- **What a chronicle tells of is reported**, if no event is taken and there is room at the end. -/
lemma Chronicle.tells (h : Chronicle k x log x') (hn : x.nodes[k]? = some node) :
    ∃ node', x'.nodes[k]? = some node' ∧ node'.transports = node.transports ∧
      (.emptied ∉ log → node.station.mailbox.Tells (log.reports node.transports) node'.station.mailbox) := by
  refine h.follow (P := fun log node' => node'.transports = node.transports ∧
      (.emptied ∉ log → node.station.mailbox.Tells (log.reports node.transports) node'.station.mailbox))
    [] (fun hP hbystands => ?_) (fun hP hdoes => ?_) hn ⟨rfl, fun _ => .refl _⟩
  · refine ⟨?_, fun hnot => ?_⟩
    · rw [hbystands.node_eq]
      exact hP.1
    · have hboth := (hP.2 hnot).trans hbystands.tells
      rwa [List.append_nil] at hboth
  · obtain ⟨htransports, htells⟩ := hdoes.tells
    refine ⟨htransports.trans hP.1, fun hnot => ?_⟩
    rw [List.mem_append, not_or, Option.mem_toList] at hnot
    rw [Logbook.reports_append]
    rw [hP.1] at htells
    exact (hP.2 hnot.1).trans (htells hnot.2)

/-- `x` becomes `x'` while the node is asked for the given commands, and no event is taken from its mailbox. -/
def Recounts (k : Nat) (asked : List NodeCommand) (x x' : Exchange) : Prop :=
  ∃ log, Chronicle k x log x' ∧ log.asked = asked ∧ .emptied ∉ log

namespace Recounts

lemma aside (hstride : Stride x x') (h : Aside k x x') : Recounts k [] x x' :=
  ⟨[], .aside .start hstride h, rfl, List.not_mem_nil⟩

lemma discard (hn : x.nodes[k]? = some node) : Recounts k [] x (x.withNode k (node.discardMailbox x.broker)) :=
  ⟨[], .discard .start hn, rfl, List.not_mem_nil⟩

lemma refl (k : Nat) (x : Exchange) : Recounts k [] x x :=
  ⟨[], .start, rfl, List.not_mem_nil⟩

lemma handle {r : Option Record} (hn : x.nodes[k]? = some node) (h : node.Handles x.link x.broker r node' b)
    (hnot : r ≠ some .emptied) : Recounts k (Logbook.asked r.toList) x (x.withNode k (node', b)) :=
  ⟨_, .handle .start hn h, rfl, by rwa [List.nil_append, Option.mem_toList]⟩

lemma trans (h : Recounts k asked x x') (h' : Recounts k asked' x' x'') : Recounts k (asked ++ asked') x x'' := by
  obtain ⟨log, hchronicle, rfl, hnot⟩ := h
  obtain ⟨log', hchronicle', rfl, hnot'⟩ := h'
  refine ⟨log ++ log', hchronicle.trans hchronicle', Logbook.asked_append log log', ?_⟩
  rw [List.mem_append, not_or]
  exact ⟨hnot, hnot'⟩

/-- What is done by itself comes after what was asked for. -/
lemma next (h : Recounts k asked x x') (h' : Recounts k [] x' x'') : Recounts k asked x x'' := by
  have hboth := h.trans h'
  rwa [List.append_nil] at hboth

lemma keeps {config : QueueConfig} {before : Logbook} (h : Recounts k asked x x') (hn : x.nodes[k]? = some node)
    (hk : node.Keeps config before) : ∃ log node', x'.nodes[k]? = some node' ∧ node'.Keeps config log := by
  obtain ⟨log, hchronicle, -⟩ := h
  obtain ⟨node', hn', hk'⟩ := hchronicle.keeps hn hk
  exact ⟨before ++ log, node', hn', hk'⟩

end Recounts

/-! ## What goes on by itself -/

/-- An exchange in which messages arrive at once. -/
structure Prompt (x : Exchange) : Prop where
  shipshape : x.Shipshape
  roster : Roster {} x.station? x.broker
  instant : x.link.publishMs = 0

namespace Prompt

variable {ok : Happening → Prop} {prompts : List (Nat × Entry)}

lemma next (hx : x.Prompt) (ho : OnwardsBy ok x x') (hp : Proceeds prompts {} x {} x') : x'.Prompt := by
  obtain ⟨log, hdiary, -⟩ := hp
  exact ⟨ho.shipshape hx.shipshape, hx.roster.diary hdiary, by rw [ho.link_eq, hx.instant]⟩

end Prompt

lemma isOpen_of_payloadOf (hr : Roster d x.station? x.broker) (hn : x.nodes[n]? = some node) {user text : String}
    {payload : Bytes} (h : node.station.relay.payloadOf user text = .ok payload) :
    x.broker.isOpen node.station.relay.session = true := by
  refine (hr.isOpen _).2 (Or.inr (Or.inr ⟨.node n, node.station, station?_node hn, ?_, rfl⟩))
  rw [← Bool.not_eq_true]
  intro hclosed
  rw [Relay.payloadOf, if_pos hclosed] at h
  cases h

/-- The loop of a node takes its next step. -/
lemma loop_recounts (hr : Roster d x.station? x.broker) (hinstant : x.link.publishMs = 0)
    (hn : x.nodes[k]? = some node) (hrun : node.canRun = true) :
    Recounts k [] x (x.withNode k (node.stepLoop x.link x.clock x.broker)) := by
  rcases Node.stepLoop_cases x.link x.clock x.broker hrun with
    ⟨-, heq⟩ | ⟨-, -, heq⟩ | ⟨user, text, rest, hcommands, heq⟩ | ⟨rest, hcommands, heq⟩ <;> rw [heq]
  · exact .handle hn (.exit (Or.inr hrun)) (fun h => by cases h)
  · rw [withNode_self hn]
    exact .refl k x
  · cases hpayload : node.station.relay.payloadOf user text with
    | error e =>
      have hdeliver : ({ node with commands := rest } : Node).deliver x.link x.clock user text x.broker =
          ((({ node with commands := rest } : Node).count user text).conclude (.error e), x.broker) := by
        simp only [Node.deliver, hpayload]
      rw [hdeliver]
      exact .handle hn (.fail hrun hcommands hpayload) (fun h => by cases h)
    | ok payload =>
      have hopen := isOpen_of_payloadOf hr hn hpayload
      have hdeliver : ({ node with commands := rest } : Node).deliver x.link x.clock user text x.broker =
          (({ node with commands := rest } : Node).count user text,
            x.broker.route node.station.relay.config.queueName payload) :=
        Node.deliver_at_once hinstant hopen (Node.canRun_iff.1 hrun).2.2 hpayload
      rw [hdeliver]
      exact .handle hn (.publish hrun hcommands hpayload) (fun h => by cases h)
  · exact .handle hn (.answer hrun hcommands) (fun h => by cases h)

/-- What goes on while a node that has only a queue relay has no message on its way has nothing to do with its commands,
unless its loop takes its next step. -/
lemma Stride.aside_or_loop (h : Stride x x') (hn : x.nodes[k]? = some node) (hdirect : node.direct = none)
    (hidle : node.publication = none) :
    Aside k x x' ∨ (node.canRun = true ∧ x' = x.withNode k (node.stepLoop x.link x.clock x.broker)) := by
  cases h with
  | turn hs h => exact Or.inl (.place hs h.steady.config_eq h.steady.closed_eq h.tells _)
  | grant hs h =>
    refine Or.inl (.place hs ?_ ?_ (.grant h) _)
    · rfl
    · rfl
  | @loop n acting hn' hrun =>
    by_cases hk : n = k
    · subst hk
      rw [hn, Option.some.injEq] at hn'
      subst hn'
      exact Or.inr ⟨hrun, rfl⟩
    · exact Or.inl (.withNode_of_ne hk _)
  | @arrive n acting p hn' hp =>
    refine Or.inl (.withNode_of_ne ?_ _)
    rintro rfl
    rw [hn, Option.some.injEq] at hn'
    subst hn'
    rw [hidle] at hp
    cases hp
  | @tasks n acting hn' =>
    by_cases hk : n = k
    · subst hk
      rw [hn, Option.some.injEq] at hn'
      subst hn'
      have hbegun : node.HasBegun := fun d hd => absurd (hdirect.symm.trans hd) (by simp)
      have hself : x.setNode n node = x := withNode_self hn
      rw [Node.beginTasks_of_hasBegun hbegun, hself]
      exact Or.inl (.refl n x)
    · exact Or.inl (.withNode_of_ne hk (acting.beginTasks, x.broker))
  | tick => exact Or.inl (.of_nodes_eq rfl)

/-- **Where messages arrive at once, all that goes on by itself can be told in a chronicle.** -/
lemma Strides.recounts {config : QueueConfig} {before : Logbook} (h : Strides x x') (hx : x.Prompt)
    (hn : x.nodes[k]? = some node) (hk : node.Keeps config before) : Recounts k [] x x' := by
  induction h with
  | refl => exact .refl k x
  | @tail y y' hfirst hlast ih =>
    have hinstant : y.link.publishMs = 0 := by rw [(Strides.ahead hfirst).link_eq, hx.instant]
    obtain ⟨log, hdiary, -⟩ := Strides.proceeds (d := {}) hfirst hx.shipshape.allEncode
    obtain ⟨logbook, node', hn', hk'⟩ := ih.keeps hn hk
    rcases hlast.aside_or_loop hn' hk'.direct_eq hk'.idle with haside | ⟨hrun, rfl⟩
    · exact ih.next (.aside hlast haside)
    · exact ih.next (loop_recounts (hx.roster.diary hdiary) hinstant hn' hrun)

/-- There is a node that does nothing by itself. -/
def Dozes (k : Nat) (x : Exchange) : Prop :=
  ∃ node, x.nodes[k]? = some node ∧ node.Idle

lemma Aside.dozes (h : Aside k x x') (hx : x.Dozes k) : x'.Dozes k := by
  obtain ⟨node, hn, hi⟩ := hx
  obtain ⟨node', hn', hbystands⟩ := h.node hn
  exact ⟨node', hn', hi.bystands hbystands⟩

/-- What goes on by itself has nothing to do with a node that does nothing by itself. -/
lemma Strides.aside (h : Strides x x') (hx : x.Dozes k) : Aside k x x' := by
  induction h with
  | refl => exact .refl k x
  | tail _ hlast ih =>
    obtain ⟨node, hn, hi⟩ := ih.dozes hx
    rcases hlast.aside_or_loop hn hi.direct_eq hi.idle with haside | ⟨-, rfl⟩
    · exact ih.trans haside
    · rwa [hi.stepLoop, withNode_self hn]

/-- It can be told in a chronicle in which nothing is written down. -/
lemma Strides.recounts_of_dozes (h : Strides x x') (hx : x.Dozes k) : Recounts k [] x x' := by
  induction h with
  | refl => exact .refl k x
  | tail hfirst hlast ih =>
    obtain ⟨node, hn, hi⟩ := (Strides.aside hfirst hx).dozes hx
    rcases hlast.aside_or_loop hn hi.direct_eq hi.idle with haside | ⟨-, rfl⟩
    · exact ih.next (.aside hlast haside)
    · rwa [hi.stepLoop, withNode_self hn]

lemma quiesce_aside (hx : x.Shipshape) (hd : x.Dozes k) : Aside k x x.quiesce :=
  (quiesce_strides hx.allCrewed).aside hd

lemma wait_aside (done : Exchange → Bool) (hx : x.Shipshape) (hd : x.Dozes k) : Aside k x (x.wait done) :=
  (wait_strides done hx.allCrewed).aside hd

lemma pass_aside (ms : Nat) (hx : x.Shipshape) (hd : x.Dozes k) : Aside k x (x.pass ms) :=
  (pass_strides ms hx.allCrewed).aside hd

end Exchange

end MessageRelay
