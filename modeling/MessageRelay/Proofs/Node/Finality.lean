import MessageRelay.Proofs.Node.Fading

/-!
# Shutdown is final

When the loop of a node has ended, or is never to start, the node is over (`Over`): its session has ended, and nobody
listens or keeps a message for it at the broker; it does nothing by itself; and what it is asked for is refused, and
changes nothing but what is noted of the node.  If it has a direct relay, no call of a peer comes to it, and all that is
left are tasks that report that a message was not sent.  This is so at every later moment, whatever is done in the
meantime, and nothing that comes to its queue is delivered to it any more (`shutdown_is_final`).
-/

namespace MessageRelay

namespace Node

variable {node : Node}

lemma Inert.refusal (h : node.Inert) : node.refusal? = some "node stopped" := by
  simp [refusal?, hasExited, h.exited]

/-- What a node that is over reports when it is called: each message for every transport. -/
def stopReports (node : Node) (calls : List NodeCall) : List Event :=
  calls.flatMap fun
    | .send _ _ => node.transports.map fun t => .sendFailed t "node stopped"
    | .request _ => []

/-- A node that is over, after it has reported that messages cannot be sent. -/
def afterReports (node : Node) (calls : List NodeCall) : Node :=
  { node with station := { node.station with
    mailbox := (node.stopReports calls).foldl Mailbox.tryPost node.station.mailbox } }

lemma afterReports_eq (node : Node) (calls : List NodeCall) :
    ∃ l, l ⊆ node.stopReports calls ∧ node.afterReports calls = { node with station := { node.station with
      mailbox := { node.station.mailbox with posted := node.station.mailbox.posted ++ l } } } := by
  obtain ⟨l, hl, heq⟩ := Mailbox.foldl_tryPost_adds node.station.mailbox (node.stopReports calls)
  exact ⟨l, hl, by rw [afterReports, heq]⟩

lemma Inert.afterReports_fades (h : node.Inert) (calls : List NodeCall) : node.Fades (node.afterReports calls) := by
  obtain ⟨l, hl, heq⟩ := node.afterReports_eq calls
  rw [heq]
  refine h.fades_mailbox h.tasks fun e he => (List.mem_append.1 he).imp_right fun he => ?_
  obtain ⟨call, -, he⟩ := List.mem_flatMap.1 (hl he)
  cases call with
  | send user text =>
    obtain ⟨t, -, rfl⟩ := List.mem_map.1 he
    exact ⟨t, "node stopped", rfl⟩
  | request c => cases he

lemma Inert.request_eq (h : node.Inert) (c : NodeCommand) : node.request c = (false, node) := by
  simp only [request, h.refusal]

/-- How a node that is over answers the requests of a burst. -/
def refusals (calls : List NodeCall) : List Bool :=
  calls.flatMap fun
    | .send _ _ => []
    | .request _ => [false]

/-- What a node is called for after it is over is refused, one call after the other. -/
lemma Inert.burst_eq (h : node.Inert) (calls : List NodeCall) :
    node.burst calls = (refusals calls, node.afterReports calls) := by
  induction calls generalizing node with
  | nil => rfl
  | cons call rest ih =>
    cases call with
    | send user text =>
      have hfirst : node.sendMessage user text = node.reportRefused "node stopped" := by
        rw [sendMessage, h.refusal]
      rw [burst, hfirst, ih (h.reportRefused _).inert, reportRefused_eq]
      simp only [afterReports, stopReports, refusals, List.flatMap_cons, List.foldl_append, List.nil_append]
    | request c =>
      simp only [burst, h.request_eq, ih h]
      rfl

lemma Inert.drop (h : node.Inert) (link : Link) (b : Broker) :
    ∃ node', node.drop link b = (node', b) ∧ node.Fades node' ∧ node'.direct = node.direct := by
  by_cases htaken : node.taken = true
  · refine ⟨{ node with dropped := true }, ?_, h.fades_note rfl rfl rfl rfl, rfl⟩
    simp [Node.drop, htaken, signal, h.exited]
  · have hdiscarded := h.discard b
    have hdropped : ({ node with station := (node.station.discardMailbox b).1 } : Node).Fades
        { node with station := (node.station.discardMailbox b).1, dropped := true } :=
      hdiscarded.inert.fades_note rfl rfl rfl rfl
    refine ⟨_, ?_, hdiscarded.trans hdropped, rfl⟩
    simp [Node.drop, htaken, Node.discardMailbox, h.discardMailbox_eq, signal, h.exited]

/-- A node is over, everybody has used the place that he was given in its mailbox, and its direct relay has begun all
that it was asked to do. -/
structure Spent (node : Node) : Prop extends Inert node where
  granted : node.station.mailbox.granted = []
  begun : node.HasBegun

/-- Something is noted of a node that is over. -/
lemma Spent.note {node' : Node} (h : node.Spent) (hstation : node'.station = node.station)
    (hdirect : node'.direct = node.direct) (hpublication : node'.publication = node.publication)
    (hphase : node'.phase = node.phase) : node'.Spent where
  toInert := (h.fades_note hstation hdirect hpublication hphase).inert
  granted := by rw [hstation, h.granted]
  begun d hd := h.begun d (hdirect ▸ hd)

lemma Spent.afterReports (h : node.Spent) (calls : List NodeCall) : (node.afterReports calls).Spent where
  toInert := (h.afterReports_fades calls).inert
  granted := by
    obtain ⟨l, -, heq⟩ := node.afterReports_eq calls
    rw [heq]
    exact h.granted
  begun := h.begun

end Node

namespace Exchange

variable {x x' : Exchange} {seat : Seat} {b : Broker} {k n : Nat} {node node' : Node} {c : Command}

/-- Whether something is asked of a node, or of its mailbox. -/
def Command.concerns (k : Nat) : Command → Bool
  | .takeEvents (.node n) _ | .discardMailbox (.node n) => n == k
  | .takeReceiver n | .start n | .burst n _ | .status n | .request n _ | .submit n _ | .shutdown n | .dropNode n |
    .peerCalls n _ _ | .peerAnswers n _ _ => n == k
  | _ => false

/-! ## An exchange that stands still -/

/-- Nobody else is touched when something is noted of a node. -/
lemma setNode_station?_of_ne (hn : x.nodes[k]? = some node) (node' : Node) (hseat : seat ≠ .node k) :
    (x.setNode k node').station? seat = x.station? seat := by
  have hstation : (x.setNode k node').station? seat =
      (x.station? seat).map fun s => if .node k = seat then node'.station else s :=
    withNode_station? hn (node', x.broker) seat
  rw [hstation]
  cases x.station? seat with
  | none => rfl
  | some s => rw [Option.map_some, if_neg (Ne.symm hseat)]

lemma Still.spent (h : x.Still) (hn : x.nodes[k]? = some node) (hi : node.Inert) : node.Spent :=
  ⟨hi, h.rested.granted (station?_node hn), h.rested.tasks hn⟩

/-- An exchange stands still when something is noted of a node that is over. -/
lemma Still.setNode (h : x.Still) (hn : x.nodes[k]? = some node) (hi : node'.Spent) : (x.setNode k node').Still := by
  have hother : ∀ {seat : Seat} {s : Station}, (x.setNode k node').station? seat = some s →
      seat = .node k ∧ s = node'.station ∨ x.station? seat = some s := by
    intro seat s hs
    by_cases hseat : seat = .node k
    · subst hseat
      rw [station?_node (setNode_nodes_self hn node'), Option.some.injEq] at hs
      exact Or.inl ⟨rfl, hs.symm⟩
    · rw [setNode_station?_of_ne hn node' hseat] at hs
      exact Or.inr hs
  refine ⟨⟨fun hs => ?_, fun hn' => ?_, fun hn' => ?_, fun {seat s c} hs hc => ?_⟩, fun n node₁ p hn' hp => ?_,
    fun n node₁ hn' hp => ?_⟩
  · rcases hother hs with ⟨-, rfl⟩ | hs
    · exact hi.granted
    · exact h.rested.granted hs
  · rcases setNode_nodes_cases hn' with ⟨-, rfl⟩ | ⟨-, hold⟩
    · intro hrun
      rw [hi.canRun] at hrun
      cases hrun
    · exact h.rested.loops hold
  · rcases setNode_nodes_cases hn' with ⟨-, rfl⟩ | ⟨-, hold⟩
    · exact hi.begun
    · exact h.rested.tasks hold
  · rcases hother hs with ⟨-, rfl⟩ | hs
    · rw [hi.consumers] at hc
      cases hc
    · exact h.rested.consumers hs hc
  · rcases setNode_nodes_cases hn' with ⟨-, rfl⟩ | ⟨-, hold⟩
    · rw [hi.idle] at hp
      cases hp
    · exact h.timely hold hp
  · rcases setNode_nodes_cases hn' with ⟨-, rfl⟩ | ⟨-, hold⟩
    · rw [hi.idle] at hp
      cases hp
    · exact h.noted hold hp

/-- Those who were given a place in the mailbox of a node that is over use it, and nobody goes on. -/
lemma useGrants_of_inert (hn : x.nodes[k]? = some node) (hi : node'.Inert) {count : Nat}
    (hcount : node'.station.mailbox.granted.length ≤ count) :
    ∃ node'', (x.setNode k node').useGrants (.node k) count = x.setNode k node'' ∧ node'.Fades node'' ∧
      node''.station.mailbox.granted = [] ∧ node''.direct = node'.direct := by
  induction count generalizing node' with
  | zero => exact ⟨node', rfl, hi.fades, List.eq_nil_of_length_eq_zero (Nat.le_zero.1 hcount), rfl⟩
  | succ count ih =>
    have hself := setNode_nodes_self hn node'
    cases hg : node'.station.mailbox.granted with
    | nil =>
      refine ⟨node', ?_, hi.fades, hg, rfl⟩
      simp only [useGrants, station?_node hself, Mailbox.useGrant, hg]
    | cons first rest =>
      obtain ⟨sender, event⟩ := first
      obtain ⟨-, task, reason, heq⟩ := hi.tasks (sender, event) (by rw [hg]; simp)
      cases heq
      have hused := hi.fades_grant hg
      rw [hg, List.length_cons] at hcount
      obtain ⟨node'', hrest, hfades, hgranted, hdirect⟩ := ih hused.inert (Nat.le_of_succ_le_succ hcount)
      refine ⟨node'', ?_, hused.trans hfades, hgranted, hdirect⟩
      have hposted : (x.setNode k node').grantUsed (.node k) node'.station (.sendFailed .direct reason) rest =
          x.setNode k { node' with station := { node'.station with
            mailbox := ({ node'.station.mailbox with granted := rest } : Mailbox).put
              (.sendFailed .direct reason) } } := by
        rw [grantUsed, place_node hself, setNode_withNode]
        rfl
      rw [← hrest, ← hposted]
      simp only [useGrants, station?_node hself, Mailbox.useGrant, hg]
      rfl

/-- **Where everything stands still but a node that is over**, nobody but those who were given a place in its mailbox has
anything to do. -/
lemma Still.quiesce_setNode (h : x.Still) (hn : x.nodes[k]? = some node) (hi : node'.Inert) (hbegun : node'.HasBegun) :
    ∃ node'', (x.setNode k node').quiesce = x.setNode k node'' ∧ node'.Fades node'' := by
  obtain ⟨node'', huse, hfades, hgranted, hdirect⟩ := useGrants_of_inert hn hi (Nat.le_refl _)
  have hstill := h.setNode hn ⟨hfades.inert, hgranted, fun d hd => hbegun d (hdirect ▸ hd)⟩
  have hself := setNode_nodes_self hn node'
  have hcalm : ∀ seat, (x.setNode k node'').resumeSeat seat = x.setNode k node'' :=
    fun seat => resumeSeat_of_granted fun _ hs => hstill.rested.granted hs
  have hsame : ∀ seat, seat ≠ .node k → (x.setNode k node').resumeSeat seat = x.setNode k node' := by
    refine fun seat hseat => resumeSeat_of_granted fun s hs => ?_
    rw [setNode_station?_of_ne hn node' hseat] at hs
    exact h.rested.granted hs
  have hall : ∀ l : List Seat, .node k ∈ l → l.foldl resumeSeat (x.setNode k node') = x.setNode k node'' := by
    intro l
    induction l with
    | nil => exact fun hmem => by cases hmem
    | cons seat rest ih =>
      intro hmem
      rw [List.foldl_cons]
      by_cases hseat : seat = .node k
      · subst hseat
        rw [resumeSeat, station?_node hself]
        simp only [huse, foldl_eq_self hcalm]
      · rw [hsame seat hseat]
        exact ih ((List.mem_cons.1 hmem).resolve_left (Ne.symm hseat))
  have hresumed : (x.setNode k node').resumed = (x.setNode k node'').resumed := by
    rw [resumed, resumed, hall _ (mem_seats (station?_node hself)), foldl_eq_self hcalm]
  refine ⟨node'', ?_, hfades⟩
  calc (x.setNode k node').quiesce = (x.setNode k node'').quiesce := by
        simp only [quiesce_eq_runConsumers, looped, arrived, hresumed]
    _ = x.setNode k node'' := hstill.quiesce_eq

/-! ## What is asked of a node that is over -/

section Asked

variable (hx : x.Still) (hn : x.nodes[k]? = some node) (hi : node.Inert)

include hx hn hi

/-- Nobody waits for room among the commands of a node that is over. -/
lemma hand_of_inert (c : NodeCommand) : x.hand k c = (some false, x) := by
  have hexited : node.hasExited = true := by simp [Node.hasExited, hi.exited]
  have hwait : x.wait (fun x => x.nodes[k]?.any fun node => node.hasExited || node.hasRoom) = x :=
    hx.wait_eq (by simp [hn, hexited])
  unfold hand
  simp only [hwait, hn, hexited, if_true]

lemma askStatus_of_inert : x.askStatus k = (.failed loopExited, x) := by
  rw [askStatus, hand_of_inert hx hn hi]

lemma submit_of_inert (c : NodeCommand) : x.submit k c = (.accepted false, x) := by
  rw [submit, hand_of_inert hx hn hi]

omit hx in
lemma request_of_inert (c : NodeCommand) : x.request k c = (.accepted false, x) := by
  simp only [request, hn, Option.map_some, hi.request_eq]
  exact congrArg (Prod.mk _) (withNode_self hn)

omit hx in
lemma burst_of_inert (calls : List NodeCall) :
    x.burst k calls = (.burst (Node.refusals calls), x.setNode k (node.afterReports calls)) := by
  simp only [burst, hn, Option.map_some, hi.burst_eq]
  rfl

omit hx in
/-- No call of a peer comes to a node whose server was stopped. -/
lemma peerCalls_of_inert (user text : String) : x.peerCalls k user text = (false, x) := by
  rcases node.peerCalls_cases user text with ⟨-, hturn⟩ | hrefused
  · exact absurd hturn hi.hungUp.not_called
  · simp only [peerCalls, hn, onNode_eq hn, hrefused, Option.any_some]
    exact congrArg (Prod.mk _) (withNode_self hn)

omit hx in
/-- It is too late to start a node that is over. -/
lemma start_of_inert : x.start k =
    (.failed (if node.state = .initializing then Node.consumedError else Node.startError node.state), x) := by
  have hstart : node.start = .error
      (if node.state = .initializing then Node.consumedError else Node.startError node.state) := by
    by_cases hstate : node.state = .initializing <;> simp [Node.start, hstate, hi.exited]
  simp only [start, hn, Option.map_some, hstart]

/-- Whoever shuts down a node that is over is told at once that it is. -/
lemma shutdown_of_inert : x.shutdown k = (.done, x.setNode k { node with state := .shuttingDown }) := by
  by_cases hstate : node.state = .shuttingDown
  · have hnode : { node with state := .shuttingDown } = node := by rw [← hstate]
    have htold : x.isShuttingDown k = true := by simp [isShuttingDown, hn, hstate]
    rw [shutdown, if_pos htold, hnode]
    exact congrArg (Prod.mk _) (withNode_self hn).symm
  · have htold : x.told k = x.setNode k { node with state := .shuttingDown } := by
      rw [told_eq hn hstate]
      simp only [Node.signal, hi.exited]
      rfl
    have hspent : ({ node with state := .shuttingDown } : Node).Spent := (hx.spent hn hi).note rfl rfl rfl rfl
    have hstill := hx.setNode hn hspent
    have hexited : (x.setNode k { node with state := .shuttingDown }).hasExited k = true :=
      hasExited_iff.2 ⟨_, setNode_nodes_self hn _, hi.exited⟩
    have hawaited : (x.told k).awaited k = x.setNode k { node with state := .shuttingDown } := by
      rw [htold, awaited, hstill.wait_eq hexited]
    rw [shutdown_eq hn hstate, hawaited, hexited]
    rfl

/-- **Whatever is asked of a node that is over, at most its mailbox and its notes change.** -/
lemma act_of_inert (hc : c.concerns k = true) :
    ∃ node', (x.act c).2 = x.setNode k node' ∧ node.Fades node' ∧ node'.HasBegun := by
  have hself : x = x.setNode k node := (withNode_self hn).symm
  have hbegun : node.HasBegun := hx.rested.tasks hn
  cases c with
  | takeEvents seat limit =>
    cases seat with
    | relay n => cases hc
    | node n =>
      obtain rfl := eq_of_beq hc
      refine ⟨_, ?_, hi.take limit, hbegun⟩
      simp only [act, takeEvents, station?_node hn]
      exact place_node hn _ x.broker
  | discardMailbox seat =>
    cases seat with
    | relay n => cases hc
    | node n =>
      obtain rfl := eq_of_beq hc
      refine ⟨_, ?_, hi.discard x.broker, hbegun⟩
      rw [act, discardMailbox, onStation_eq (station?_node hn), place_node hn]
      simp only [hi.discardMailbox_eq]
      rfl
  | takeReceiver n =>
    obtain rfl := eq_of_beq hc
    simp only [act, takeReceiver, hn]
    split
    · exact ⟨node, hself, hi.fades, hbegun⟩
    · exact ⟨_, rfl, hi.fades_note rfl rfl rfl rfl, hbegun⟩
  | start n =>
    obtain rfl := eq_of_beq hc
    rw [act, start_of_inert hn hi]
    exact ⟨node, hself, hi.fades, hbegun⟩
  | burst n calls =>
    obtain rfl := eq_of_beq hc
    rw [act, burst_of_inert hn hi]
    exact ⟨_, rfl, hi.afterReports_fades calls, hbegun⟩
  | status n =>
    obtain rfl := eq_of_beq hc
    rw [act, askStatus_of_inert hx hn hi]
    exact ⟨node, hself, hi.fades, hbegun⟩
  | request n c =>
    obtain rfl := eq_of_beq hc
    rw [act, request_of_inert hn hi]
    exact ⟨node, hself, hi.fades, hbegun⟩
  | submit n c =>
    obtain rfl := eq_of_beq hc
    rw [act, submit_of_inert hx hn hi]
    exact ⟨node, hself, hi.fades, hbegun⟩
  | shutdown n =>
    obtain rfl := eq_of_beq hc
    rw [act, shutdown_of_inert hx hn hi]
    exact ⟨_, rfl, hi.fades_note rfl rfl rfl rfl, hbegun⟩
  | dropNode n =>
    obtain rfl := eq_of_beq hc
    obtain ⟨node', heq, hfades, hdirect⟩ := hi.drop x.link x.broker
    refine ⟨node', ?_, hfades, fun d hd => hbegun d (hdirect ▸ hd)⟩
    rw [act, onNode_eq hn, heq]
    rfl
  | peerCalls n user text =>
    obtain rfl := eq_of_beq hc
    simp only [act, peerCalls_of_inert hn hi]
    exact ⟨node, hself, hi.fades, hbegun⟩
  | peerAnswers n task outcome =>
    obtain rfl := eq_of_beq hc
    refine ⟨node.peerAnswers task outcome, ?_, hi.fades_directTurns (node.peerAnswers_turns task outcome),
      hbegun.peerAnswers task outcome⟩
    rw [act, peerAnswers, onNode_eq hn]
    rfl
  | _ => cases hc

/-- Nothing follows from what is asked of a node that is over but that failures are reported. -/
lemma step_of_inert (hc : c.concerns k = true) : ∃ node', (x.step c).2.2 = x.setNode k node' ∧ node.Fades node' := by
  obtain ⟨node', heq, hfades, hbegun⟩ := act_of_inert hx hn hi hc
  obtain ⟨node'', hquiesce, hfades'⟩ := hx.quiesce_setNode hn hfades.inert hbegun
  exact ⟨node'', by rw [step_eq, heq, hquiesce], hfades.trans hfades'⟩

/-- A node that is over reports that it cannot send what it is asked to. -/
lemma step_burst_of_inert (calls : List NodeCall) :
    (x.step (.burst k calls)).2.2 = x.setNode k (node.afterReports calls) := by
  have hstill := hx.setNode hn ((hx.spent hn hi).afterReports calls)
  rw [step_eq, act, burst_of_inert hn hi]
  exact hstill.quiesce_eq

end Asked

/-! ## What goes on -/

/-- Nothing of what goes on is done by a node that is over. -/
lemma Stride.of_spent (h : Stride x x') (hn : x.nodes[k]? = some node) (hi : node.Spent) :
    x'.nodes[k]? = some node := by
  have hplace : ∀ {seat : Seat} (s : Station) (b : Broker), seat ≠ .node k →
      (x.place seat s b).nodes[k]? = some node := by
    intro seat s b hne
    rw [place_nodes, hn, Option.map_some, if_neg hne]
  have hset : ∀ {n : Nat} (p : Node × Broker), n ≠ k → (x.withNode n p).nodes[k]? = some node := by
    intro n p hne
    rw [withNode, setNode, List.getElem?_set_ne hne]
    exact hn
  cases h with
  | turn hs h =>
    refine hplace _ _ ?_
    rintro rfl
    rw [station?_node hn, Option.some.injEq] at hs
    subst hs
    exact h.consumers_ne hi.consumers
  | grant hs h =>
    refine hplace _ _ ?_
    rintro rfl
    rw [station?_node hn, Option.some.injEq] at hs
    subst hs
    rw [hi.granted] at h
    cases h
  | loop hn' hrun =>
    refine hset _ ?_
    rintro rfl
    rw [hn, Option.some.injEq] at hn'
    subst hn'
    rw [hi.canRun] at hrun
    cases hrun
  | arrive hn' hp =>
    refine hset _ ?_
    rintro rfl
    rw [hn, Option.some.injEq] at hn'
    subst hn'
    rw [hi.idle] at hp
    cases hp
  | @tasks n acting hn' =>
    by_cases hk : n = k
    · subst hk
      rw [hn, Option.some.injEq] at hn'
      subst hn'
      rw [Node.beginTasks_of_hasBegun hi.begun]
      exact setNode_nodes_self hn node
    · exact hset (acting.beginTasks, x.broker) hk
  | tick => exact hn

lemma Strides.of_spent (h : Strides x x') (hn : x.nodes[k]? = some node) (hi : node.Spent) :
    x'.nodes[k]? = some node :=
  h.keep (fun hstride hy => hstride.of_spent hy hi) hn

/-! ## The result -/

/-- **A node that is over.** -/
structure Over (x : Exchange) (k : Nat) (node : Node) : Prop where
  node_eq : x.nodes[k]? = some node
  /-- Nothing of it is left at the broker, -/
  released : x.Released k
  /-- and nothing of it is left that could go on but tasks that report failures. -/
  inert : node.Inert
  /-- Nothing that goes on is done by it, -/
  still : ∀ y, Strides x y → y.nodes[k]? = some node
  /-- and nothing that is asked of it changes anything but the node. -/
  alone : ∀ c : Command, c.concerns k = true → ∃ node', (x.step c).2.2 = x.setNode k node'
  /-- No call of a peer comes to it. -/
  peer : ∀ user text, (x.step (.peerCalls k user text)).1 = .accepted false
  /-- Questions and commands are refused, -/
  status : (x.step (.status k)).1 = .failed loopExited
  request : ∀ c, (x.step (.request k c)).1 = .accepted false
  submit : ∀ c, (x.step (.submit k c)).1 = .accepted false
  burst : ∀ calls, (x.step (.burst k calls)).1 = .burst (Node.refusals calls)
  /-- and it cannot be started. -/
  start : (x.step (.start k)).1 =
    .failed (if node.state = .initializing then Node.consumedError else Node.startError node.state)
  shutdown : (x.step (.shutdown k)).1 = .done
  /-- Each message that it is asked to send is reported for every transport, as long as there is room. -/
  send : ∀ calls, node.station.mailbox.kept = true → (x.step (.burst k calls)).2.2 =
    x.setNode k { node with station := { node.station with mailbox := { node.station.mailbox with
      posted := node.station.mailbox.posted ++ (node.stopReports calls).take node.station.mailbox.room } } }

lemma step_fst (x : Exchange) (c : Command) : (x.step c).1 = (x.act c).1 := rfl

lemma Still.over (hx : x.Still) (hn : x.nodes[k]? = some node) (hi : node.Inert) (hreleased : x.Released k) :
    x.Over k node where
  node_eq := hn
  released := hreleased
  inert := hi
  still _ h := h.of_spent hn (hx.spent hn hi)
  alone c hc := by
    obtain ⟨node', heq, -⟩ := step_of_inert hx hn hi hc
    exact ⟨node', heq⟩
  peer user text := by simp only [step_fst, act, peerCalls_of_inert hn hi]
  status := by rw [step_fst, act, askStatus_of_inert hx hn hi]
  request c := by rw [step_fst, act, request_of_inert hn hi]
  submit c := by rw [step_fst, act, submit_of_inert hx hn hi]
  burst calls := by rw [step_fst, act, burst_of_inert hn hi]
  start := by rw [step_fst, act, start_of_inert hn hi]
  shutdown := by rw [step_fst, act, shutdown_of_inert hx hn hi]
  send calls hkept := by
    rw [step_burst_of_inert hx hn hi, Node.afterReports, Mailbox.foldl_tryPost_eq hkept]

/-- What is taken from the mailbox of a node has been posted there. -/
lemma eventsTaken_subset (hn : x.nodes[k]? = some node) (c : Command) :
    x.eventsTaken (.node k) c ⊆ node.station.mailbox.posted := by
  cases c with
  | takeEvents other limit =>
    rw [eventsTaken]
    split
    · simp only [takeEvents, station?_node hn]
      exact List.take_subset _ _
    · exact List.nil_subset _
  | _ => exact List.nil_subset _

/-- **Whatever is done, a node that is over stays so**, and only failures can be taken from its mailbox besides what is
there. -/
lemma run_fades (cs : List Command) (hx : x.Shipshape) (hn : x.nodes[k]? = some node) (hi : node.Inert) :
    ∃ node', (x.run cs).2.nodes[k]? = some node' ∧ node.Fades node' ∧
      ∀ e ∈ history (eventsTaken (.node k)) x cs,
        e ∈ node.station.mailbox.posted ∨ ∃ t reason, e = .sendFailed t reason := by
  induction cs generalizing x node with
  | nil => exact ⟨node, hn, hi.fades, fun e he => by cases he⟩
  | cons c rest ih =>
    obtain ⟨log, hdiary, -⟩ := step_proceeds c hx
    obtain ⟨node₁, hn₁, hfades₁⟩ := hdiary.fades hn hi
    obtain ⟨node₂, hn₂, hfades₂, htaken⟩ := ih ((step_onwards c hx).shipshape hx) hn₁ hfades₁.inert
    refine ⟨node₂, by rw [run_cons, hn₂], hfades₁.trans hfades₂, fun e he => ?_⟩
    rcases List.mem_append.1 he with hnow | hlater
    · exact Or.inl (eventsTaken_subset hn c hnow)
    · exact (htaken e hlater).elim (hfades₁.posted e) Or.inr

/-- **Shutdown is final.**  The loop of a node has ended after some run, or is never to start, however it has come to
that.  Whatever is done then, the node is over: nothing of it is left at the broker, what it is asked for is refused and
changes nothing but the node itself, and messages that it is asked to send are reported.  No event comes to its mailbox
any more but such reports. -/
theorem shutdown_is_final (link : Link) (before after : List Command) {k : Nat} {x : Exchange} {node : Node}
    (hx : (({ link } : Exchange).run before).2 = x) (hn : x.nodes[k]? = some node) (hexited : node.phase = .exited) :
    ∃ node', (x.run after).2.Over k node' ∧
      ∀ e ∈ history (eventsTaken (.node k)) x after ++ node'.station.mailbox.posted,
        e ∈ node.station.mailbox.posted ∨ ∃ t reason, e = .sendFailed t reason := by
  have hrun : (({ link } : Exchange).run (before ++ after)).2 = (x.run after).2 := by rw [run_append, hx]
  have hshape := shipshape_run link before
  rw [hx] at hshape
  have hi : node.Inert := inert_of_exited link before (by rwa [hx]) hexited
  obtain ⟨node', hn', hfades, htaken⟩ := run_fades after hshape hn hi
  have hstill := run_still link (before ++ after)
  obtain ⟨log, hcourse, -⟩ := run_course link (before ++ after)
  rw [hrun] at hstill hcourse
  refine ⟨node', hstill.over hn' hfades.inert (hcourse.released hn' hfades.inert.exited), fun e he => ?_⟩
  exact (List.mem_append.1 he).elim (htaken e) (hfades.posted e)

/-- A node for a queue. -/
def roomFor (queue : String) : NodeConfig :=
  { queue := some { brokerUri := "memory://", queueName := queue } }

/-- Four nodes stop, of which the second has a direct relay as well: one is shut down before it was started and one
after, one is told to by a command, and one is dropped. -/
def fourRooms : List Command :=
  [.newNode (roomFor "a"), .newNode { roomFor "b" with direct := some {} } Direct.online, .newNode (roomFor "c"),
    .newNode (roomFor "d"), .shutdown 0, .start 1, .burst 1 [.send "ann" "one"], .shutdown 1, .start 2,
    .request 2 .shutdown, .start 3, .takeReceiver 3, .dropNode 3]

/-- Somebody publishes to their queues, a peer calls and answers a call, and they are asked for all kinds of things. -/
def visitors : List Command :=
  [.connect { brokerUri := "memory://" } 4, .publish 0 "a" "ann" ["hi"], .control (.inject "d" [0xFF]),
    .burst 0 [.send "bob" "one", .request .status, .send "bob" "two"], .start 0, .status 1, .peerCalls 1 "cat" "hi",
    .peerAnswers 1 0 (.error ⟨.unavailable, "gone"⟩), .burst 1 [.send "bob" "x"], .request 2 (.send "bob" "three"),
    .burst 3 [.send "bob" "four"], .takeEvents (.node 3) none]

theorem shutdown_is_final_fourRooms :
    (∀ k < 4, (({} : Exchange).run fourRooms).2.hasExited k = true) ∧
      ∀ k < 4, ∃ node, (({} : Exchange).run fourRooms).2.nodes[k]? = some node ∧ node.phase = .exited ∧
        ∃ node', ((({} : Exchange).run fourRooms).2.run visitors).2.Over k node' ∧
          ∀ e ∈ history (eventsTaken (.node k)) (({} : Exchange).run fourRooms).2 visitors ++
              node'.station.mailbox.posted,
            e ∈ node.station.mailbox.posted ∨ ∃ t reason, e = .sendFailed t reason := by
  have hstopped : ∀ k < 4, (({} : Exchange).run fourRooms).2.hasExited k = true := by decide +kernel
  refine ⟨hstopped, fun k hk => ?_⟩
  obtain ⟨node, hn, hexited⟩ := hasExited_iff.1 (hstopped k hk)
  exact ⟨node, hn, hexited, shutdown_is_final {} fourRooms visitors rfl hn hexited⟩

end Exchange

end MessageRelay
