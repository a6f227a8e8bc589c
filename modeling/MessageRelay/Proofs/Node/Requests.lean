import MessageRelay.Proofs.Node.Elsewhere

/-!
# What is asked of a node

Whatever is asked of a node, what becomes of it is told in a chronicle that begins with what was asked
(`step_recounts`).
-/

namespace MessageRelay

/-- What a node is asked for by calls: the commands that it accepts, and the messages that it does not, given which of
the requests it accepts. -/
def NodeCall.requests : List NodeCall → List Bool → List NodeCommand
  | [], _ => []
  | .send user text :: rest, accepted => .send user text :: requests rest accepted
  | .request c :: rest, accepted => (if accepted.headD false then [c] else []) ++ requests rest accepted.tail

namespace Exchange

variable {x x' y : Exchange} {k n : Nat} {node node' : Node} {config : QueueConfig} {before : Logbook}

/-! ## Steps -/

/-- The commands that a node has accepted because of what was asked, and the messages that it has not. -/
def requestsOf (k : Nat) (x : Exchange) : Command → List NodeCommand
  | .burst n calls => if n = k then NodeCall.requests calls (x.burst n calls).1.granted else []
  | .request n c => if n = k ∧ (x.request n c).1.isAccepted = true then [c] else []
  | .submit n c => if n = k ∧ (x.submit n c).1.isAccepted = true then [c] else []
  | .status n => if n = k ∧ (x.hand n .status).1 = some true then [.status] else []
  | _ => []

lemma requestsOf_eq_nil {c : Command} (hc : c.concerns k = false) : x.requestsOf k c = [] := by
  cases c with
  | burst n | status n | request n c | submit n c =>
    have hne : n ≠ k := by simpa [Command.concerns] using hc
    simp [requestsOf, hne]
  | _ => rfl

lemma Prompt.step (hx : x.Prompt) (c : Command) : (x.step c).2.2.Prompt :=
  hx.next (step_onwards c hx.shipshape) (step_proceeds c hx.shipshape)

lemma Prompt.act (hx : x.Prompt) (c : Command) : (x.act c).2.Prompt :=
  hx.next (act_onwards_of_command c hx.shipshape) (act_proceeds c hx.shipshape)

lemma Prompt.still (hx : x.Prompt) (c : Command) : (x.step c).2.2.Still where
  rested := rested_step c hx.shipshape hx.roster
  timely := by
    rw [step_eq]
    exact quiesce_timely (hx.act c).shipshape
  noted := (hx.step c).shipshape.noted

/-- Between two commands a node does nothing by itself, unless it waits for a place in its mailbox. -/
lemma Still.dozes (hx : x.Still) (hn : x.nodes[k]? = some node) (hk : node.Keeps config before)
    (hcalm : node.station.mailbox.IsCalm) : x.Dozes k := by
  refine ⟨node, hn, hk.direct_eq, hk.idle, fun hrunning => hx.rested.loops hn (Node.canRun_iff.2 ⟨hrunning, ?_, hk.idle⟩)⟩
  simp [Node.isBlocked, Mailbox.holds, hcalm.1, hcalm.2]

/-! ## Messages -/

lemma note_recounts (hn : x.nodes[k]? = some node) (hstation : node'.station = node.station)
    (hdirect : node'.direct = node.direct) (htransports : node'.transports = node.transports)
    (hcommands : node'.commands = node.commands) (hsent : node'.sent = node.sent)
    (hpublication : node'.publication = node.publication)
    (hphase : node'.phase = node.phase ∨ node.phase = .unstarted ∧ node'.phase = .running) :
    Recounts k [] x (x.setNode k node') :=
  .handle (b := x.broker) hn (.note hstation hdirect htransports hcommands hsent hpublication hphase)
    (fun h => by cases h)

lemma sendMessage_recounts (hn : x.nodes[k]? = some node) (user text : String) :
    Recounts k [.send user text] x (x.setNode k (node.sendMessage user text)) := by
  unfold Node.sendMessage
  split
  · next reason hrefusal => exact .handle (b := x.broker) hn (.refuse hrefusal user text) (fun h => by cases h)
  · next hrefusal => exact .handle (b := x.broker) hn (.accept hrefusal (.send user text)) (fun h => by cases h)

/-- A request is accepted or refused. -/
lemma nodeRequest_recounts (hn : x.nodes[k]? = some node) (c : NodeCommand) :
    Recounts k (if (node.request c).1 = true then [c] else []) x (x.setNode k (node.request c).2) := by
  unfold Node.request
  split
  · exact note_recounts hn rfl rfl rfl rfl rfl rfl (Or.inl rfl)
  · next hrefusal => exact .handle (b := x.broker) hn (.accept hrefusal c) (fun h => by cases h)

/-- Calls that come all at once are accepted or refused one by one. -/
lemma burst_recounts (hn : x.nodes[k]? = some node) (calls : List NodeCall) :
    Recounts k (NodeCall.requests calls (node.burst calls).1) x (x.setNode k (node.burst calls).2) := by
  induction calls generalizing x node with
  | nil => exact note_recounts hn rfl rfl rfl rfl rfl rfl (Or.inl rfl)
  | cons call rest ih =>
    cases call with
    | send user text =>
      have hrest := ih (setNode_nodes_self hn (node.sendMessage user text))
      rw [setNode_setNode] at hrest
      exact (sendMessage_recounts hn user text).trans hrest
    | request c =>
      have hrest := ih (setNode_nodes_self hn (node.request c).2)
      rw [setNode_setNode] at hrest
      exact (nodeRequest_recounts hn c).trans hrest

lemma request_recounts (hn : x.nodes[k]? = some node) (c : NodeCommand) :
    Recounts k (if (x.request k c).1.isAccepted = true then [c] else []) x (x.request k c).2 := by
  unfold request
  rw [hn]
  exact nodeRequest_recounts hn c

/-! ## Whoever waits until there is room -/

/-- A node that has taken a command in had room for it. -/
lemma hand_accepted {c : NodeCommand} (hready : x.readyFor n = x') (h : x.hand n c = (some true, y)) :
    ∃ node, x'.nodes[n]? = some node ∧ node.refusal? = none ∧ y = x'.setNode n (node.enqueue c) := by
  rw [readyFor] at hready
  simp only [hand, hready] at h
  split at h
  · cases h
  · next node hn =>
    split at h
    · cases h
    · next halive =>
      split at h
      · next hroom =>
        cases h
        exact ⟨node, hn, by simp [Node.refusal?, halive, hroom], rfl⟩
      · cases h

lemma hand_recounts (c : NodeCommand) (hx : x.Shipshape) (hd : x.Dozes k) :
    Recounts k (if (x.hand k c).1 = some true then [c] else []) x (x.hand k c).2 := by
  have hready : Recounts k [] x (x.readyFor k) := (wait_strides _ hx.allCrewed).recounts_of_dozes hd
  generalize hy : x.readyFor k = y at hready
  rcases h : x.hand k c with ⟨accepted, z⟩
  by_cases haccepted : accepted = some true
  · subst haccepted
    obtain ⟨node, hn, hrefusal, rfl⟩ := hand_accepted hy h
    rw [if_pos rfl]
    exact hready.trans (.handle (b := y.broker) hn (.accept hrefusal c) (fun h => by cases h))
  · rw [if_neg haccepted]
    rcases hand_cases hy c with ⟨accepted', -, heq⟩ | ⟨node, -, -, heq⟩ <;> rw [h] at heq
    · cases heq
      exact hready
    · cases heq
      exact absurd rfl haccepted

lemma submit_recounts (c : NodeCommand) (hx : x.Shipshape) (hd : x.Dozes k) :
    Recounts k (if (x.submit k c).1.isAccepted = true then [c] else []) x (x.submit k c).2 := by
  have hhand := hand_recounts c hx hd
  unfold submit
  rcases h : x.hand k c with ⟨accepted, y⟩
  rw [h] at hhand
  rcases accepted with - | - | -
  · exact hhand
  · exact hhand
  · exact hhand

/-! ## The life of a node -/

lemma start_recounts (k : Nat) (x : Exchange) : Recounts k [] x (x.start k).2 := by
  rcases start_cases x k with heq | ⟨node', hn', hphase, heq⟩ <;> rw [heq]
  · exact .refl k x
  · exact note_recounts hn' rfl rfl rfl rfl rfl rfl (Or.inr ⟨hphase, rfl⟩)

lemma takeReceiver_recounts (hn : x.nodes[k]? = some node) : Recounts k [] x (x.takeReceiver k).2 := by
  simp only [takeReceiver, hn]
  split
  · exact .refl k x
  · exact note_recounts hn rfl rfl rfl rfl rfl rfl (Or.inl rfl)

/-- A node is told to end. -/
lemma signal_recounts (hn : x.nodes[k]? = some node) :
    Recounts k [] x (x.withNode k (node.signal x.link x.broker)) := by
  unfold Node.signal
  split
  · next hphase => exact .handle hn (.exit (Or.inl hphase)) (fun h => by cases h)
  · exact note_recounts hn rfl rfl rfl rfl rfl rfl (Or.inl rfl)
  · exact note_recounts hn rfl rfl rfl rfl rfl rfl (Or.inl rfl)

lemma told_recounts (hn : x.nodes[k]? = some node) : Recounts k [] x (x.told k) := by
  rw [told, onNode_eq hn, Node.shutdown]
  split
  · exact note_recounts hn rfl rfl rfl rfl rfl rfl (Or.inl rfl)
  · have hstate : Recounts k [] x (x.setNode k { node with state := .shuttingDown }) :=
      note_recounts hn rfl rfl rfl rfl rfl rfl (Or.inl rfl)
    have hsignal := signal_recounts (setNode_nodes_self hn { node with state := .shuttingDown })
    rw [setNode_withNode] at hsignal
    exact hstate.next hsignal

lemma dropNode_recounts (hn : x.nodes[k]? = some node) : Recounts k [] x (x.onNode k (Node.drop x.link)) := by
  -- the mailbox goes if nobody has taken it, and then the node is told to end
  have hkept : Recounts k [] x (x.withNode k (if node.taken then (node, x.broker)
      else node.discardMailbox x.broker)) := by
    split
    · exact note_recounts hn rfl rfl rfl rfl rfl rfl (Or.inl rfl)
    · exact .discard hn
  rw [onNode_eq hn]
  unfold Node.drop
  rcases hpair : (if node.taken then (node, x.broker) else node.discardMailbox x.broker) with ⟨kept, b⟩
  rw [hpair] at hkept
  have hn₁ : (x.withNode k (kept, b)).nodes[k]? = some kept := withNode_nodes_self hn _
  have hdropped : Recounts k [] (x.withNode k (kept, b))
      ((x.withNode k (kept, b)).setNode k { kept with dropped := true }) :=
    note_recounts hn₁ rfl rfl rfl rfl rfl rfl (Or.inl rfl)
  have hsignal := signal_recounts (setNode_nodes_self hn₁ { kept with dropped := true })
  rw [setNode_withNode] at hsignal
  have hall := (hkept.next hdropped).next hsignal
  simpa [withNode, setNode] using hall

/-! ## Questions -/

lemma answered_strides (hx : (x.fresh n).AllCrewed) : Strides (x.fresh n) (x.answered n) :=
  wait_strides _ hx

lemma fresh_recounts (hn : x.nodes[k]? = some node) : Recounts k [] x (x.fresh k) := by
  rw [fresh_eq hn]
  exact note_recounts hn rfl rfl rfl rfl rfl rfl (Or.inl rfl)

lemma Prompt.fresh (hx : x.Prompt) (n : Nat) : (x.fresh n).Prompt :=
  hx.next (fresh_onwards x n) (fresh_proceeds x n)

lemma Prompt.hand {c : NodeCommand} (hx : x.Prompt) (h : x.hand n c = (some true, y)) : y.Prompt := by
  have hready := readyFor_proceeds (d := {}) n hx.shipshape
  have honwards : OnwardsBy (fun _ => True) x _ := hand_onwards n c hx.shipshape fun _ _ _ => trivial
  rw [h] at honwards
  obtain ⟨node, hn, hrefusal, rfl⟩ := hand_accepted rfl h
  exact hx.next honwards (hready.trans (enqueue_proceeds hn (phase_of_refusal? hrefusal) c))

/-- A node that has accepted a question comes to it by itself. -/
lemma askStatus_recounts (hx : x.Prompt) (hd : x.Dozes k) :
    ∃ y, Recounts k (if (x.hand k .status).1 = some true then [.status] else []) x y ∧ y.Prompt ∧
      Strides y (x.askStatus k).2 := by
  have hhand := hand_recounts .status hx.shipshape hd
  by_cases haccepted : (x.hand k .status).1 = some true
  · rcases heq : x.hand k .status with ⟨accepted, y⟩
    rw [heq] at haccepted hhand
    obtain rfl : accepted = some true := haccepted
    obtain ⟨node, hn, -, rfl⟩ := hand_accepted rfl heq
    have hn' := setNode_nodes_self hn (node.enqueue .status)
    have hprompt := (hx.hand heq).fresh k
    refine ⟨_, hhand.next (fresh_recounts hn'), hprompt, ?_⟩
    rw [askStatus_snd heq]
    exact answered_strides hprompt.shipshape.allCrewed
  · have hprompt := hx.act (.status k)
    rw [act, askStatus_of_not_accepted haccepted] at hprompt
    exact ⟨_, hhand, hprompt, by rw [askStatus_of_not_accepted haccepted]⟩

lemma shutdown_recounts (hx : x.Prompt) (hn : x.nodes[k]? = some node) :
    ∃ y, Recounts k [] x y ∧ y.Prompt ∧ Strides y (x.shutdown k).2 := by
  by_cases hstate : node.state = .shuttingDown
  · have htold : x.isShuttingDown k = true := by simp [isShuttingDown, hn, hstate]
    rw [shutdown, if_pos htold]
    exact ⟨x, .refl k x, hx, .refl⟩
  · have hprompt := hx.next (told_onwards x k) (told_proceeds x k)
    have hawaited : (x.shutdown k).2 = (x.told k).awaited k := by rw [shutdown_eq hn hstate]
    rw [hawaited]
    exact ⟨x.told k, told_recounts hn, hprompt, wait_strides _ hprompt.shipshape.allCrewed⟩

/-! ## Commands -/

/-- **Whatever is asked of a node**, it does something about it, and then everything goes on by itself. -/
lemma act_recounts {c : Command} (hc : c.concerns k = true) (hne : ∀ limit, c ≠ .takeEvents (.node k) limit)
    (hx : x.Prompt) (hd : x.Dozes k) :
    ∃ y, Recounts k (x.requestsOf k c) x y ∧ y.Prompt ∧ Strides y (x.act c).2 := by
  obtain ⟨node, hn, hidle⟩ := id hd
  -- most commands are done at once
  have hatOnce : Recounts k (x.requestsOf k c) x (x.act c).2 →
      ∃ y, Recounts k (x.requestsOf k c) x y ∧ y.Prompt ∧ Strides y (x.act c).2 :=
    fun h => ⟨_, h, hx.act c, .refl⟩
  cases c with
  | takeEvents seat limit =>
    cases seat with
    | relay n => cases hc
    | node n =>
      obtain rfl := eq_of_beq hc
      exact absurd rfl (hne limit)
  | discardMailbox seat =>
    cases seat with
    | relay n => cases hc
    | node n =>
      obtain rfl := eq_of_beq hc
      refine hatOnce ?_
      rw [act, discardMailbox, onStation_eq (station?_node hn), place_node hn]
      exact .discard hn
  | takeReceiver n =>
    obtain rfl := eq_of_beq hc
    exact hatOnce (takeReceiver_recounts hn)
  | start n =>
    obtain rfl := eq_of_beq hc
    exact hatOnce (start_recounts n x)
  | burst n calls =>
    obtain rfl := eq_of_beq hc
    refine hatOnce ?_
    simp only [act, requestsOf, if_true, burst, hn, Option.map_some]
    exact burst_recounts hn calls
  | status n =>
    obtain rfl := eq_of_beq hc
    simp only [act, requestsOf, true_and]
    exact askStatus_recounts hx hd
  | request n c =>
    obtain rfl := eq_of_beq hc
    refine hatOnce ?_
    simp only [act, requestsOf, true_and]
    exact request_recounts hn c
  | submit n c =>
    obtain rfl := eq_of_beq hc
    refine hatOnce ?_
    simp only [act, requestsOf, true_and]
    exact submit_recounts c hx.shipshape hd
  | shutdown n =>
    obtain rfl := eq_of_beq hc
    exact shutdown_recounts hx hn
  | dropNode n =>
    obtain rfl := eq_of_beq hc
    refine hatOnce ?_
    rw [act]
    exact dropNode_recounts hn
  | peerCalls n user text =>
    obtain rfl := eq_of_beq hc
    refine hatOnce ?_
    simp only [act, peerCalls, onNode_eq hn, Node.peerCalls, Node.onDirect_of_none hidle.direct_eq, withNode_self hn]
    exact .refl n x
  | peerAnswers n task outcome =>
    obtain rfl := eq_of_beq hc
    refine hatOnce ?_
    simp only [act, peerAnswers, onNode_eq hn, Node.peerAnswers, Node.onDirect_of_none hidle.direct_eq, withNode_self hn]
    exact .refl n x
  | _ => cases hc

/-- **What comes of asking a node for something can be told in a chronicle that begins with it**, if no event is
taken. -/
lemma step_recounts {c : Command} (hc : c.concerns k = true) (hne : ∀ limit, c ≠ .takeEvents (.node k) limit)
    (hx : x.Prompt) (hd : x.Dozes k) (hn : x.nodes[k]? = some node) (hk : node.Keeps config before) :
    Recounts k (x.requestsOf k c) x (x.step c).2.2 := by
  obtain ⟨y, hrecounts, hy, hstrides⟩ := act_recounts hc hne hx hd
  obtain ⟨log, node', hn', hk'⟩ := hrecounts.keeps hn hk
  have hall := hstrides.trans (quiesce_strides (hx.act c).shipshape.allCrewed)
  rw [step_eq]
  exact hrecounts.next (Strides.recounts hall hy hn' hk')

end Exchange

end MessageRelay
