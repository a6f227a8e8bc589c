import MessageRelay.Proofs.Node.Pace

/-!
# Strides

What goes on by itself in an exchange with nodes, in steps that leave nothing open: a consumer takes a turn,
somebody uses the place that he was given, a loop takes its next step, the message of a node arrives, a direct
relay does something, or time passes.  All that `Exchange.quiesce`, `Exchange.wait` and `Exchange.pass` do is a
sequence of strides, so what one stride keeps is kept by them.

A stride says exactly what happens, where a move of a course only says what may; so strides are what accounts
are made of.
-/

namespace MessageRelay

/-- `s'` is `s` after something has gone on: consumers may have stopped, and the relay may have been
closed. -/
structure Station.Ahead (s s' : Station) : Prop where
  session_eq : s'.relay.session = s.relay.session
  config_eq : s'.relay.config = s.relay.config
  consumers : s'.relay.consumers.Sublist s.relay.consumers
  closed : s.relay.closed = true → s'.relay.closed = true

namespace Station.Ahead

variable {s s' s'' : Station}

lemma of_relay_eq (h : s'.relay = s.relay) : s.Ahead s' :=
  ⟨by rw [h], by rw [h], by rw [h], fun hc => by rwa [h]⟩

lemma refl (s : Station) : s.Ahead s :=
  of_relay_eq rfl

lemma trans (h : s.Ahead s') (h' : s'.Ahead s'') : s.Ahead s'' where
  session_eq := h'.session_eq.trans h.session_eq
  config_eq := h'.config_eq.trans h.config_eq
  consumers := h'.consumers.trans h.consumers
  closed hc := h'.closed (h.closed hc)

lemma of_steady (h : s.Steady s') : s.Ahead s' :=
  ⟨h.session_eq, h.config_eq, h.consumers, fun hc => h.closed_eq.trans hc⟩

end Station.Ahead

lemma Station.close_ahead (link : Link) (s : Station) (b : Broker) : s.Ahead (s.close link b).2.1 := by
  unfold close
  split
  · exact .refl s
  · rw [finishClose_eq]
    exact ⟨rfl, rfl, List.filter_sublist, fun _ => rfl⟩

/-! ## The loop of a node, case by case -/

namespace Node

variable {link : Link} {now : Nat} {node : Node} {b : Broker}

/-- The commands that are left make no difference to a loop that ends. -/
lemma leave_withCommands (link : Link) (node : Node) (commands : List NodeCommand) (b : Broker) :
    ({ node with commands } : Node).leave link b = node.leave link b := by
  obtain ⟨_, _ | _, _⟩ := node <;> rfl

/-- A loop that can go on ends, has nothing to do, publishes a message or says what the node's state is. -/
lemma stepLoop_cases (link : Link) (now : Nat) (b : Broker) (hrun : node.canRun = true) :
    (node.signalled = true ∨ ∃ rest, node.commands = .shutdown :: rest) ∧
        node.stepLoop link now b = node.leave link b ∨
      (node.signalled = false ∧ node.commands = [] ∧ node.stepLoop link now b = (node, b)) ∨
      (∃ user text rest, node.commands = .send user text :: rest ∧
        node.stepLoop link now b =
          ({ node with commands := rest } : Node).deliver link now user text b) ∨
      ∃ rest, node.commands = .status :: rest ∧
        node.stepLoop link now b = ({ node with commands := rest, answer := some node.status }, b) := by
  by_cases hsignalled : node.signalled = true
  · refine Or.inl ⟨Or.inl hsignalled, ?_⟩
    simp [stepLoop, hrun, hsignalled]
  · rw [Bool.not_eq_true] at hsignalled
    cases hcommands : node.commands with
    | nil =>
      refine Or.inr (Or.inl ⟨hsignalled, rfl, ?_⟩)
      simp [stepLoop, hrun, hsignalled, hcommands]
    | cons c rest =>
      have hstep : node.stepLoop link now b =
          ({ node with commands := rest } : Node).handle link now b c := by
        simp [stepLoop, hrun, hsignalled, hcommands]
      rw [hstep]
      cases c with
      | send user text => exact Or.inr (Or.inr (Or.inl ⟨user, text, rest, rfl, rfl⟩))
      | status => exact Or.inr (Or.inr (Or.inr ⟨rest, rfl, rfl⟩))
      | shutdown => exact Or.inl ⟨Or.inr ⟨rest, rfl⟩, leave_withCommands link node rest b⟩

/-- A loop that has taken a message reports that there is nothing to publish, or has the message on its way,
or has it on its way for no time. -/
lemma deliver_cases (link : Link) (now : Nat) (node : Node) (user text : String) (b : Broker) :
    (∃ e, node.station.relay.payloadOf user text = .error e ∧
        node.deliver link now user text b =
          ((node.count user text).conclude (.error e), b)) ∨
      ∃ payload, node.station.relay.payloadOf user text = .ok payload ∧
        (node.deliver link now user text b = ((node.count user text).sending
            ⟨payload, now + node.station.relay.publishDelay link⟩, b) ∨
          node.deliver link now user text b = ((node.count user text).sending
            ⟨payload, now + node.station.relay.publishDelay link⟩).arrive link b) := by
  simp only [deliver]
  cases hpayload : node.station.relay.payloadOf user text with
  | error e => exact Or.inl ⟨e, rfl, rfl⟩
  | ok payload =>
    refine Or.inr ⟨payload, rfl, ?_⟩
    by_cases hdelay : node.station.relay.publishDelay link = 0
    · exact Or.inr (by simp only [hdelay, if_true])
    · exact Or.inl (by simp only [hdelay, if_false])

lemma conclude_relay (node : Node) (result : Except RelayError Unit) :
    (node.conclude result).station.relay = node.station.relay := by
  obtain ⟨m, heq⟩ := node.conclude_eq result
  rw [heq]

lemma arrive_relay (link : Link) (node : Node) (b : Broker) :
    (node.arrive link b).1.station.relay = node.station.relay := by
  unfold arrive
  split
  · rfl
  · exact conclude_relay _ _

lemma deliver_relay (link : Link) (now : Nat) (node : Node) (user text : String) (b : Broker) :
    (node.deliver link now user text b).1.station.relay = node.station.relay := by
  rcases deliver_cases link now node user text b with ⟨e, -, heq⟩ | ⟨payload, -, heq | heq⟩ <;> rw [heq]
  · exact conclude_relay _ _
  · rfl
  · exact arrive_relay _ _ _

/-- A direct relay does nothing to the queue relay. -/
lemma DirectTurn.relay_eq {node' : Node} {call : Option (String × String)} (h : DirectTurn node call node') :
    node'.station.relay = node.station.relay := by
  cases h with
  | turn => rfl

lemma DirectTurns.relay_eq {node' : Node} (h : DirectTurns node node') : node'.station.relay = node.station.relay := by
  induction h with
  | refl => rfl
  | tail _ hlast ih => exact hlast.relay_eq.trans ih

/-- A direct relay does nothing to what the loop has on its way. -/
lemma DirectTurn.publication_eq {node' : Node} {call : Option (String × String)}
    (h : DirectTurn node call node') : node'.publication = node.publication := by
  cases h with
  | turn => rfl

lemma DirectTurns.publication_eq {node' : Node} (h : DirectTurns node node') : node'.publication = node.publication := by
  induction h with
  | refl => rfl
  | tail _ hlast ih => exact hlast.publication_eq.trans ih

lemma leave_publication (link : Link) (node : Node) (b : Broker) :
    (node.leave link b).1.publication = node.publication := by
  obtain ⟨direct, m, heq, -⟩ := node.hangUp_eq
  rw [leave, heq]
  rfl

lemma leave_ahead (link : Link) (node : Node) (b : Broker) : node.station.Ahead (node.leave link b).1.station := by
  obtain ⟨direct, m, heq, -⟩ := node.hangUp_eq
  rw [leave, heq]
  exact .trans (.of_relay_eq (by rfl)) (Station.close_ahead link { node.station with mailbox := m } b)

lemma stepLoop_ahead (link : Link) (now : Nat) (b : Broker) (hrun : node.canRun = true) :
    node.station.Ahead (node.stepLoop link now b).1.station := by
  rcases stepLoop_cases link now b hrun with ⟨-, heq⟩ | ⟨-, -, heq⟩ | ⟨user, text, rest, -, heq⟩ | ⟨rest, -, heq⟩ <;>
    rw [heq]
  · exact leave_ahead link node b
  · exact .refl _
  · exact .of_relay_eq (deliver_relay ..)
  · exact .refl _

end Node

namespace Exchange

variable {x x' x'' : Exchange} {seat : Seat} {s s' : Station} {b : Broker} {n : Nat} {node : Node}

/-! ## Strides -/

/-- What goes on in an exchange at a time. -/
inductive Stride : Exchange → Exchange → Prop
  /-- A consumer does something. -/
  | turn {x : Exchange} {seat : Seat} {s s' : Station} {b : Broker} (hs : x.station? seat = some s)
      (h : Station.Turn (s, x.broker) (s', b)) : Stride x (x.place seat s' b)
  /-- Somebody who was given a place uses it. -/
  | grant {x : Exchange} {seat : Seat} {s : Station} {sender : Sender} {event : Event}
      {rest : List (Sender × Event)} (hs : x.station? seat = some s)
      (h : s.mailbox.granted = (sender, event) :: rest) :
      Stride x (x.place seat { s with
        mailbox := ({ s.mailbox with granted := rest } : Mailbox).put event } x.broker)
  /-- A loop takes its next step. -/
  | loop {x : Exchange} {n : Nat} {node : Node} (hn : x.nodes[n]? = some node)
      (hrun : node.canRun = true) :
      Stride x (x.withNode n (node.stepLoop x.link x.clock x.broker))
  /-- The message of a node arrives, or is given up. -/
  | arrive {x : Exchange} {n : Nat} {node : Node} {p : Publication} (hn : x.nodes[n]? = some node)
      (hp : node.publication = some p) : Stride x (x.withNode n (node.arrive x.link x.broker))
  /-- A direct relay begins to send what it was asked to. -/
  | tasks {x : Exchange} {n : Nat} {node : Node} (hn : x.nodes[n]? = some node) :
      Stride x (x.setNode n node.beginTasks)
  /-- Time passes, or it is noted which messages are on their way. -/
  | tick (x : Exchange) (clock : Nat) (underway : List Nat) : Stride x { x with clock, underway }

/-- Strides one after the other. -/
abbrev Strides : Exchange → Exchange → Prop :=
  Relation.ReflTransGen Stride

/-- What one stride keeps, strides keep. -/
lemma Strides.keep {P : Exchange → Prop} (h : Strides x x')
    (hstep : ∀ {y y' : Exchange}, Stride y y' → P y → P y') (hx : P x) : P x' := by
  induction h with
  | refl => exact hx
  | tail _ hlast ih => exact hstep hlast ih

/-! ## What strides do not touch -/

/-- `x'` is `x` after something has gone on: everybody has his seat. -/
structure Ahead (x x' : Exchange) : Prop where
  link_eq : x'.link = x.link
  station : ∀ seat, Option.Rel Station.Ahead (x.station? seat) (x'.station? seat)

lemma Ahead.of_station?_eq (hlink : x'.link = x.link) (h : x'.station? = x.station?) : Ahead x x' where
  link_eq := hlink
  station seat := by
    rw [h]
    cases x.station? seat with
    | none => exact .none
    | some s => exact .some (.refl s)

lemma Ahead.trans (h : Ahead x x') (h' : Ahead x' x'') : Ahead x x'' where
  link_eq := h'.link_eq.trans h.link_eq
  station seat := by
    have h₁ := h.station seat
    have h₂ := h'.station seat
    cases hs : x.station? seat with
    | none =>
      rw [hs] at h₁
      generalize x'.station? seat = o' at h₁ h₂
      cases h₁
      exact h₂
    | some s =>
      rw [hs] at h₁
      generalize x'.station? seat = o' at h₁ h₂
      cases h₁ with
      | some hfirst =>
        generalize x''.station? seat = o'' at h₂
        cases h₂ with
        | some hlast => exact .some (hfirst.trans hlast)

/-- Who sat somewhere sits there. -/
lemma Ahead.after (h : Ahead x x') (hs : x.station? seat = some s) :
    ∃ s', x'.station? seat = some s' ∧ s.Ahead s' := by
  have hrel := h.station seat
  rw [hs] at hrel
  generalize x'.station? seat = o' at hrel
  cases hrel with
  | some hahead => exact ⟨_, rfl, hahead⟩

/-- Who sits somewhere sat there. -/
lemma Ahead.before (h : Ahead x x') (hs' : x'.station? seat = some s') :
    ∃ s, x.station? seat = some s ∧ s.Ahead s' := by
  have hrel := h.station seat
  rw [hs'] at hrel
  generalize x.station? seat = o at hrel
  cases hrel with
  | some hahead => exact ⟨_, rfl, hahead⟩

lemma ahead_place (hs : x.station? seat = some s) (h : s.Ahead s') (b : Broker) :
    Ahead x (x.place seat s' b) where
  link_eq := place_link x seat s' b
  station other := by
    rw [place_station?]
    by_cases hseat : seat = other
    · subst hseat
      rw [hs, Option.map_some, if_pos rfl]
      exact .some h
    · cases x.station? other with
      | none => exact .none
      | some s₀ =>
        rw [Option.map_some, if_neg hseat]
        exact .some (.refl s₀)

lemma ahead_withNode (hn : x.nodes[n]? = some node) {p : Node × Broker}
    (h : node.station.Ahead p.1.station) : Ahead x (x.withNode n p) where
  link_eq := rfl
  station other := by
    rw [withNode_station? hn]
    by_cases hseat : .node n = other
    · subst hseat
      rw [station?, hn, Option.map_some, Option.map_some, if_pos rfl]
      exact .some h
    · cases x.station? other with
      | none => exact .none
      | some s₀ =>
        rw [Option.map_some, if_neg hseat]
        exact .some (.refl s₀)

lemma Stride.ahead (h : Stride x x') : Ahead x x' := by
  cases h with
  | turn hs h => exact ahead_place hs (.of_steady h.steady) _
  | grant hs h => exact ahead_place hs (.of_relay_eq (by rfl)) _
  | loop hn hrun => exact ahead_withNode hn (Node.stepLoop_ahead _ _ _ hrun)
  | arrive hn hp => exact ahead_withNode hn (.of_relay_eq (Node.arrive_relay _ _ _))
  | @tasks n node hn =>
    have hahead : node.station.Ahead node.beginTasks.station := .of_relay_eq node.beginTasks_turns.relay_eq
    exact ahead_withNode (p := (node.beginTasks, x.broker)) hn hahead
  | tick clock underway => exact .of_station?_eq rfl (station?_congr rfl rfl)

lemma Strides.ahead (h : Strides x x') : Ahead x x' := by
  induction h with
  | refl => exact .of_station?_eq rfl rfl
  | tail _ hlast ih => exact ih.trans hlast.ahead

/-- No two consumers at a seat have the same stream. -/
def AllCrewed (x : Exchange) : Prop :=
  ∀ ⦃seat : Seat⦄ ⦃s : Station⦄, x.station? seat = some s →
    (s.relay.consumers.map (·.stream)).Nodup

lemma AllCrewed.ahead (hx : x.AllCrewed) (h : Ahead x x') : x'.AllCrewed := by
  intro seat s' hs'
  obtain ⟨s, hs, hahead⟩ := h.before hs'
  exact (hx hs).sublist (hahead.consumers.map _)

lemma AllCrewed.strides (hx : x.AllCrewed) (h : Strides x x') : x'.AllCrewed :=
  hx.ahead h.ahead

/-! ## Going on is making strides -/

lemma turns_strides (hs : x.station? seat = some s) {p : Station × Broker}
    (h : Station.Turns (s, x.broker) p) : Strides x (x.place seat p.1 p.2) := by
  induction h with
  | refl => rw [place_self hs]
  | @tail p p' _ hlast ih =>
    refine ih.tail ?_
    rw [← place_place x seat p.1 p'.1 p.2 p'.2]
    refine .turn (place_station?_self hs _ _) ?_
    rw [place_broker]
    exact hlast

lemma onStation_strides {f : Station → Broker → Station × Broker}
    (h : ∀ s, x.station? seat = some s → Station.Turns (s, x.broker) (f s x.broker)) :
    Strides x (x.onStation seat f) := by
  cases hs : x.station? seat with
  | none => simp only [onStation, hs]; exact .refl
  | some s =>
    rw [onStation_eq hs]
    exact turns_strides hs (h s hs)

/-- Things that are done one after the other. -/
lemma foldl_strides {α : Type} {f : Exchange → α → Exchange}
    (hf : ∀ x a, x.AllCrewed → Strides x (f x a)) (l : List α) (hx : x.AllCrewed) :
    Strides x (l.foldl f x) := by
  induction l generalizing x with
  | nil => exact .refl
  | cons a rest ih => exact (hf x a hx).trans (ih (hx.strides (hf x a hx)))

lemma runConsumers_strides (hx : x.AllCrewed) : Strides x x.runConsumers := by
  refine foldl_strides (fun y seat hy => ?_) x.seats hx
  exact onStation_strides fun s hs => Station.runConsumers_turns (hy hs) y.broker

lemma noteUnderway_strides (x : Exchange) (n : Nat) : Strides x (x.noteUnderway n) := by
  rcases noteUnderway_cases x n with h | h
  · rw [h]
  · rw [h]
    exact .single (.tick x x.clock _)

lemma runLoop_strides (n steps : Nat) (x : Exchange) : Strides x (x.runLoop n steps) := by
  induction steps generalizing x with
  | zero => exact .refl
  | succ steps ih =>
    refine Relation.ReflTransGen.trans ?_ (ih _)
    cases hn : x.nodes[n]? with
    | none => simp only [onNode, hn]; exact .refl
    | some node =>
      rw [onNode_eq hn]
      cases hrun : node.canRun with
      | false => rw [Node.stepLoop_of_not_canRun hrun, withNode_self hn]
      | true => exact .single (.loop hn hrun)

lemma finishLoop_strides (x : Exchange) (n : Nat) : Strides x (x.finishLoop n) := by
  unfold finishLoop
  split
  · exact .refl
  · exact (runLoop_strides n _ x).trans (noteUnderway_strides _ n)

lemma arriveAt_strides (x : Exchange) (n : Nat) : Strides x (x.arriveAt n) := by
  unfold arriveAt
  split
  · next hdue =>
    obtain ⟨node, p, hn, hp⟩ : ∃ node p, x.nodes[n]? = some node ∧ node.publication = some p := by
      obtain ⟨due, hdue, -⟩ := (Option.any_eq_true _ _).1 hdue
      obtain ⟨node, hn, hdue⟩ := Option.bind_eq_some_iff.1 hdue
      obtain ⟨p, hp, -⟩ := Option.map_eq_some_iff.1 hdue
      exact ⟨node, p, hn, hp⟩
    rw [onNode_eq hn]
    refine .head (.arrive hn hp) (.head (.tick _ x.clock _) (finishLoop_strides _ n))
  · exact .refl

lemma useGrants_strides (seat : Seat) (count : Nat) (x : Exchange) :
    Strides x (x.useGrants seat count) := by
  induction count generalizing x with
  | zero => exact .refl
  | succ count ih =>
    unfold useGrants
    cases hs : x.station? seat with
    | none => exact .refl
    | some s =>
      cases hg : s.mailbox.useGrant with
      | none => simp only [hg]; exact .refl
      | some p =>
        obtain ⟨sender, m⟩ := p
        obtain ⟨event, rest, hgranted, rfl⟩ := Mailbox.useGrant_eq_some hg
        simp only [hg]
        refine .head (.grant hs hgranted) (Relation.ReflTransGen.trans ?_ (ih _))
        split
        · exact onStation_strides fun s _ => Station.resume_turns s _ _
        · exact finishLoop_strides _ _
        · exact .refl
        · exact .refl
        · exact .refl

lemma resumeSeat_strides (x : Exchange) (seat : Seat) : Strides x (x.resumeSeat seat) := by
  unfold resumeSeat
  split
  · exact .refl
  · exact useGrants_strides seat _ x

lemma resumed_strides (hx : x.AllCrewed) : Strides x x.resumed :=
  foldl_strides (fun y seat _ => resumeSeat_strides y seat) _ hx

lemma looped_strides (hx : x.resumed.AllCrewed) : Strides x.resumed x.looped := by
  have harrived : Strides x.resumed x.arrived := foldl_strides (fun y n _ => arriveAt_strides y n) _ hx
  exact harrived.trans (foldl_strides (fun y n _ => finishLoop_strides y n) _ (hx.strides harrived))

lemma beginTasks_strides (x : Exchange) : Strides x x.beginTasks := by
  have hall : ∀ (l : List Nat) (y : Exchange), Strides y (l.foldl beginTasksAt y) := by
    intro l
    induction l with
    | nil => exact fun y => .refl
    | cons k rest ih =>
      intro y
      refine Relation.ReflTransGen.trans ?_ (ih _)
      unfold beginTasksAt
      cases hn : y.nodes[k]? with
      | none => simp only [onNode, hn]; exact .refl
      | some node =>
        rw [onNode_eq hn]
        exact .single (.tasks hn)
  exact hall _ x

/-- **Everything that goes on by itself does so in strides.** -/
lemma quiesce_strides (hx : x.AllCrewed) : Strides x x.quiesce := by
  rw [quiesce_eq_runConsumers]
  have hresumed := resumed_strides hx
  have hlooped := hresumed.trans (looped_strides (hx.strides hresumed))
  have hbegun := hlooped.trans (beginTasks_strides x.looped)
  exact hbegun.trans (runConsumers_strides (hx.strides hbegun))

lemma waitFor_strides (done : Exchange → Bool) (fuel : Nat) (hx : x.AllCrewed) :
    Strides x (x.waitFor done fuel) := by
  induction fuel generalizing x with
  | zero => exact .refl
  | succ fuel ih =>
    unfold waitFor
    split
    · exact .refl
    · split
      · exact .refl
      · next due _ =>
        have htick : Strides x ({ x with clock := max x.clock due } : Exchange) :=
          .single (.tick x _ x.underway)
        have hrested := htick.trans (quiesce_strides (hx.strides htick))
        exact hrested.trans (ih (hx.strides hrested))

lemma wait_strides (done : Exchange → Bool) (hx : x.AllCrewed) : Strides x (x.wait done) :=
  (quiesce_strides hx).trans (waitFor_strides done _ (hx.strides (quiesce_strides hx)))

lemma pass_strides (ms : Nat) (hx : x.AllCrewed) : Strides x (x.pass ms) := by
  unfold pass
  split
  · exact .refl
  · exact (wait_strides _ hx).tail (.tick _ _ _)

end Exchange

end MessageRelay
