import MessageRelay.Proofs.Exchange.Schedule

/-!
# What goes on by itself

While nobody asks for anything, a node changes in three ways only (`Node.Goes`): something goes on at its
station or its direct relay, its loop takes a step, or the message that it has on its way arrives.  None of
them gives it more to do (`Goes.load_le`), and a message that arrives gives it less.  So whoever waits is answered, or finds that
nothing is on its way any more, before the number of rounds runs out that an exchange goes through at most
(`wait_settles`).

A node that was told to end and can take a step ends with it (`Doomed.canRun_stepLoop`).
-/

namespace MessageRelay

/-! ## The loop in the mailbox -/

namespace Mailbox

variable {m m' m'' : Mailbox}

/-- What others do with a mailbox: it makes no difference to the loop, nobody is given a place, and no place
gets free. -/
structure Spares (m m' : Mailbox) : Prop where
  loop : m'.holds .loop = m.holds .loop
  granted : m'.granted.Sublist m.granted
  kept : m'.kept = m.kept
  capacity : m'.capacity = m.capacity
  posted : m.posted.length ≤ m'.posted.length

lemma Spares.refl (m : Mailbox) : Spares m m :=
  ⟨rfl, List.Sublist.refl _, rfl, rfl, Nat.le_refl _⟩

lemma Spares.trans (h : Spares m m') (h' : Spares m' m'') : Spares m m'' :=
  ⟨h'.loop.trans h.loop, h'.granted.trans h.granted, h'.kept.trans h.kept, h'.capacity.trans h.capacity,
    Nat.le_trans h.posted h'.posted⟩

lemma spares_forget (m : Mailbox) (i : Nat) : Spares m (m.forget (.consumer i)) where
  loop := by
    have hfilter : ∀ l : List (Sender × Event),
        (l.filter (·.1 != .consumer i)).any (·.1 == .loop) = l.any (·.1 == .loop) := by
      intro l
      rw [List.any_filter]
      congr 1
      funext p
      cases h : p.1 == Sender.loop with
      | false => simp
      | true => rw [eq_of_beq h]; rfl
    simp only [holds, forget, List.any_append, hfilter]
  granted := List.filter_sublist
  kept := rfl
  capacity := rfl
  posted := Nat.le_refl _

lemma spares_of_posted {sender : Sender} {event : Event} (h : m.offer sender event = .posted m') :
    Spares m m' := by
  obtain ⟨-, -, rfl⟩ := offer_eq_posted h
  exact ⟨rfl, List.Sublist.refl _, rfl, rfl, by simp [put]⟩

lemma spares_of_waits {sender : Sender} {event : Event} (hother : (sender == Sender.loop) = false)
    (h : m.offer sender event = .waits m') : Spares m m' := by
  obtain ⟨-, -, rfl⟩ := offer_eq_waits h
  exact ⟨by simp [holds, List.any_append, hother], List.Sublist.refl _, rfl, rfl, Nat.le_refl _⟩

lemma spares_leave {sender : Sender} (hother : (sender == Sender.loop) = false) (event : Event) :
    Spares m (m.leave sender event) := by
  rcases m.leave_cases sender event with hposted | hwaits | hsame
  · exact spares_of_posted hposted
  · exact spares_of_waits hother hwaits
  · rw [hsame]
    exact .refl m

lemma leave_granted (m : Mailbox) (sender : Sender) (event : Event) :
    (m.leave sender event).granted = m.granted := by
  rcases m.leave_cases sender event with hposted | hwaits | hsame
  · obtain ⟨-, -, heq⟩ := offer_eq_posted hposted
    rw [heq]
    rfl
  · obtain ⟨-, -, heq⟩ := offer_eq_waits hwaits
    rw [heq]
  · rw [hsame]

/-- Whoever waits goes on waiting when another event was left. -/
lemma holds_leave {sender other : Sender} {event : Event} (h : m.holds other = true) :
    (m.leave sender event).holds other = true := by
  rcases m.leave_cases sender event with hposted | hwaits | hsame
  · obtain ⟨-, -, heq⟩ := offer_eq_posted hposted
    rw [heq]
    exact h
  · obtain ⟨-, -, heq⟩ := offer_eq_waits hwaits
    rw [heq]
    simp only [holds, List.any_append, Bool.or_eq_true] at h ⊢
    exact h.imp_left Or.inl
  · rwa [hsame]

lemma spares_hangUp (m : Mailbox) : Spares m m.hangUp where
  loop := by
    have hfilter : ∀ l : List (Sender × Event),
        (l.filter (!·.1.isCall)).any (·.1 == .loop) = l.any (·.1 == .loop) := by
      intro l
      rw [List.any_filter]
      congr 1
      funext p
      cases h : p.1 == Sender.loop with
      | false => simp
      | true => rw [eq_of_beq h]; rfl
    simp only [holds, hangUp, List.any_append, hfilter]
  granted := List.Sublist.refl _
  kept := rfl
  capacity := rfl
  posted := Nat.le_refl _

end Mailbox

namespace Station

lemma consume_spares (i count : Nat) (s : Station) (b : Broker) :
    s.mailbox.Spares (consume i count s b).1.mailbox := by
  induction count generalizing s b with
  | zero => exact .refl _
  | succ count ih =>
    unfold consume
    split
    · exact .refl _
    · exact Mailbox.spares_forget _ i
    · next d b' hpoll =>
      simp only
      split
      · next m hoffer => exact (Mailbox.spares_of_posted hoffer).trans (ih { s with mailbox := m } _)
      · next m hoffer => exact Mailbox.spares_of_waits rfl hoffer
      · exact Mailbox.spares_forget _ i

lemma runConsumer_spares (s : Station) (b : Broker) (c : Consumer) :
    s.mailbox.Spares (s.runConsumer b c).1.mailbox := by
  unfold runConsumer
  split
  · exact .refl _
  · split
    · exact Mailbox.spares_forget _ c.stream
    · exact consume_spares _ _ s b

lemma runConsumers_spares (s : Station) (b : Broker) : s.mailbox.Spares (s.runConsumers b).1.mailbox := by
  unfold runConsumers
  generalize s.relay.consumers = crew
  induction crew generalizing s b with
  | nil => exact .refl _
  | cons c rest ih => exact (runConsumer_spares s b c).trans (ih _ _)

lemma resume_spares (s : Station) (b : Broker) (i : Nat) :
    s.mailbox.Spares (s.resume b i).1.mailbox := by
  unfold resume
  split
  · exact runConsumer_spares s b _
  · exact .refl _

end Station

/-! ## One node -/

namespace Node

variable {link : Link} {now : Nat} {node node' : Node} {p : Publication}

/-- What can happen to a node by itself. -/
inductive Goes (link : Link) (now : Nat) : Node → Node → Prop
  /-- Consumers do something at its station, or its direct relay does. -/
  | station {node : Node} {s : Station} {direct : Option DirectRelay}
      (h : node.station.mailbox.Spares s.mailbox) : Goes link now node { node with station := s, direct }
  /-- Somebody who was given a place in its mailbox uses it. -/
  | grant {node : Node} {sender : Sender} {event : Event} {rest : List (Sender × Event)}
      (h : node.station.mailbox.granted = (sender, event) :: rest) :
      Goes link now node { node with station := { node.station with
        mailbox := ({ node.station.mailbox with granted := rest } : Mailbox).put event } }
  /-- The loop takes a step. -/
  | loop (node : Node) (b : Broker) : Goes link now node (node.stepLoop link now b).1
  /-- The message on its way arrives, or is given up. -/
  | arrive (node : Node) (b : Broker) : Goes link now node (node.arrive link b).1

/-- What can happen to a node by itself, one thing after the other. -/
abbrev GoesOn (link : Link) (now : Nat) : Node → Node → Prop :=
  Relation.ReflTransGen (Goes link now)

/-- A direct relay does to the mailbox what others do too. -/
lemma DirectTurn.spares {call : Option (String × String)} (h : DirectTurn node call node') :
    node.station.mailbox.Spares node'.station.mailbox := by
  cases h with
  | turn hd hturn =>
    cases hturn with
    | note => exact .refl _
    | report => exact Mailbox.spares_leave rfl _
    | called => exact Mailbox.spares_leave rfl _
    | release => exact Mailbox.spares_hangUp _

lemma DirectTurns.spares (h : DirectTurns node node') : node.station.mailbox.Spares node'.station.mailbox := by
  induction h with
  | refl => exact .refl _
  | tail _ hlast ih => exact ih.trans hlast.spares

/-- Whatever its direct relay does may happen to a node. -/
lemma DirectTurn.goes {call : Option (String × String)} (h : DirectTurn node call node') :
    Goes link now node node' := by
  have hspares := h.spares
  cases h with
  | turn hd hturn => exact .station hspares

lemma DirectTurns.goesOn (h : DirectTurns node node') : GoesOn link now node node' :=
  Relation.ReflTransGen.mono (fun _ _ hturn => hturn.goes) _ _ h

/-- A direct relay makes no difference to whether the loop can take a command. -/
lemma DirectTurn.canRun_eq {call : Option (String × String)} (h : DirectTurn node call node') :
    node'.canRun = node.canRun := by
  have hblocked : node'.isBlocked = node.isBlocked := h.spares.loop
  rw [canRun, canRun, hblocked]
  cases h with
  | turn => rfl

lemma DirectTurns.canRun_eq (h : DirectTurns node node') : node'.canRun = node.canRun := by
  induction h with
  | refl => rfl
  | tail _ hlast ih => exact hlast.canRun_eq.trans ih

/-- How much a node has to do: its commands, and the message that it has on its way. -/
def load (node : Node) : Nat :=
  node.commands.length + if node.publication.isSome then 1 else 0

lemma arrive_of_none (h : node.publication = none) (b : Broker) : node.arrive link b = (node, b) := by
  simp only [arrive, h]

lemma arrive_eq (link : Link) (h : node.publication = some p) (b : Broker) :
    ∃ s, (node.arrive link b).1 = { node with station := s, publication := none } := by
  simp only [arrive, h]
  obtain ⟨m, heq⟩ := conclude_eq { node with publication := none } _
  exact ⟨_, heq⟩

lemma load_arrive (link : Link) (h : node.publication = some p) (b : Broker) :
    (node.arrive link b).1.load + 1 = node.load := by
  obtain ⟨s, hs⟩ := arrive_eq link h b
  rw [hs]
  simp [load, h]

lemma load_arrive_le (node : Node) (b : Broker) : (node.arrive link b).1.load ≤ node.load := by
  cases h : node.publication with
  | none => rw [arrive_of_none h]
  | some p =>
    have := load_arrive link h b
    omega

lemma canRun_iff : node.canRun = true ↔
    node.phase = .running ∧ node.isBlocked = false ∧ node.publication = none := by
  simp [canRun, and_assoc]

/-- A loop that is there and can take no step, although no message is on its way, waits for a place. -/
lemma isBlocked_of_not_canRun (hphase : node.phase = .running) (hp : node.publication = none)
    (hrun : node.canRun = false) : node.isBlocked = true := by
  rw [← Bool.not_eq_false]
  intro hblocked
  rw [canRun_iff.2 ⟨hphase, hblocked, hp⟩] at hrun
  cases hrun

lemma stepLoop_of_not_canRun (h : node.canRun = false) (b : Broker) :
    node.stepLoop link now b = (node, b) := by
  simp [stepLoop, h]

/-- A message that the loop takes from the commands is on its way in their place, if it does not arrive at
once. -/
lemma load_deliver_le (node : Node) (hp : node.publication = none) (user text : String) (b : Broker) :
    (node.deliver link now user text b).1.load ≤ node.load + 1 := by
  simp only [deliver]
  split
  · next e _ =>
    obtain ⟨s, hs⟩ := conclude_eq (node.count user text) (.error e)
    rw [hs]
    exact Nat.le_succ _
  · next payload _ =>
    have hbegun : ((node.count user text).sending
        ⟨payload, now + node.station.relay.publishDelay link⟩).load = node.load + 1 := by
      simp [load, count, sending, hp]
    split
    · exact Nat.le_trans (load_arrive_le _ b) (Nat.le_of_eq hbegun)
    · exact Nat.le_of_eq hbegun

lemma load_leave_le (node : Node) (b : Broker) : (node.leave link b).1.load ≤ node.load := by
  obtain ⟨direct, m, heq, -⟩ := node.hangUp_eq
  rw [leave, heq]
  exact Nat.add_le_add_right (Nat.zero_le _) _

lemma load_stepLoop_le (node : Node) (b : Broker) : (node.stepLoop link now b).1.load ≤ node.load := by
  cases hrun : node.canRun with
  | false => rw [stepLoop_of_not_canRun hrun]
  | true =>
    obtain ⟨-, -, hp⟩ := canRun_iff.1 hrun
    simp only [stepLoop, hrun, Bool.not_true, Bool.false_eq_true, if_false]
    split
    · exact load_leave_le node b
    · split
      · exact Nat.le_refl _
      · next c rest hcommands =>
        have htaken : ({ node with commands := rest } : Node).load + 1 = node.load := by
          simp [load, hcommands]
          omega
        cases c with
        | send user text =>
          rw [← htaken]
          exact load_deliver_le { node with commands := rest } hp user text b
        | status => exact Nat.le_of_lt (Nat.lt_of_succ_le (Nat.le_of_eq htaken))
        | shutdown =>
          exact Nat.le_trans (load_leave_le { node with commands := rest } b)
            (Nat.le_of_lt (Nat.lt_of_succ_le (Nat.le_of_eq htaken)))

/-- Nothing that goes on by itself gives a node more to do. -/
lemma Goes.load_le (h : Goes link now node node') : node'.load ≤ node.load := by
  cases h with
  | station h => exact Nat.le_refl _
  | grant h => exact Nat.le_refl _
  | loop b => exact load_stepLoop_le node b
  | arrive b => exact load_arrive_le node b

lemma GoesOn.load_le (h : GoesOn link now node node') : node'.load ≤ node.load := by
  induction h with
  | refl => exact Nat.le_refl _
  | tail _ hlast ih => exact Nat.le_trans hlast.load_le ih

/-- A message stays on its way until it arrives, and then the node has less to do. -/
lemma GoesOn.publication (h : GoesOn link now node node') (hp : node.publication = some p) :
    node'.publication = some p ∨ node'.load < node.load := by
  induction h with
  | refl => exact Or.inl hp
  | @tail mid _ hfirst hlast ih =>
    rcases ih with hmid | hless
    · cases hlast with
      | station h => exact Or.inl hmid
      | grant h => exact Or.inl hmid
      | loop b =>
        have hrun : mid.canRun = false := by
          rw [← Bool.not_eq_true, canRun_iff, hmid]
          simp
        rw [stepLoop_of_not_canRun hrun]
        exact Or.inl hmid
      | arrive b =>
        have harrive := load_arrive link hmid b
        have hle := GoesOn.load_le hfirst
        exact Or.inr (by omega)
    · exact Or.inr (Nat.lt_of_le_of_lt hlast.load_le hless)

/-! ## A node that was told to end -/

/-- The loop has ended, or was given the signal to. -/
def Doomed (node : Node) : Prop :=
  node.phase = .exited ∨ node.phase = .running ∧ node.signalled = true

/-- The loop has ended, or was given the signal to and nothing keeps it from ending. -/
def Ending (node : Node) : Prop :=
  node.phase = .exited ∨
    node.phase = .running ∧ node.signalled = true ∧ node.isBlocked = false ∧ node.publication = none

lemma Ending.doomed (h : node.Ending) : node.Doomed :=
  h.imp_right fun h => ⟨h.1, h.2.1⟩

lemma Ending.exited (h : node.Ending) (hrun : node.canRun = false) : node.phase = .exited := by
  refine h.resolve_right ?_
  rintro ⟨hphase, -, hblocked, hp⟩
  rw [isBlocked_of_not_canRun hphase hp hrun] at hblocked
  cases hblocked

/-- A loop that was given the signal to end does so with its next step, if it can take one. -/
lemma Doomed.stepLoop_cases (link : Link) (now : Nat) (h : node.Doomed) (b : Broker) :
    (node.canRun = false ∧ (node.stepLoop link now b).1 = node) ∨
      (node.stepLoop link now b).1.phase = .exited := by
  cases hrun : node.canRun with
  | false => exact Or.inl ⟨rfl, by rw [stepLoop_of_not_canRun hrun]⟩
  | true =>
    obtain ⟨hphase, -, -⟩ := canRun_iff.1 hrun
    obtain ⟨-, hsignalled⟩ := h.resolve_left (by rw [hphase]; decide)
    right
    simp [stepLoop, hrun, hsignalled, leave, exit]

lemma Doomed.canRun_stepLoop (link : Link) (now : Nat) (h : node.Doomed) (b : Broker) :
    (node.stepLoop link now b).1.canRun = false := by
  rcases h.stepLoop_cases link now b with ⟨hrun, heq⟩ | hexited
  · rw [heq, hrun]
  · simp [canRun, hexited]

lemma Goes.doomed (h : Goes link now node node') (hd : node.Doomed) : node'.Doomed := by
  cases h with
  | station h => exact hd
  | grant h => exact hd
  | loop b =>
    rcases hd.stepLoop_cases link now b with ⟨-, heq⟩ | hexited
    · rwa [heq]
    · exact Or.inl hexited
  | arrive b =>
    cases hp : node.publication with
    | none => rwa [arrive_of_none hp]
    | some p =>
      obtain ⟨s, hs⟩ := arrive_eq link hp b
      rw [hs]
      exact hd

lemma Goes.ending (h : Goes link now node node') (he : node.Ending) : node'.Ending := by
  cases h with
  | station h =>
    exact he.imp_right fun ⟨hphase, hsignalled, hblocked, hp⟩ =>
      ⟨hphase, hsignalled, h.loop.trans hblocked, hp⟩
  | grant h =>
    refine he.imp_right fun ⟨hphase, hsignalled, hblocked, hp⟩ => ⟨hphase, hsignalled, ?_, hp⟩
    simp only [isBlocked, Mailbox.holds, Mailbox.put, List.any_append, Bool.or_eq_false_iff, h,
      List.any_cons] at hblocked ⊢
    exact ⟨hblocked.1, hblocked.2.2⟩
  | loop b =>
    rcases he.doomed.stepLoop_cases link now b with ⟨-, heq⟩ | hexited
    · rwa [heq]
    · exact Or.inl hexited
  | arrive b =>
    cases hp : node.publication with
    | none => rwa [arrive_of_none hp]
    | some p =>
      obtain ⟨s, hs⟩ := arrive_eq link hp b
      rw [hs]
      exact Or.inl (he.resolve_right fun h => by rw [h.2.2.2] at hp; cases hp)

lemma GoesOn.doomed (h : GoesOn link now node node') (hd : node.Doomed) : node'.Doomed := by
  induction h with
  | refl => exact hd
  | tail _ hlast ih => exact hlast.doomed ih

lemma GoesOn.ending (h : GoesOn link now node node') (he : node.Ending) : node'.Ending := by
  induction h with
  | refl => exact he
  | tail _ hlast ih => exact hlast.ending ih

/-! ## A node whose loop waits for a place -/

/-- The loop waits for a place, and nobody who was given one has not used it yet. -/
structure Stuck (node : Node) : Prop where
  running : node.phase = .running
  blocked : node.isBlocked = true
  granted : node.station.mailbox.granted = []

lemma Stuck.conclude (hs : node.Stuck) (result : Except RelayError Unit) :
    (node.conclude result).Stuck := by
  cases result with
  | ok => exact hs
  | error e =>
    rw [conclude_error]
    exact ⟨hs.running, Mailbox.holds_leave hs.blocked, (Mailbox.leave_granted ..).trans hs.granted⟩

/-- As long as nobody takes anything from the mailbox, a loop that waits for a place goes on waiting. -/
lemma Goes.stuck (h : Goes link now node node') (hs : node.Stuck) : node'.Stuck := by
  cases h with
  | station h =>
    exact ⟨hs.running, h.loop.trans hs.blocked, List.sublist_nil.1 (hs.granted ▸ h.granted)⟩
  | grant h =>
    rw [hs.granted] at h
    cases h
  | loop b =>
    have hrun : node.canRun = false := by
      rw [← Bool.not_eq_true, canRun_iff, hs.blocked]
      simp
    rwa [stepLoop_of_not_canRun hrun]
  | arrive b =>
    cases hp : node.publication with
    | none => rwa [arrive_of_none hp]
    | some p =>
      have hwithout : ({ node with publication := none } : Node).Stuck :=
        ⟨hs.running, hs.blocked, hs.granted⟩
      unfold Node.arrive
      rw [hp]
      exact hwithout.conclude _

lemma GoesOn.stuck (h : GoesOn link now node node') (hs : node.Stuck) : node'.Stuck := by
  induction h with
  | refl => exact hs
  | tail _ hlast ih => exact hlast.stuck ih

/-! ## Places that were given -/

@[simp] lemma conclude_granted (node : Node) (result : Except RelayError Unit) :
    (node.conclude result).station.mailbox.granted = node.station.mailbox.granted := by
  cases result with
  | ok => rfl
  | error e =>
    rw [conclude_error]
    exact Mailbox.leave_granted ..

lemma arrive_granted (node : Node) (b : Broker) :
    (node.arrive link b).1.station.mailbox.granted = node.station.mailbox.granted := by
  unfold arrive
  split
  · rfl
  · exact conclude_granted _ _

lemma leave_granted (node : Node) (b : Broker) :
    (node.leave link b).1.station.mailbox.granted.Sublist node.station.mailbox.granted := by
  have hclose : ∀ s : Station, (s.close link b).2.1.mailbox.granted.Sublist s.mailbox.granted := by
    intro s
    unfold Station.close
    split
    · exact List.Sublist.refl _
    · rw [Station.finishClose_eq]
      exact List.filter_sublist
  obtain ⟨direct, m, heq, hgranted⟩ := node.hangUp_eq
  rw [← hgranted, leave, heq]
  exact hclose _

lemma stepLoop_granted (node : Node) (b : Broker) :
    (node.stepLoop link now b).1.station.mailbox.granted.Sublist node.station.mailbox.granted := by
  unfold stepLoop
  split
  · exact List.Sublist.refl _
  · split
    · exact leave_granted node b
    · split
      · exact List.Sublist.refl _
      · next c rest _ =>
        cases c with
        | send user text =>
          simp only [handle, deliver]
          split
          · rw [conclude_granted]
            exact List.Sublist.refl _
          · split
            · rw [arrive_granted]
              exact List.Sublist.refl _
            · exact List.Sublist.refl _
        | status => exact List.Sublist.refl _
        | shutdown => exact leave_granted { node with commands := rest } b

/-- Nobody is given a place in a mailbox from which nothing is taken. -/
lemma Goes.granted (h : Goes link now node node') :
    node'.station.mailbox.granted.Sublist node.station.mailbox.granted := by
  cases h with
  | station h => exact h.granted
  | grant h =>
    rw [h]
    exact List.sublist_cons_self _ _
  | loop b => exact stepLoop_granted node b
  | arrive b => rw [arrive_granted]

lemma GoesOn.granted (h : GoesOn link now node node') :
    node'.station.mailbox.granted.Sublist node.station.mailbox.granted := by
  induction h with
  | refl => exact List.Sublist.refl _
  | tail _ hlast ih => exact hlast.granted.trans ih

end Node

/-! ## All nodes -/

namespace Exchange

variable {x x' x'' : Exchange} {seat : Seat} {n k : Nat} {node : Node} {p : Publication}

/-- What can happen to the nodes of an exchange by itself, at one moment. -/
structure Goes (x x' : Exchange) : Prop where
  link_eq : x'.link = x.link
  clock_eq : x'.clock = x.clock
  length_eq : x'.nodes.length = x.nodes.length
  node : ∀ {k : Nat} {node : Node}, x.nodes[k]? = some node →
    ∃ node', x'.nodes[k]? = some node' ∧ node.GoesOn x.link x.clock node'

namespace Goes

lemma of_nodes_eq (hlink : x'.link = x.link) (hclock : x'.clock = x.clock) (hnodes : x'.nodes = x.nodes) :
    Goes x x' :=
  ⟨hlink, hclock, by rw [hnodes], fun {_ node} hn => ⟨node, by rwa [hnodes], .refl⟩⟩

lemma refl (x : Exchange) : Goes x x :=
  .of_nodes_eq rfl rfl rfl

lemma trans (h : Goes x x') (h' : Goes x' x'') : Goes x x'' where
  link_eq := h'.link_eq.trans h.link_eq
  clock_eq := h'.clock_eq.trans h.clock_eq
  length_eq := h'.length_eq.trans h.length_eq
  node hn := by
    obtain ⟨node₁, hn₁, hgoes₁⟩ := h.node hn
    obtain ⟨node₂, hn₂, hgoes₂⟩ := h'.node hn₁
    rw [h.link_eq, h.clock_eq] at hgoes₂
    exact ⟨node₂, hn₂, hgoes₁.trans hgoes₂⟩

lemma foldl {α : Type} {f : Exchange → α → Exchange} (hf : ∀ x a, Goes x (f x a)) (l : List α)
    (x : Exchange) : Goes x (l.foldl f x) := by
  induction l generalizing x with
  | nil => exact .refl x
  | cons a rest ih => exact (hf x a).trans (ih _)

end Goes

lemma setNode_goesOn (hn : x.nodes[n]? = some node) {p : Node × Broker}
    (hgoes : node.GoesOn x.link x.clock p.1) : Goes x (x.withNode n p) where
  link_eq := rfl
  clock_eq := rfl
  length_eq := List.length_set
  node {k node'} hn' := by
    by_cases hk : k = n
    · subst hk
      rw [hn, Option.some.injEq] at hn'
      subst hn'
      exact ⟨p.1, withNode_nodes_self hn p, hgoes⟩
    · refine ⟨node', ?_, .refl⟩
      rw [withNode, setNode, List.getElem?_set_ne (Ne.symm hk)]
      exact hn'

lemma setNode_goes (hn : x.nodes[n]? = some node) {p : Node × Broker}
    (hgoes : node.Goes x.link x.clock p.1) : Goes x (x.withNode n p) :=
  setNode_goesOn hn (.single hgoes)

lemma onNode_goes {f : Node → Broker → Node × Broker}
    (hf : ∀ (node : Node) b, node.Goes x.link x.clock (f node b).1) : Goes x (x.onNode n f) := by
  cases hn : x.nodes[n]? with
  | none => simp only [onNode, hn]; exact .refl x
  | some node =>
    rw [onNode_eq hn]
    exact setNode_goes hn (hf node x.broker)

lemma place_goes {s s' : Station} {b : Broker} (hs : x.station? seat = some s)
    (hspares : s.mailbox.Spares s'.mailbox) : Goes x (x.place seat s' b) := by
  cases seat with
  | relay n => exact .of_nodes_eq rfl rfl rfl
  | node n =>
    obtain ⟨node, hn, rfl⟩ := Option.map_eq_some_iff.1 hs
    rw [place_node hn]
    exact setNode_goes hn (.station hspares)

lemma onStation_goes {f : Station → Broker → Station × Broker}
    (hf : ∀ (s : Station) b, s.mailbox.Spares (f s b).1.mailbox) : Goes x (x.onStation seat f) := by
  cases hs : x.station? seat with
  | none => simp only [onStation, hs]; exact .refl x
  | some s =>
    rw [onStation_eq hs]
    exact place_goes hs (hf s x.broker)

lemma runConsumers_goes (x : Exchange) : Goes x x.runConsumers :=
  .foldl (fun _ _ => onStation_goes Station.runConsumers_spares) _ x

lemma noteUnderway_goes (x : Exchange) (n : Nat) : Goes x (x.noteUnderway n) := by
  rcases noteUnderway_cases x n with h | h <;> rw [h]
  · exact .refl x
  · exact .of_nodes_eq rfl rfl rfl

lemma runLoop_goes (n steps : Nat) (x : Exchange) : Goes x (x.runLoop n steps) := by
  induction steps generalizing x with
  | zero => exact .refl x
  | succ steps ih => exact (onNode_goes fun node b => .loop node b).trans (ih _)

lemma finishLoop_goes (x : Exchange) (n : Nat) : Goes x (x.finishLoop n) := by
  unfold finishLoop
  split
  · exact .refl x
  · exact (runLoop_goes n _ x).trans (noteUnderway_goes _ n)

/-- The loop of a node goes on after its message has arrived. -/
lemma finishLoop_goes_of_filter (x : Exchange) (n : Nat) :
    Goes x (({ x with underway := x.underway.filter (· != n) } : Exchange).finishLoop n) := by
  have hlisted : Goes x { x with underway := x.underway.filter (· != n) } := .of_nodes_eq rfl rfl rfl
  exact hlisted.trans (finishLoop_goes _ n)

lemma arriveAt_goes (x : Exchange) (n : Nat) : Goes x (x.arriveAt n) := by
  unfold arriveAt
  split
  · exact (onNode_goes fun node b => .arrive node b).trans (finishLoop_goes_of_filter _ n)
  · exact .refl x

/-- The exchange after somebody at a seat has used his place. -/
def grantUsed (x : Exchange) (seat : Seat) (s : Station) (event : Event) (rest : List (Sender × Event)) :
    Exchange :=
  x.place seat { s with mailbox := ({ s.mailbox with granted := rest } : Mailbox).put event } x.broker

lemma grantUsed_goes {s : Station} {sender : Sender} {event : Event} {rest : List (Sender × Event)}
    (hs : x.station? seat = some s) (hg : s.mailbox.granted = (sender, event) :: rest) :
    Goes x (x.grantUsed seat s event rest) := by
  cases seat with
  | relay n => exact .of_nodes_eq rfl rfl rfl
  | node n =>
    obtain ⟨node, hn, rfl⟩ := Option.map_eq_some_iff.1 hs
    rw [grantUsed, place_node hn]
    exact setNode_goes hn (.grant hg)

/-- Whoever has used his place goes on. -/
lemma useGrants_succ {s : Station} {sender : Sender} {event : Event} {rest : List (Sender × Event)}
    (hs : x.station? seat = some s) (hg : s.mailbox.granted = (sender, event) :: rest) (count : Nat) :
    ∃ y, Goes (x.grantUsed seat s event rest) y ∧ x.useGrants seat (count + 1) = y.useGrants seat count := by
  have huse : s.mailbox.useGrant =
      some (sender, ({ s.mailbox with granted := rest } : Mailbox).put event) := by
    simp only [Mailbox.useGrant, hg]
  rw [useGrants]
  simp only [hs, huse]
  refine ⟨_, ?_, rfl⟩
  split
  · exact onStation_goes fun s b => Station.resume_spares s b _
  · exact finishLoop_goes _ _
  · exact .refl _
  · exact .refl _
  · exact .refl _

lemma useGrants_goes (seat : Seat) (count : Nat) (x : Exchange) : Goes x (x.useGrants seat count) := by
  induction count generalizing x with
  | zero => exact .refl x
  | succ count ih =>
    cases hs : x.station? seat with
    | none => simp only [useGrants, hs]; exact .refl x
    | some s =>
      cases hg : s.mailbox.granted with
      | nil => simp only [useGrants, hs, Mailbox.useGrant, hg]; exact .refl x
      | cons first rest =>
        obtain ⟨y, hgoes, heq⟩ := useGrants_succ hs hg count
        rw [heq]
        exact ((grantUsed_goes hs hg).trans hgoes).trans (ih y)

lemma resumeSeat_goes (x : Exchange) (seat : Seat) : Goes x (x.resumeSeat seat) := by
  unfold resumeSeat
  split
  · exact .refl x
  · exact useGrants_goes seat _ x

/-- The exchange after those who were given a place have gone on. -/
def resumed (x : Exchange) : Exchange :=
  x.seats.foldl resumeSeat x

/-- The exchange after all messages that are due have arrived as well. -/
def arrived (x : Exchange) : Exchange :=
  x.resumed.underway.foldl arriveAt x.resumed

/-- The exchange after all loops have gone on as well. -/
def looped (x : Exchange) : Exchange :=
  (List.range x.arrived.nodes.length).foldl finishLoop x.arrived

lemma quiesce_eq_runConsumers (x : Exchange) : x.quiesce = x.looped.beginTasks.runConsumers := rfl

lemma resumed_goes (x : Exchange) : Goes x x.resumed :=
  .foldl resumeSeat_goes _ x

lemma arrived_goes (x : Exchange) : Goes x.resumed x.arrived :=
  .foldl arriveAt_goes _ _

lemma looped_goes (x : Exchange) : Goes x.arrived x.looped :=
  .foldl finishLoop_goes _ _

lemma beginTasksAt_goes (x : Exchange) (n : Nat) : Goes x (x.beginTasksAt n) := by
  unfold beginTasksAt
  cases hn : x.nodes[n]? with
  | none => simp only [onNode, hn]; exact .refl x
  | some node =>
    rw [onNode_eq hn]
    exact setNode_goesOn hn node.beginTasks_turns.goesOn

lemma beginTasks_goes (x : Exchange) : Goes x x.beginTasks :=
  .foldl beginTasksAt_goes _ x

/-- What comes after the loops have gone on. -/
lemma begun_goes (x : Exchange) : Goes x.looped x.quiesce :=
  (beginTasks_goes x.looped).trans (runConsumers_goes _)

lemma quiesce_goes (x : Exchange) : Goes x x.quiesce :=
  (((resumed_goes x).trans (arrived_goes x)).trans (looped_goes x)).trans (begun_goes x)

/-! ## How long it takes -/

/-- How much all nodes have to do. -/
def load (x : Exchange) : Nat :=
  (x.nodes.map Node.load).sum

lemma load_le_pendingCount (x : Exchange) : x.load ≤ x.pendingCount := by
  have hcount : ∀ (nodes : List Node) (count : Nat),
      count + (nodes.map Node.load).sum ≤ nodes.foldl (fun count n => count + (n.commands.length + 1)) count := by
    intro nodes
    induction nodes with
    | nil => exact fun count => Nat.le_refl _
    | cons node rest ih =>
      intro count
      have hle : node.load ≤ node.commands.length + 1 := by
        rw [Node.load]
        split <;> omega
      have hrest := ih (count + (node.commands.length + 1))
      rw [List.map_cons, List.sum_cons, List.foldl_cons]
      omega
  have hall := hcount x.nodes 0
  rwa [Nat.zero_add] at hall

lemma sum_load_le {before after : List Node} (hlength : after.length = before.length)
    (hle : ∀ {k : Nat} {node node' : Node}, before[k]? = some node → after[k]? = some node' →
      node'.load ≤ node.load) : (after.map Node.load).sum ≤ (before.map Node.load).sum := by
  induction before generalizing after with
  | nil => rw [List.eq_nil_of_length_eq_zero hlength]
  | cons first rest ih =>
    obtain ⟨first', rest', rfl⟩ := List.exists_cons_of_length_eq_add_one hlength
    have hrest := ih (Nat.succ.inj hlength) fun {k _ _} h h' => hle (k := k + 1) h h'
    exact Nat.add_le_add (hle (k := 0) rfl rfl) hrest

/-- If no node has more to do, and one has less, then all together have less to do. -/
lemma sum_load_lt {before after : List Node} (hlength : after.length = before.length)
    (hle : ∀ {k : Nat} {node node' : Node}, before[k]? = some node → after[k]? = some node' →
      node'.load ≤ node.load)
    {node' : Node} (hk : before[k]? = some node) (hk' : after[k]? = some node')
    (hlt : node'.load < node.load) : (after.map Node.load).sum < (before.map Node.load).sum := by
  induction before generalizing after k with
  | nil => simp at hk
  | cons first rest ih =>
    obtain ⟨first', rest', rfl⟩ := List.exists_cons_of_length_eq_add_one hlength
    have htail : ∀ {k : Nat} {node node' : Node}, rest[k]? = some node → rest'[k]? = some node' →
        node'.load ≤ node.load := fun {k _ _} h h' => hle (k := k + 1) h h'
    cases k with
    | zero =>
      cases hk
      cases hk'
      exact Nat.add_lt_add_of_lt_of_le hlt (sum_load_le (Nat.succ.inj hlength) htail)
    | succ k =>
      exact Nat.add_lt_add_of_le_of_lt (hle (k := 0) rfl rfl) (ih (Nat.succ.inj hlength) htail hk hk')

lemma Goes.load_lt (h : Goes x x') {node' : Node} (hk : x.nodes[k]? = some node)
    (hk' : x'.nodes[k]? = some node') (hlt : node'.load < node.load) : x'.load < x.load := by
  refine sum_load_lt h.length_eq ?_ hk hk' hlt
  intro i node₁ node₂ hi hi'
  obtain ⟨node₃, hn₃, hgoes⟩ := h.node hi
  rw [hi', Option.some.injEq] at hn₃
  subst hn₃
  exact hgoes.load_le

/-- A message that is due arrives, if it was still on its way. -/
lemma arriveAt_lt (hn : x.nodes[k]? = some node) (hp : node.publication = some p)
    (hdue : p.due ≤ x.clock) : ∃ node', (x.arriveAt k).nodes[k]? = some node' ∧ node'.load < node.load := by
  have hcond : (x.dueOf k).any (· ≤ x.clock) = true := by
    simp [dueOf, hn, hp, hdue]
  have harrived : (x.onNode k (Node.arrive x.link)).nodes[k]? = some (node.arrive x.link x.broker).1 := by
    rw [onNode_eq hn]
    exact withNode_nodes_self hn _
  obtain ⟨node', hn', hgoes⟩ := (finishLoop_goes_of_filter _ k).node harrived
  refine ⟨node', ?_, ?_⟩
  · rw [arriveAt, if_pos hcond]
    exact hn'
  · have hless := Node.load_arrive x.link hp x.broker
    have hle := hgoes.load_le
    omega

/-- A message that is due arrives when all messages that are due do. -/
lemma foldl_arriveAt_lt (l : List Nat) (hmem : k ∈ l) (hn : x.nodes[k]? = some node)
    (hp : node.publication = some p) (hdue : p.due ≤ x.clock) :
    ∃ node', (l.foldl arriveAt x).nodes[k]? = some node' ∧ node'.load < node.load := by
  induction l generalizing x node with
  | nil => cases hmem
  | cons first rest ih =>
    -- once the node has less to do, this stays so
    have hrest : ∀ {node₁ : Node}, (x.arriveAt first).nodes[k]? = some node₁ → node₁.load < node.load →
        ∃ node', (rest.foldl arriveAt (x.arriveAt first)).nodes[k]? = some node' ∧
          node'.load < node.load := by
      intro node₁ hn₁ hlt
      obtain ⟨node₂, hn₂, hgoes⟩ := (Goes.foldl arriveAt_goes rest (x.arriveAt first)).node hn₁
      exact ⟨node₂, hn₂, Nat.lt_of_le_of_lt hgoes.load_le hlt⟩
    rw [List.foldl_cons]
    by_cases hfirst : k = first
    · subst hfirst
      obtain ⟨node₁, hn₁, hlt⟩ := arriveAt_lt hn hp hdue
      exact hrest hn₁ hlt
    · obtain ⟨node₁, hn₁, hgoes⟩ := (arriveAt_goes x first).node hn
      rcases hgoes.publication hp with hp₁ | hlt
      · have hdue₁ : p.due ≤ (x.arriveAt first).clock := by rwa [(arriveAt_goes x first).clock_eq]
        obtain ⟨node₂, hn₂, hlt⟩ := ih ((List.mem_cons.1 hmem).resolve_left hfirst) hn₁ hp₁ hdue₁
        exact ⟨node₂, hn₂, Nat.lt_of_lt_of_le hlt hgoes.load_le⟩
      · exact hrest hn₁ hlt

lemma resumed_onwards (hx : x.Shipshape) : Onwards x x.resumed :=
  foldl_onwards (fun _ seat hy => resumeSeat_onwards seat hy) _ hx

/-- When time has gone on to the moment at which a message is due, the nodes get on with their work. -/
lemma quiesce_load_lt (hx : x.Shipshape) (hn : x.nodes[k]? = some node) (hp : node.publication = some p)
    (hdue : p.due ≤ x.clock) : x.quiesce.load < x.load := by
  suffices h : ∃ node', x.arrived.nodes[k]? = some node' ∧ node'.load < node.load by
    obtain ⟨node₁, hn₁, hlt⟩ := h
    have hlast : Goes x.arrived x.quiesce := (looped_goes x).trans (begun_goes x)
    obtain ⟨node₂, hn₂, hgoes⟩ := hlast.node hn₁
    exact (quiesce_goes x).load_lt hn hn₂ (Nat.lt_of_le_of_lt hgoes.load_le hlt)
  obtain ⟨node₁, hn₁, hgoes⟩ := (resumed_goes x).node hn
  rcases hgoes.publication hp with hp₁ | hlt
  · have hshape := (resumed_onwards hx).shipshape hx
    have hmem : k ∈ x.resumed.underway := hshape.noted hn₁ (by rw [hp₁]; rfl)
    have hdue₁ : p.due ≤ x.resumed.clock := by rwa [(resumed_goes x).clock_eq]
    obtain ⟨node₂, hn₂, hlt⟩ := foldl_arriveAt_lt x.resumed.underway hmem hn₁ hp₁ hdue₁
    exact ⟨node₂, hn₂, Nat.lt_of_lt_of_le hlt hgoes.load_le⟩
  · obtain ⟨node₂, hn₂, hgoes₂⟩ := (arrived_goes x).node hn₁
    exact ⟨node₂, hn₂, Nat.lt_of_le_of_lt hgoes₂.load_le hlt⟩

lemma nextDue?_eq_some {due : Nat} (h : x.nextDue? = some due) :
    ∃ (k : Nat) (node : Node) (p : Publication), x.nodes[k]? = some node ∧ node.publication = some p ∧
      p.due = due := by
  have hmem := List.min?_mem h
  obtain ⟨k, -, hdue⟩ := List.mem_filterMap.1 hmem
  obtain ⟨node, hn, hdue⟩ := Option.bind_eq_some_iff.1 hdue
  obtain ⟨p, hp, rfl⟩ := Option.map_eq_some_iff.1 hdue
  exact ⟨k, node, p, hn, hp, rfl⟩

/-- When no message is due at any time, none is on its way. -/
lemma publication_of_nextDue? (hx : x.Shipshape) (h : x.nextDue? = none) (hn : x.nodes[k]? = some node) :
    node.publication = none := by
  cases hp : node.publication with
  | none => rfl
  | some p =>
    have hmem : k ∈ x.underway := hx.noted hn (by rw [hp]; rfl)
    have hdue : p.due ∈ x.underway.filterMap x.dueOf :=
      List.mem_filterMap.2 ⟨k, hmem, by simp [dueOf, hn, hp]⟩
    rw [nextDue?, List.min?_eq_none_iff] at h
    rw [h] at hdue
    cases hdue

/-- What one round keeps, waiting keeps. -/
lemma waitFor_induction {P : Exchange → Prop} (done : Exchange → Bool) (fuel : Nat)
    (hstep : ∀ y clock, P y → P ({ y with clock } : Exchange).quiesce) (h : P x) : P (x.waitFor done fuel) := by
  induction fuel generalizing x with
  | zero => exact h
  | succ fuel ih =>
    unfold waitFor
    split
    · exact h
    · split
      · exact h
      · exact ih (hstep x _ h)

/-- **There are enough rounds**: whoever waits has what he waits for in the end, or there is nothing more to
wait for. -/
lemma waitFor_settles (done : Exchange → Bool) {fuel : Nat} (hx : x.Shipshape) (hfuel : x.load < fuel) :
    done (x.waitFor done fuel) = true ∨ (x.waitFor done fuel).nextDue? = none := by
  induction fuel generalizing x with
  | zero => omega
  | succ fuel ih =>
    unfold waitFor
    split
    · next hdone => exact Or.inl hdone
    · split
      · next hnone => exact Or.inr hnone
      · next due hdue =>
        obtain ⟨k, node, p, hn, hp, rfl⟩ := nextDue?_eq_some hdue
        have hticked := tick_onwards x (max x.clock p.due) hx.noted
        have hx₁ := hticked.shipshape hx
        have hless := quiesce_load_lt hx₁ hn hp (Nat.le_max_right _ _)
        have hsame : ({ x with clock := max x.clock p.due } : Exchange).load = x.load := rfl
        exact ih ((quiesce_onwards hx₁).shipshape hx₁) (by omega)

lemma wait_settles (done : Exchange → Bool) (hx : x.Shipshape) :
    done (x.wait done) = true ∨ (x.wait done).nextDue? = none :=
  waitFor_settles done ((quiesce_onwards hx).shipshape hx)
    (Nat.lt_succ_of_le (load_le_pendingCount x.quiesce))

/-! ## Rest -/

/-- A node was told to end, and its loop can take no step. -/
def Halted (x : Exchange) (n : Nat) : Prop :=
  ∃ node, x.nodes[n]? = some node ∧ node.Doomed ∧ node.canRun = false

lemma onNode_nodes_of_ne (h : k ≠ n) (f : Node → Broker → Node × Broker) :
    (x.onNode n f).nodes[k]? = x.nodes[k]? := by
  cases hn : x.nodes[n]? with
  | none => simp only [onNode, hn]
  | some node =>
    rw [onNode_eq hn]
    exact List.getElem?_set_ne (Ne.symm h)

lemma finishLoop_nodes_of_ne (h : k ≠ n) : (x.finishLoop n).nodes[k]? = x.nodes[k]? := by
  have hrun : ∀ (steps : Nat) (y : Exchange), (y.runLoop n steps).nodes[k]? = y.nodes[k]? := by
    intro steps
    induction steps with
    | zero => exact fun _ => rfl
    | succ steps ih =>
      intro y
      rw [runLoop, ih, onNode_nodes_of_ne h]
  unfold finishLoop
  split
  · rfl
  · rw [noteUnderway_nodes, hrun]

/-- A loop that was told to end can take no step after it has gone on. -/
lemma finishLoop_halted (hn : x.nodes[n]? = some node) (hd : node.Doomed) : (x.finishLoop n).Halted n := by
  have hfirst : (x.onNode n (Node.stepLoop x.link x.clock)).nodes[n]? =
      some (node.stepLoop x.link x.clock x.broker).1 := by
    rw [onNode_eq hn]
    exact withNode_nodes_self hn _
  have hrun := hd.canRun_stepLoop x.link x.clock x.broker
  refine ⟨_, ?_, Node.Goes.doomed (.loop node x.broker) hd, hrun⟩
  unfold finishLoop
  rw [hn]
  simp only [noteUnderway_nodes, runLoop]
  rw [runLoop_of_not_canRun hfirst hrun]
  exact hfirst

lemma Halted.finishLoop (h : x.Halted n) (k : Nat) : (x.finishLoop k).Halted n := by
  obtain ⟨node, hn, hd, hrun⟩ := h
  by_cases hk : n = k
  · subst hk
    exact finishLoop_halted hn hd
  · exact ⟨node, by rwa [finishLoop_nodes_of_ne hk], hd, hrun⟩

lemma Halted.foldl_finishLoop (l : List Nat) (h : x.Halted n) : (l.foldl Exchange.finishLoop x).Halted n := by
  induction l generalizing x with
  | nil => exact h
  | cons k rest ih => exact ih (h.finishLoop k)

lemma foldl_finishLoop_halted (l : List Nat) (hmem : n ∈ l) (hn : x.nodes[n]? = some node)
    (hd : node.Doomed) : (l.foldl finishLoop x).Halted n := by
  induction l generalizing x with
  | nil => cases hmem
  | cons first rest ih =>
    rw [List.foldl_cons]
    by_cases hfirst : n = first
    · subst hfirst
      exact (finishLoop_halted hn hd).foldl_finishLoop rest
    · exact ih ((List.mem_cons.1 hmem).resolve_left hfirst) (by rwa [finishLoop_nodes_of_ne hfirst])

/-- Consumers do not change whether the loop can take a step. -/
lemma Halted.onStation (h : x.Halted n) (seat : Seat) : (x.onStation seat Station.runConsumers).Halted n := by
  obtain ⟨node, hn, hd, hrun⟩ := h
  cases hs : x.station? seat with
  | none =>
    simp only [Exchange.onStation, hs]
    exact ⟨node, hn, hd, hrun⟩
  | some s =>
    rw [onStation_eq hs]
    refine ⟨_, by rw [place_nodes, hn, Option.map_some], ?_, ?_⟩
    · split <;> exact hd
    · split
      · next hseat =>
        subst hseat
        obtain ⟨node', hn', rfl⟩ := Option.map_eq_some_iff.1 hs
        rw [hn, Option.some.injEq] at hn'
        subst hn'
        have hsame := (Station.runConsumers_spares node.station x.broker).loop
        simp only [Node.canRun, Node.isBlocked] at hrun ⊢
        rw [hsame]
        exact hrun
      · exact hrun

lemma Halted.runConsumers (h : x.Halted n) : x.runConsumers.Halted n := by
  unfold Exchange.runConsumers
  generalize x.seats = seats
  induction seats generalizing x with
  | nil => exact h
  | cons seat rest ih => exact ih (h.onStation seat)

/-- Direct relays do not either. -/
lemma Halted.beginTasksAt (h : x.Halted n) (k : Nat) : (x.beginTasksAt k).Halted n := by
  obtain ⟨node, hn, hd, hrun⟩ := h
  obtain ⟨node', hn', hgoes⟩ := (beginTasksAt_goes x k).node hn
  refine ⟨node', hn', hgoes.doomed hd, ?_⟩
  unfold Exchange.beginTasksAt at hn'
  by_cases hk : k = n
  · subst hk
    rw [onNode_eq hn, withNode_nodes_self hn, Option.some.injEq] at hn'
    rw [← hn', ← hrun]
    exact node.beginTasks_turns.canRun_eq
  · rw [onNode_nodes_of_ne (Ne.symm hk), hn, Option.some.injEq] at hn'
    rwa [← hn']

lemma Halted.beginTasks (h : x.Halted n) : x.beginTasks.Halted n := by
  unfold Exchange.beginTasks
  generalize List.range x.nodes.length = l
  induction l generalizing x with
  | nil => exact h
  | cons k rest ih => exact ih (h.beginTasksAt k)

/-- **After everything has gone on, a loop that was told to end can take no step.** -/
lemma quiesce_halted (hn : x.nodes[n]? = some node) (hd : node.Doomed) : x.quiesce.Halted n := by
  rw [quiesce_eq_runConsumers]
  obtain ⟨node', hn', hgoes⟩ := ((resumed_goes x).trans (arrived_goes x)).node hn
  have hlt : n < x.arrived.nodes.length := (List.getElem?_eq_some_iff.1 hn').1
  exact (foldl_finishLoop_halted _ (List.mem_range.2 hlt) hn' (hgoes.doomed hd)).beginTasks.runConsumers

/-- Everybody at a node who was given a place has used it. -/
def Quiet (x : Exchange) (n : Nat) : Prop :=
  ∃ node, x.nodes[n]? = some node ∧ node.station.mailbox.granted = []

lemma Quiet.goes (h : x.Quiet n) (hgoes : Goes x x') : x'.Quiet n := by
  obtain ⟨node, hn, hgranted⟩ := h
  obtain ⟨node', hn', hgoes⟩ := hgoes.node hn
  have hsublist := hgoes.granted
  rw [hgranted] at hsublist
  exact ⟨node', hn', List.sublist_nil.1 hsublist⟩

/-- The loop of a node waits for a place, and goes on waiting. -/
def Jammed (x : Exchange) (n : Nat) : Prop :=
  ∃ node, x.nodes[n]? = some node ∧ node.Stuck

lemma Jammed.goes (h : x.Jammed n) (hgoes : Goes x x') : x'.Jammed n := by
  obtain ⟨node, hn, hs⟩ := h
  obtain ⟨node', hn', hgoes⟩ := hgoes.node hn
  exact ⟨node', hn', hgoes.stuck hs⟩

lemma useGrants_quiet {count : Nat} (hn : x.nodes[n]? = some node)
    (hcount : node.station.mailbox.granted.length ≤ count) : (x.useGrants (.node n) count).Quiet n := by
  induction count generalizing x node with
  | zero => exact ⟨node, hn, List.eq_nil_of_length_eq_zero (Nat.le_zero.1 hcount)⟩
  | succ count ih =>
    have hs : x.station? (.node n) = some node.station := Option.map_eq_some_iff.2 ⟨node, hn, rfl⟩
    cases hg : node.station.mailbox.granted with
    | nil => exact Quiet.goes ⟨node, hn, hg⟩ (useGrants_goes _ _ x)
    | cons first rest =>
      obtain ⟨y, hgoes, heq⟩ := useGrants_succ hs hg count
      have hused : (x.grantUsed (.node n) node.station first.2 rest).nodes[n]? =
          some { node with station := { node.station with
            mailbox := ({ node.station.mailbox with granted := rest } : Mailbox).put first.2 } } := by
        rw [grantUsed, place_node hn]
        exact withNode_nodes_self hn _
      obtain ⟨node₁, hn₁, hgoes₁⟩ := hgoes.node hused
      rw [heq]
      rw [hg, List.length_cons] at hcount
      exact ih hn₁ (Nat.le_trans hgoes₁.granted.length_le (Nat.le_of_succ_le_succ hcount))

/-- **After everything has gone on, nobody has a place that he has not used.** -/
lemma quiesce_quiet (hn : n < x.nodes.length) : x.quiesce.Quiet n := by
  have hseats : ∀ (l : List Seat) {y : Exchange}, .node n ∈ l → n < y.nodes.length →
      (l.foldl resumeSeat y).Quiet n := by
    intro l
    induction l with
    | nil => exact fun hmem => by cases hmem
    | cons seat rest ih =>
      intro y hmem hlt
      rw [List.foldl_cons]
      by_cases hseat : .node n = seat
      · subst hseat
        have hy : y.nodes[n]? = some y.nodes[n] := List.getElem?_eq_getElem hlt
        have hresume : y.resumeSeat (.node n) =
            y.useGrants (.node n) y.nodes[n].station.mailbox.granted.length := by
          rw [resumeSeat, station?, hy, Option.map_some]
        have hquiet : (y.resumeSeat (.node n)).Quiet n := by
          rw [hresume]
          exact useGrants_quiet hy (Nat.le_refl _)
        exact hquiet.goes (.foldl resumeSeat_goes rest _)
      · refine ih ((List.mem_cons.1 hmem).resolve_left hseat) ?_
        rwa [(resumeSeat_goes y seat).length_eq]
  have hmem : .node n ∈ x.seats :=
    List.mem_append_right _ (List.mem_map_of_mem (List.mem_range.2 hn))
  have hresumed : x.resumed.Quiet n := hseats x.seats hmem hn
  exact hresumed.goes (((arrived_goes x).trans (looped_goes x)).trans (begun_goes x))

end Exchange

end MessageRelay
