import MessageRelay.Proofs.Exchange.Roster

/-!
# Rest

Between two commands an exchange is at rest: nobody has a place in a mailbox that he has not used, no loop can
take a step, no direct relay has yet to begin what it was asked to, and every consumer waits for a place or for
a message.  Everything comes to rest when it goes on
(`rested_quiesce`).  At rest nothing goes on but with time (`quiesce_of_rested`), and if no message is on its
way then nothing does with time either (`pass_of_rested`).
-/

namespace MessageRelay

namespace Broker

variable {b b' : Broker} {i j : Nat}

/-- There is nothing in a stream. -/
def Dry (b : Broker) (i : Nat) : Prop :=
  ∃ stream, b.streams[i]? = some stream ∧ stream.buffer = []

lemma dry_of_poll (h : b.poll i = (.pending, b')) : b.Dry i := by
  unfold poll at h
  split at h
  · cases h
  · next stream hs =>
    split at h
    · next hbuffer => exact ⟨stream, hs, hbuffer⟩
    · cases h

lemma poll_of_dry (h : b.Dry i) (hfed : b.isFed i = true) : b.poll i = (.pending, b) := by
  obtain ⟨stream, hs, hbuffer⟩ := h
  simp only [poll, hs, hbuffer, hfed, if_true]

lemma Dry.modifyStream (h : b.Dry i) (f : Stream → Stream) (hij : j ≠ i) : (b.modifyStream j f).Dry i := by
  obtain ⟨stream, hs, hbuffer⟩ := h
  refine ⟨stream, ?_, hbuffer⟩
  rw [modifyStream_streams, hs, Option.map_some, if_neg hij]

lemma Dry.poll (h : b.Dry i) (hij : j ≠ i) : (b.poll j).2.Dry i := by
  rcases poll_cases b j with (hp | hp) | ⟨stream, tag, payload, rest, -, -, hp⟩ <;> rw [hp]
  · exact h
  · exact h
  · exact h.modifyStream _ hij

lemma settle_streams (b : Broker) (verdict : Verdict) (d : Delivery) :
    (b.settle verdict d).2.streams = b.streams := by
  rcases settle_cases b verdict d with ⟨h, -⟩ | ⟨q, -, -, -, h⟩ <;> rw [h]
  rfl

lemma Dry.settle (h : b.Dry i) (d : Delivery) : (Relay.settle b d).2.Dry i := by
  rw [Dry, Relay.settle, settle_streams]
  exact h

end Broker

namespace Station

variable {s s' : Station} {b b' : Broker} {c c' : Consumer} {i j : Nat}

/-! ## Consumers -/

/-- A consumer can do nothing: it waits for a place, or there is nothing in its stream. -/
def Idle (s : Station) (b : Broker) (c : Consumer) : Prop :=
  s.mailbox.holds (.consumer c.stream) = true ∨ (c.broken = false ∧ b.Dry c.stream)

/-- A consumer has stopped or can do nothing. -/
def Done (p : Station × Broker) (c : Consumer) : Prop :=
  c ∈ p.1.relay.consumers → p.1.Idle p.2 c

lemma done_stopConsumer (s : Station) (b : Broker) (c : Consumer) : Done (s.stopConsumer c.stream b) c := by
  intro hc
  have hne := (List.mem_filter.1 hc).2
  rw [bne_self_eq_false] at hne
  cases hne

lemma backlog_of_some {stream : Stream} (h : b.streams[i]? = some stream) :
    backlog b i = stream.buffer.length := by
  rw [backlog, h]
  rfl

/-- There is one message less in a stream from which one was taken. -/
lemma backlog_behead {stream : Stream} {e : Nat × Bytes} {rest : List (Nat × Bytes)} (d : Delivery)
    (h : b.streams[i]? = some stream) (hbuffer : stream.buffer = e :: rest) :
    backlog (Relay.settle (b.modifyStream i Stream.behead) d).2 i = rest.length := by
  have hs : (Relay.settle (b.modifyStream i Stream.behead) d).2.streams[i]? = some stream.behead := by
    rw [Relay.settle, Broker.settle_streams, Broker.modifyStream_streams, h, Option.map_some, if_pos rfl]
  rw [backlog_of_some hs, Stream.behead, hbuffer]
  rfl

/-- The broker after a consumer has taken a message from its stream and settled it. -/
def served (b : Broker) (i : Nat) (d : Delivery) : Broker :=
  (Relay.settle (b.modifyStream i Stream.behead) d).2

/-- What a consumer does with its stream: nothing is there, it stops, or it takes a message, which it posts, waits
with, or has to keep. -/
lemma consume_succ_cases (i n : Nat) (s : Station) (b : Broker) :
    (consume i (n + 1) s b = (s, b) ∧ b.Dry i) ∨
    consume i (n + 1) s b = s.stopConsumer i b ∨
    ∃ d, backlog (served b i d) i + 1 = backlog b i ∧
      ((∃ m event, s.mailbox.offer (.consumer i) event = .posted m ∧
          consume i (n + 1) s b = consume i n { s with mailbox := m } (served b i d)) ∨
        (∃ m event, s.mailbox.offer (.consumer i) event = .waits m ∧
          consume i (n + 1) s b = ({ s with mailbox := m }, served b i d)) ∨
        consume i (n + 1) s b = s.stopConsumer i (served b i d)) := by
  rw [consume]
  rcases Broker.poll_cases b i with (hp | hp) | ⟨stream, tag, payload, rest, hs, hbuffer, hp⟩
  · exact Or.inl ⟨by rw [hp], Broker.dry_of_poll hp⟩
  · exact Or.inr (Or.inl (by rw [hp]))
  · refine Or.inr (Or.inr ⟨⟨stream.queue, tag, payload, stream.mode = .manual⟩, ?_, ?_⟩)
    · rw [served, backlog_behead _ hs hbuffer, backlog_of_some hs, hbuffer, List.length_cons]
    · rw [hp]
      cases hoffer : s.mailbox.offer (.consumer i) (Relay.eventOf payload).1 with
      | posted m =>
        simp only [Relay.settle, hoffer]
        exact Or.inl ⟨m, _, hoffer, rfl⟩
      | waits m =>
        simp only [Relay.settle, hoffer]
        exact Or.inr (Or.inl ⟨m, _, hoffer, rfl⟩)
      | refused =>
        simp only [Relay.settle, hoffer]
        exact Or.inr (Or.inr rfl)

/-- A consumer goes on until it can do no more. -/
lemma done_consume (hwhole : c.broken = false) {n : Nat} (hn : backlog b c.stream < n) :
    Done (consume c.stream n s b) c := by
  induction n generalizing s b with
  | zero => cases hn
  | succ n ih =>
    rcases consume_succ_cases c.stream n s b with
      ⟨heq, hdry⟩ | heq | ⟨d, hless, ⟨m, event, -, heq⟩ | ⟨m, event, hoffer, heq⟩ | heq⟩ <;> rw [heq]
    · exact fun _ => Or.inr ⟨hwhole, hdry⟩
    · exact done_stopConsumer s b c
    · exact ih (by omega)
    · obtain ⟨-, -, rfl⟩ := Mailbox.offer_eq_waits hoffer
      exact fun _ => Or.inl (by simp [Mailbox.holds])
    · exact done_stopConsumer s _ c

lemma done_runConsumer (s : Station) (b : Broker) (c : Consumer) : Done (s.runConsumer b c) c := by
  unfold runConsumer
  split
  · next hholds => exact fun _ => Or.inl hholds
  · split
    · exact done_stopConsumer s b c
    · next hwhole => exact done_consume (by simpa using hwhole) (Nat.lt_succ_self _)

/-! ## The others -/

lemma holds_forget {m : Mailbox} (h : m.holds (.consumer j) = true) (hij : i ≠ j) :
    (m.forget (.consumer i)).holds (.consumer j) = true := by
  obtain ⟨e, he, hj⟩ := List.any_eq_true.1 h
  refine List.any_eq_true.2 ⟨e, ?_, hj⟩
  have hstays : (e.1 != .consumer i) = true := by
    rw [eq_of_beq hj, bne_iff_ne]
    exact fun heq => hij (Sender.consumer.inj heq).symm
  rcases List.mem_append.1 he with he | he
  · exact List.mem_append_left _ (List.mem_filter.2 ⟨he, hstays⟩)
  · exact List.mem_append_right _ (List.mem_filter.2 ⟨he, hstays⟩)

lemma dry_served (h : b.Dry j) (d : Delivery) (hij : i ≠ j) : (served b i d).Dry j :=
  (h.modifyStream _ hij).settle d

/-- A consumer that goes on leaves the streams of the others alone. -/
lemma dry_consume (h : b.Dry j) (hij : i ≠ j) (n : Nat) (s : Station) : (consume i n s b).2.Dry j := by
  induction n generalizing s b with
  | zero => exact h
  | succ n ih =>
    rcases consume_succ_cases i n s b with
      ⟨heq, -⟩ | heq | ⟨d, -, ⟨m, event, -, heq⟩ | ⟨m, event, -, heq⟩ | heq⟩ <;> rw [heq]
    · exact h
    · exact h.modifyStream _ hij
    · exact ih (dry_served h d hij) _
    · exact dry_served h d hij
    · exact (dry_served h d hij).modifyStream _ hij

lemma dry_runConsumer (h : b.Dry j) (s : Station) (hc : c.stream ≠ j) : (s.runConsumer b c).2.Dry j := by
  unfold runConsumer
  split
  · exact h
  · split
    · exact h.modifyStream _ hc
    · exact dry_consume h hc _ s

/-- Whoever waits for a place goes on waiting. -/
lemma holds_consume (h : s.mailbox.holds (.consumer j) = true) (hij : i ≠ j) (n : Nat) (b : Broker) :
    (consume i n s b).1.mailbox.holds (.consumer j) = true := by
  induction n generalizing s b with
  | zero => exact h
  | succ n ih =>
    rcases consume_succ_cases i n s b with
      ⟨heq, -⟩ | heq | ⟨d, -, ⟨m, event, hoffer, heq⟩ | ⟨m, event, hoffer, heq⟩ | heq⟩ <;> rw [heq]
    · exact h
    · exact holds_forget h hij
    · obtain ⟨-, -, rfl⟩ := Mailbox.offer_eq_posted hoffer
      exact ih (s := { s with mailbox := s.mailbox.put event }) h _
    · obtain ⟨-, -, rfl⟩ := Mailbox.offer_eq_waits hoffer
      simp only [Mailbox.holds, List.any_append, Bool.or_eq_true] at h ⊢
      tauto
    · exact holds_forget h hij

lemma holds_runConsumer (h : s.mailbox.holds (.consumer j) = true) (b : Broker) (hc : c.stream ≠ j) :
    (s.runConsumer b c).1.mailbox.holds (.consumer j) = true := by
  unfold runConsumer
  split
  · exact h
  · split
    · exact holds_forget h hc
    · exact holds_consume h hc _ b

lemma runConsumer_consumers (s : Station) (b : Broker) (c : Consumer) :
    (s.runConsumer b c).1.relay.consumers ⊆ s.relay.consumers := by
  unfold runConsumer
  split
  · exact List.Subset.refl _
  · split
    · exact List.filter_sublist.subset
    · rcases consume_relay c.stream (backlog b c.stream + 1) s b with h | h <;> rw [h]
      · exact List.Subset.refl _
      · exact List.filter_sublist.subset

lemma Done.runConsumer {p : Station × Broker} (h : Done p c') (hc : c.stream ≠ c'.stream) :
    Done (p.1.runConsumer p.2 c) c' := by
  intro hmem
  rcases h (runConsumer_consumers p.1 p.2 c hmem) with hholds | ⟨hwhole, hdry⟩
  · exact Or.inl (holds_runConsumer hholds p.2 hc)
  · exact Or.inr ⟨hwhole, dry_runConsumer hdry p.1 hc⟩

/-- **Consumers that go on one after the other do so until none of them can do more.** -/
lemma idle_runConsumers (hnodup : (s.relay.consumers.map (·.stream)).Nodup) (b : Broker)
    (hc : c ∈ (s.runConsumers b).1.relay.consumers) :
    (s.runConsumers b).1.Idle (s.runConsumers b).2 c := by
  have hkeep : ∀ (l : List Consumer) (p : Station × Broker) (c' : Consumer), Done p c' →
      (∀ c ∈ l, c.stream ≠ c'.stream) → Done (l.foldl (fun p c => p.1.runConsumer p.2 c) p) c' := by
    intro l
    induction l with
    | nil => exact fun _ _ h _ => h
    | cons first rest ih =>
      intro p c' h hne
      exact ih _ _ (h.runConsumer (hne first List.mem_cons_self)) fun c hc =>
        hne c (List.mem_cons_of_mem _ hc)
  have hall : ∀ (l : List Consumer) (p : Station × Broker), (l.map (·.stream)).Nodup →
      ∀ c ∈ l, Done (l.foldl (fun p c => p.1.runConsumer p.2 c) p) c := by
    intro l
    induction l with
    | nil => exact fun _ _ _ hc => by cases hc
    | cons first rest ih =>
      intro p hnodup c hc
      rw [List.map_cons, List.nodup_cons] at hnodup
      rcases List.mem_cons.1 hc with rfl | hc
      · refine hkeep rest _ c (done_runConsumer p.1 p.2 c) fun c' hc' heq => ?_
        exact hnodup.1 (List.mem_map.2 ⟨c', hc', heq⟩)
      · exact ih _ hnodup.2 c hc
  have hsubset : ∀ (l : List Consumer) (p : Station × Broker),
      (l.foldl (fun p c => p.1.runConsumer p.2 c) p).1.relay.consumers ⊆ p.1.relay.consumers := by
    intro l
    induction l with
    | nil => exact fun p => List.Subset.refl _
    | cons first rest ih => exact fun p => List.Subset.trans (ih _) (runConsumer_consumers p.1 p.2 first)
  exact hall s.relay.consumers (s, b) hnodup c (hsubset _ _ hc) hc

/-- The consumers of a station leave the streams of other stations alone. -/
lemma dry_runConsumers (h : b.Dry j) (hs : ∀ c ∈ s.relay.consumers, c.stream ≠ j) :
    (s.runConsumers b).2.Dry j := by
  have hfold : ∀ (l : List Consumer) (p : Station × Broker), p.2.Dry j → (∀ c ∈ l, c.stream ≠ j) →
      (l.foldl (fun p c => p.1.runConsumer p.2 c) p).2.Dry j := by
    intro l
    induction l with
    | nil => exact fun _ h _ => h
    | cons first rest ih =>
      intro p h hne
      exact ih _ (dry_runConsumer h p.1 (hne first List.mem_cons_self)) fun c hc =>
        hne c (List.mem_cons_of_mem _ hc)
  exact hfold s.relay.consumers (s, b) h hs

/-- Where consumers are idle, nothing happens when they go on. -/
lemma foldl_runConsumer_of_idle {l : List Consumer} (h : ∀ c ∈ l, s.Idle b c ∧ b.isFed c.stream = true) :
    l.foldl (fun p c => p.1.runConsumer p.2 c) (s, b) = (s, b) := by
  induction l with
  | nil => rfl
  | cons first rest ih =>
    obtain ⟨hidle, hfed⟩ := h first List.mem_cons_self
    have hself : s.runConsumer b first = (s, b) := by
      unfold runConsumer
      split
      · rfl
      · next hfree =>
        obtain ⟨hwhole, hdry⟩ := hidle.resolve_left hfree
        rw [hwhole, consume, Broker.poll_of_dry hdry hfed]
        rfl
    rw [List.foldl_cons, hself]
    exact ih fun c hc => h c (List.mem_cons_of_mem _ hc)

lemma runConsumers_of_idle (h : ∀ c ∈ s.relay.consumers, s.Idle b c ∧ b.isFed c.stream = true) :
    s.runConsumers b = (s, b) :=
  foldl_runConsumer_of_idle h

end Station

namespace Node

variable {node : Node} {link : Link} {now : Nat} {b : Broker}

/-! ## Loops -/

/-- If the loop of a node can take a step, there is nothing for it to do. -/
def Resting (node : Node) : Prop :=
  node.canRun = true → node.signalled = false ∧ node.commands = []

lemma conclude_commands (node : Node) (result : Except RelayError Unit) :
    (node.conclude result).commands = node.commands := by
  obtain ⟨m, heq⟩ := node.conclude_eq result
  rw [heq]

lemma arrive_commands (link : Link) (node : Node) (b : Broker) :
    (node.arrive link b).1.commands = node.commands := by
  unfold arrive
  split
  · rfl
  · exact conclude_commands _ _

lemma deliver_commands (link : Link) (now : Nat) (node : Node) (user text : String) (b : Broker) :
    (node.deliver link now user text b).1.commands = node.commands := by
  rcases deliver_cases link now node user text b with ⟨e, -, heq⟩ | ⟨payload, -, heq | heq⟩ <;> rw [heq]
  · exact conclude_commands _ _
  · rfl
  · exact arrive_commands _ _ _

/-- A loop that takes a step has nothing to do, or has a command less. -/
lemma stepLoop_shortens (link : Link) (now : Nat) (b : Broker) (hrun : node.canRun = true) :
    (node.signalled = false ∧ node.commands = []) ∨ (node.stepLoop link now b).1.canRun = false ∨
      (node.stepLoop link now b).1.commands.length < node.commands.length := by
  rcases stepLoop_cases link now b hrun with
    ⟨-, heq⟩ | ⟨hsignalled, hcommands, -⟩ | ⟨user, text, rest, hcommands, heq⟩ | ⟨rest, hcommands, heq⟩
  · rw [heq]
    exact Or.inr (Or.inl rfl)
  · exact Or.inl ⟨hsignalled, hcommands⟩
  · rw [heq, deliver_commands, hcommands]
    exact Or.inr (Or.inr (Nat.lt_succ_self _))
  · rw [heq, hcommands]
    exact Or.inr (Or.inr (Nat.lt_succ_self _))

lemma stepLoop_of_resting (h : node.Resting) (link : Link) (now : Nat) (b : Broker) :
    node.stepLoop link now b = (node, b) := by
  cases hrun : node.canRun with
  | false => exact stepLoop_of_not_canRun hrun b
  | true =>
    obtain ⟨hsignalled, hcommands⟩ := h hrun
    simp [stepLoop, hrun, hsignalled, hcommands]

end Node

namespace Exchange

variable {x x' y : Exchange} {seat other : Seat} {s s' : Station} {n k : Nat} {node : Node} {d : Doorway}

/-- **An exchange is at rest.** -/
structure Rested (x : Exchange) : Prop where
  granted : ∀ {seat : Seat} {s : Station}, x.station? seat = some s → s.mailbox.granted = []
  loops : ∀ {n : Nat} {node : Node}, x.nodes[n]? = some node → node.Resting
  tasks : ∀ {n : Nat} {node : Node}, x.nodes[n]? = some node → node.HasBegun
  consumers : ∀ {seat : Seat} {s : Station} {c : Consumer}, x.station? seat = some s →
    c ∈ s.relay.consumers → s.Idle x.broker c ∧ x.broker.isFed c.stream = true

/-- Time makes no difference to who rests. -/
lemma Rested.later (h : x.Rested) (clock : Nat) : ({ x with clock } : Exchange).Rested := by
  have hstations : ({ x with clock } : Exchange).station? = x.station? := station?_congr rfl rfl
  exact
    { granted := fun hs => h.granted (by rwa [hstations] at hs)
      loops := h.loops
      tasks := h.tasks
      consumers := fun hs => h.consumers (by rwa [hstations] at hs) }

/-! ## At rest nothing goes on -/

lemma Rested.runConsumers (h : x.Rested) : x.runConsumers = x := by
  unfold Exchange.runConsumers
  generalize x.seats = seats
  induction seats with
  | nil => rfl
  | cons seat rest ih =>
    have hself : x.onStation seat Station.runConsumers = x := by
      cases hs : x.station? seat with
      | none => simp only [onStation, hs]
      | some s =>
        rw [onStation_eq hs, Station.runConsumers_of_idle fun c hc => h.consumers hs hc, place_self hs]
    rw [List.foldl_cons, hself, ih]

/-- Where nobody was given a place, nobody goes on. -/
lemma resumeSeat_of_granted (h : ∀ s, x.station? seat = some s → s.mailbox.granted = []) :
    x.resumeSeat seat = x := by
  unfold Exchange.resumeSeat
  split
  · rfl
  · next s hs =>
    rw [h s hs]
    rfl

/-- A loop that has nothing to do does nothing, however long it runs. -/
lemma runLoop_of_resting (hn : x.nodes[n]? = some node) (hrest : node.Resting) (steps : Nat) :
    x.runLoop n steps = x := by
  induction steps with
  | zero => rfl
  | succ steps ih => rw [runLoop, onNode_eq hn, Node.stepLoop_of_resting hrest, withNode_self hn, ih]

/-- Every message that is on its way is due later. -/
def Timely (x : Exchange) : Prop :=
  ∀ ⦃n : Nat⦄ ⦃node : Node⦄ ⦃p : Publication⦄, x.nodes[n]? = some node → node.publication = some p →
    x.clock < p.due

/-- The loop of a node has nothing to do. -/
def LoopRests (x : Exchange) (n : Nat) : Prop :=
  ∀ ⦃node : Node⦄, x.nodes[n]? = some node → node.Resting

lemma LoopRests.finishLoop (h : x.LoopRests n) (hnoted : Noted x.nodes x.underway) : x.finishLoop n = x := by
  unfold Exchange.finishLoop
  split
  · rfl
  · next node hn =>
    rw [runLoop_of_resting hn (h hn), noteUnderway, hn]
    cases hp : node.publication.isSome with
    | false => simp [hp]
    | true => simp [hp, hnoted hn hp]

lemma arriveAt_of_timely (h : x.Timely) (n : Nat) : x.arriveAt n = x := by
  have hdue : (x.dueOf n).any (· ≤ x.clock) = false := by
    cases hn : x.nodes[n]? with
    | none => simp [dueOf, hn]
    | some node =>
      cases hp : node.publication with
      | none => simp [dueOf, hn, hp]
      | some p => simpa [dueOf, hn, hp] using h hn hp
  rw [arriveAt, hdue]
  rfl

lemma foldl_eq_self {α : Type} {f : Exchange → α → Exchange} (h : ∀ a, f x a = x) (l : List α) :
    l.foldl f x = x := by
  induction l with
  | nil => rfl
  | cons a rest ih => rw [List.foldl_cons, h, ih]

/-- The direct relay of a node has begun to send all that it was asked to. -/
def TasksBegun (x : Exchange) (n : Nat) : Prop :=
  ∀ ⦃node : Node⦄, x.nodes[n]? = some node → node.HasBegun

lemma TasksBegun.beginTasksAt (h : x.TasksBegun n) : x.beginTasksAt n = x := by
  unfold Exchange.beginTasksAt
  cases hn : x.nodes[n]? with
  | none => simp only [onNode, hn]
  | some node => rw [onNode_eq hn, Node.beginTasks_of_hasBegun (h hn), withNode_self hn]

/-- Where nobody was given a place, no message is due and neither loops nor direct relays have anything to do, only
consumers go on. -/
lemma quiesce_of_loopRests (hgranted : ∀ seat s, x.station? seat = some s → s.mailbox.granted = [])
    (hloops : ∀ n, x.LoopRests n) (htasks : ∀ n, x.TasksBegun n) (ht : x.Timely) (hnoted : Noted x.nodes x.underway) :
    x.quiesce = x.runConsumers := by
  unfold quiesce beginTasks
  simp only [foldl_eq_self fun seat => resumeSeat_of_granted (hgranted seat),
    foldl_eq_self (arriveAt_of_timely ht), foldl_eq_self fun n => (hloops n).finishLoop hnoted,
    foldl_eq_self fun n => (htasks n).beginTasksAt]

/-- **At rest, and before any message is due, nothing goes on.** -/
lemma Rested.quiesce_eq (h : x.Rested) (ht : x.Timely) (hnoted : Noted x.nodes x.underway) : x.quiesce = x := by
  rw [quiesce_of_loopRests (fun _ _ hs => h.granted hs) (fun _ _ hn => h.loops hn) (fun _ _ hn => h.tasks hn) ht hnoted,
    h.runConsumers]

/-- **At rest, and with no message on its way, nothing goes on.** -/
lemma quiesce_of_rested (h : x.Rested) (hnone : ∀ node ∈ x.nodes, node.publication = none) :
    x.quiesce = x := by
  refine h.quiesce_eq (fun n node p hn hp => ?_) fun n node hn hp => ?_
  · rw [hnone node (List.mem_of_getElem? hn)] at hp
    cases hp
  · rw [hnone node (List.mem_of_getElem? hn)] at hp
    cases hp

lemma dueOf_eq_none (hnone : ∀ node ∈ x.nodes, node.publication = none) (n : Nat) : x.dueOf n = none := by
  unfold dueOf
  cases hn : x.nodes[n]? with
  | none => rfl
  | some node => rw [Option.bind_some, hnone node (List.mem_of_getElem? hn), Option.map_none]

/-- **At rest, and with no message on its way, nothing happens while time passes.** -/
lemma pass_of_rested (h : x.Rested) (hnone : ∀ node ∈ x.nodes, node.publication = none) (ms : Nat) :
    x.pass ms = { x with clock := x.clock + ms } := by
  unfold pass
  split
  · next hms => rw [hms, Nat.add_zero]
  · have hdue : x.nextDue? = none := by
      rw [nextDue?, List.filterMap_eq_nil_iff.2 fun n _ => dueOf_eq_none hnone n]
      rfl
    simp only [wait, quiesce_of_rested h hnone, waitFor, hdue, Option.all_none, if_true]

/-! ## Publishing -/

/-- A relay that has nothing to send sends nothing. -/
lemma publish_of_error {e : RelayError} {queue user text : String} (hs : x.station? (.relay n) = some s)
    (hpayload : s.relay.payloadOf user text = .error e) : x.publish n queue user text = (.error e, x) := by
  simp only [Exchange.publish, hs, hpayload]

/-- What a relay sends is on its way for a while, and then arrives. -/
lemma publish_of_ok {payload : Bytes} (queue : String) {user text : String}
    (hs : x.station? (.relay n) = some s) (hpayload : s.relay.payloadOf user text = .ok payload) {passed : Exchange}
    (hpassed : x.pass (s.relay.publishDelay x.link) = passed) :
    x.publish n queue user text = ((s.relay.arrive x.link queue payload passed.broker).1,
      { passed with broker := (s.relay.arrive x.link queue payload passed.broker).2 }) := by
  simp only [Exchange.publish, hs, hpayload, hpassed]

/-! ## Places that were given -/

/-- Those at a seat who were given a place are not more than `k`. -/
def GrantsLeft (x : Exchange) (seat : Seat) (k : Nat) : Prop :=
  ∀ ⦃s : Station⦄, x.station? seat = some s → s.mailbox.granted.length ≤ k

lemma GrantsLeft.place (hx : x.GrantsLeft seat k) (hs : x.station? other = some s) (b : Broker)
    (h : s'.mailbox.granted.length ≤ s.mailbox.granted.length) : (x.place other s' b).GrantsLeft seat k := by
  intro s₁ hs₁
  rw [place_station?] at hs₁
  obtain ⟨s₀, hs₀, rfl⟩ := Option.map_eq_some_iff.1 hs₁
  by_cases hseat : other = seat
  · subst hseat
    rw [if_pos rfl]
    exact h.trans (hx hs)
  · rw [if_neg hseat]
    exact hx hs₀

lemma GrantsLeft.withNode (hx : x.GrantsLeft seat k) (hn : x.nodes[n]? = some node) {p : Node × Broker}
    (h : p.1.station.mailbox.granted.length ≤ node.station.mailbox.granted.length) :
    (x.withNode n p).GrantsLeft seat k := by
  intro s₁ hs₁
  rw [withNode_station? hn] at hs₁
  obtain ⟨s₀, hs₀, rfl⟩ := Option.map_eq_some_iff.1 hs₁
  by_cases hseat : .node n = seat
  · subst hseat
    rw [if_pos rfl]
    refine h.trans (hx ?_)
    rw [station?, hn, Option.map_some]
  · rw [if_neg hseat]
    exact hx hs₀

/-- Nobody is given a place while things go on by themselves. -/
lemma Stride.grantsLeft (h : Stride x x') (hx : x.GrantsLeft seat k) : x'.GrantsLeft seat k := by
  cases h with
  | turn hs h => exact hx.place hs _ h.steady.granted_le
  | grant hs h =>
    refine hx.place hs _ ?_
    rw [h]
    exact Nat.le_succ _
  | loop hn hrun => exact hx.withNode hn (Node.stepLoop_granted _ _).length_le
  | arrive hn hp => exact hx.withNode hn (Nat.le_of_eq (by rw [Node.arrive_granted]))
  | @tasks n node hn =>
    exact hx.withNode (p := (node.beginTasks, x.broker)) hn node.beginTasks_turns.spares.granted.length_le
  | tick clock underway =>
    intro s hs
    refine hx ?_
    cases seat <;> exact hs

lemma Strides.grantsLeft (h : Strides x x') (hx : x.GrantsLeft seat k) : x'.GrantsLeft seat k :=
  h.keep Stride.grantsLeft hx

/-- Those at a seat who were given a place use it, all of them. -/
lemma useGrants_grantsLeft {count : Nat} (hx : x.GrantsLeft seat count) :
    (x.useGrants seat count).GrantsLeft seat 0 := by
  induction count generalizing x with
  | zero => exact hx
  | succ count ih =>
    cases hs : x.station? seat with
    | none =>
      simp only [useGrants, hs]
      intro s hs'
      rw [hs] at hs'
      cases hs'
    | some s =>
      cases hg : s.mailbox.granted with
      | nil =>
        have hnil : s.mailbox.granted.length ≤ 0 := by rw [hg]; exact Nat.le_refl 0
        refine (useGrants_strides seat (count + 1) x).grantsLeft fun s' hs' => ?_
        rw [hs, Option.some.injEq] at hs'
        rwa [← hs']
      | cons first rest =>
        obtain ⟨sender, event⟩ := first
        have huse : s.mailbox.useGrant =
            some (sender, ({ s.mailbox with granted := rest } : Mailbox).put event) := by
          simp only [Mailbox.useGrant, hg]
        have hrest : (x.grantUsed seat s event rest).GrantsLeft seat count := by
          intro s' hs'
          rw [grantUsed, place_station?_self hs, Option.some.injEq] at hs'
          have hle := hx hs
          rw [hg, List.length_cons] at hle
          rw [← hs']
          exact Nat.le_of_succ_le_succ hle
        rw [useGrants]
        simp only [hs, huse]
        refine ih (Strides.grantsLeft ?_ hrest)
        split
        · exact onStation_strides fun s _ => Station.resume_turns s _ _
        · exact finishLoop_strides _ _
        · exact .refl
        · exact .refl
        · exact .refl

lemma mem_seats (hs : x.station? seat = some s) : seat ∈ x.seats := by
  rw [seats, List.mem_append]
  cases seat with
  | relay n =>
    obtain ⟨m, hm, -⟩ := Option.map_eq_some_iff.1 hs
    exact Or.inl (List.mem_map_of_mem (List.mem_range.2 (List.getElem?_eq_some_iff.1 hm).1))
  | node n =>
    obtain ⟨node, hn, -⟩ := Option.map_eq_some_iff.1 hs
    exact Or.inr (List.mem_map_of_mem (List.mem_range.2 (List.getElem?_eq_some_iff.1 hn).1))

lemma resumeSeat_grantsLeft (x : Exchange) (seat : Seat) : (x.resumeSeat seat).GrantsLeft seat 0 := by
  unfold resumeSeat
  split
  · next hs =>
    intro s hs'
    rw [hs] at hs'
    cases hs'
  · next s hs =>
    refine useGrants_grantsLeft fun s' hs' => ?_
    rw [hs, Option.some.injEq] at hs'
    rw [← hs']

lemma resumed_grantsLeft (hx : x.AllCrewed) (hmem : seat ∈ x.seats) : x.resumed.GrantsLeft seat 0 := by
  have hfold : ∀ (l : List Seat) {y : Exchange}, y.AllCrewed → seat ∈ l →
      (l.foldl resumeSeat y).GrantsLeft seat 0 := by
    intro l
    induction l with
    | nil => exact fun _ hmem => by cases hmem
    | cons first rest ih =>
      intro y hy hmem
      have hy' := hy.strides (resumeSeat_strides y first)
      by_cases hseat : seat = first
      · subst hseat
        exact (foldl_strides (fun y seat _ => resumeSeat_strides y seat) rest hy').grantsLeft
          (resumeSeat_grantsLeft y seat)
      · exact ih hy' ((List.mem_cons.1 hmem).resolve_left hseat)
  exact hfold x.seats hx hmem

/-! ## Loops come to rest -/

lemma runLoop_rests {steps : Nat} (hn : x.nodes[n]? = some node) (hsteps : node.commands.length < steps) :
    (x.runLoop n steps).LoopRests n := by
  induction steps generalizing x node with
  | zero => cases hsteps
  | succ steps ih =>
    have hself : node.Resting → (x.runLoop n (steps + 1)).LoopRests n := by
      intro hrest node' hn'
      rw [runLoop_of_resting hn hrest, hn, Option.some.injEq] at hn'
      rwa [← hn']
    cases hrun : node.canRun with
    | false => exact hself fun h => by rw [hrun] at h; cases h
    | true =>
      have hnext : (x.onNode n (Node.stepLoop x.link x.clock)).nodes[n]? =
          some (node.stepLoop x.link x.clock x.broker).1 := by
        rw [onNode_eq hn]
        exact withNode_nodes_self hn _
      rcases Node.stepLoop_shortens x.link x.clock x.broker hrun with hdone | hended | hless
      · exact hself fun _ => hdone
      · intro node' hn'
        rw [runLoop, runLoop_of_not_canRun hnext hended, hnext, Option.some.injEq] at hn'
        rw [← hn']
        intro h
        rw [hended] at h
        cases h
      · rw [runLoop]
        exact ih hnext (by omega)

lemma finishLoop_rests (x : Exchange) (n : Nat) : (x.finishLoop n).LoopRests n := by
  unfold finishLoop
  split
  · next hn =>
    intro node hn'
    rw [hn] at hn'
    cases hn'
  · next node hn =>
    intro node' hn'
    rw [noteUnderway_nodes] at hn'
    exact runLoop_rests hn (Nat.lt_succ_self _) hn'

lemma looped_rests (x : Exchange) (n : Nat) : x.looped.LoopRests n := by
  have hfold : ∀ (l : List Nat) (y : Exchange), (n ∈ l ∨ y.LoopRests n) →
      (l.foldl finishLoop y).LoopRests n := by
    intro l
    induction l with
    | nil => exact fun y h => h.resolve_left (by simp)
    | cons first rest ih =>
      intro y h
      refine ih _ ?_
      by_cases hfirst : n = first
      · subst hfirst
        exact Or.inr (finishLoop_rests y n)
      · refine (h.imp_left fun hmem => (List.mem_cons.1 hmem).resolve_left hfirst).imp_right ?_
        intro hrests node hn
        rw [finishLoop_nodes_of_ne hfirst] at hn
        exact hrests hn
  refine hfold _ _ ?_
  by_cases hlt : n < x.arrived.nodes.length
  · exact Or.inl (List.mem_range.2 hlt)
  · right
    intro node hn
    exact absurd (List.getElem?_eq_some_iff.1 hn).1 hlt

/-- Direct relays do not change whether a loop has something to do. -/
lemma LoopRests.beginTasks (h : x.LoopRests n) : x.beginTasks.LoopRests n := by
  unfold Exchange.beginTasks
  generalize List.range x.nodes.length = l
  induction l generalizing x with
  | nil => exact h
  | cons k rest ih =>
    refine ih fun node hn => ?_
    unfold beginTasksAt at hn
    by_cases hk : k = n
    · subst hk
      cases hn₀ : x.nodes[k]? with
      | none =>
        simp only [onNode, hn₀] at hn
        cases hn
      | some node₀ =>
        rw [onNode_eq hn₀, withNode_nodes_self hn₀, Option.some.injEq] at hn
        subst hn
        intro hrun
        rw [node₀.beginTasks_turns.canRun_eq] at hrun
        obtain ⟨direct, m, heq⟩ := node₀.onDirect_eq DirectRelay.beginTasks
        rw [Node.beginTasks, heq]
        have hrests := h hn₀ hrun
        exact hrests
    · rw [onNode_nodes_of_ne (Ne.symm hk)] at hn
      exact h hn

/-- All direct relays begin what they were asked to. -/
lemma beginTasks_tasksBegun (x : Exchange) (n : Nat) : x.beginTasks.TasksBegun n := by
  have hfold : ∀ (l : List Nat) (y : Exchange), (n ∈ l ∨ y.TasksBegun n) → (l.foldl beginTasksAt y).TasksBegun n := by
    intro l
    induction l with
    | nil => exact fun y h => h.resolve_left (by simp)
    | cons k rest ih =>
      intro y h
      refine ih _ ?_
      by_cases hk : n = k
      · subst hk
        refine Or.inr fun node hn => ?_
        unfold beginTasksAt at hn
        cases hn₀ : y.nodes[n]? with
        | none =>
          simp only [onNode, hn₀] at hn
          cases hn
        | some node₀ =>
          rw [onNode_eq hn₀, withNode_nodes_self hn₀, Option.some.injEq] at hn
          subst hn
          exact node₀.hasBegun_beginTasks
      · refine (h.imp_left fun hmem => (List.mem_cons.1 hmem).resolve_left hk).imp_right fun hbegun node hn => ?_
        rw [beginTasksAt, onNode_nodes_of_ne hk] at hn
        exact hbegun hn
  refine hfold _ _ ?_
  by_cases hlt : n < x.nodes.length
  · exact Or.inl (List.mem_range.2 hlt)
  · right
    intro node hn
    exact absurd (List.getElem?_eq_some_iff.1 hn).1 hlt

lemma TasksBegun.runConsumers (h : x.TasksBegun n) : x.runConsumers.TasksBegun n := by
  unfold Exchange.runConsumers
  generalize x.seats = seats
  induction seats generalizing x with
  | nil => exact h
  | cons seat rest ih =>
    refine ih fun node hn => ?_
    cases hs : x.station? seat with
    | none =>
      simp only [onStation, hs] at hn
      exact h hn
    | some s =>
      simp only [onStation_eq hs, place_nodes] at hn
      obtain ⟨node₀, hn₀, rfl⟩ := Option.map_eq_some_iff.1 hn
      have hbegun := h hn₀
      split <;> exact hbegun

/-- Consumers do not change whether a loop has something to do. -/
lemma LoopRests.runConsumers (h : x.LoopRests n) : x.runConsumers.LoopRests n := by
  unfold Exchange.runConsumers
  generalize x.seats = seats
  induction seats generalizing x with
  | nil => exact h
  | cons seat rest ih =>
    refine ih fun node hn => ?_
    cases hs : x.station? seat with
    | none =>
      simp only [onStation, hs] at hn
      exact h hn
    | some s =>
      simp only [onStation_eq hs, place_nodes] at hn
      obtain ⟨node₀, hn₀, rfl⟩ := Option.map_eq_some_iff.1 hn
      by_cases hseat : seat = .node n
      · subst hseat
        have hs₀ : x.station? (.node n) = some node₀.station := by rw [station?, hn₀, Option.map_some]
        rw [hs, Option.some.injEq] at hs₀
        have hloop := (Station.runConsumers_spares s x.broker).loop
        rw [if_pos rfl]
        intro hrun
        have hrun₀ : node₀.canRun = true := by
          rw [Node.canRun, Node.isBlocked, hloop, hs₀] at hrun
          exact hrun
        have hdone := h hn₀ hrun₀
        exact hdone
      · rw [if_neg hseat]
        exact h hn₀

/-! ## Consumers come to rest -/

/-- No two relays have consumers with the same stream. -/
def Apart (x : Exchange) : Prop :=
  ∀ ⦃seat other : Seat⦄ ⦃s s' : Station⦄ ⦃c c' : Consumer⦄, x.station? seat = some s →
    x.station? other = some s' → c ∈ s.relay.consumers → c' ∈ s'.relay.consumers → c.stream = c'.stream →
    seat = other

lemma Apart.ahead (h : x.Apart) (hahead : Ahead x x') : x'.Apart := by
  intro seat other s s' c c' hs hs' hc hc' heq
  obtain ⟨s₀, hs₀, hstation⟩ := hahead.before hs
  obtain ⟨s₀', hs₀', hstation'⟩ := hahead.before hs'
  exact h hs₀ hs₀' (hstation.consumers.subset hc) (hstation'.consumers.subset hc') heq

lemma Roster.apart_consumers (hr : Roster d x.station? x.broker) : x.Apart := by
  intro seat other s s' c c' hs hs' hc hc' heq
  have hmem : (c.queue, c.stream) ∈ s.relay.crew := List.mem_map_of_mem hc
  have hmem' : (c'.queue, c'.stream) ∈ s'.relay.crew := List.mem_map_of_mem hc'
  rw [← heq] at hmem'
  exact hr.eq_of_stream hs hs' hmem hmem'

/-- The consumers at a seat can do nothing. -/
def SeatIdle (x : Exchange) (seat : Seat) : Prop :=
  ∀ ⦃s : Station⦄ ⦃c : Consumer⦄, x.station? seat = some s → c ∈ s.relay.consumers → s.Idle x.broker c

lemma onStation_seatIdle (hx : x.AllCrewed) (seat : Seat) :
    (x.onStation seat Station.runConsumers).SeatIdle seat := by
  intro s' c hs' hc
  cases hs : x.station? seat with
  | none =>
    simp only [onStation, hs] at hs'
    cases hs'
  | some s =>
    rw [onStation_eq hs, place_station?_self hs, Option.some.injEq] at hs'
    subst hs'
    rw [onStation_eq hs, place_broker]
    exact Station.idle_runConsumers (hx hs) x.broker hc

lemma SeatIdle.onStation (h : x.SeatIdle other) (hx : x.Apart) (hne : seat ≠ other) :
    (x.onStation seat Station.runConsumers).SeatIdle other := by
  cases hs : x.station? seat with
  | none =>
    simp only [Exchange.onStation, hs]
    exact h
  | some s =>
    intro s' c hs' hc
    rw [onStation_eq hs] at hs' ⊢
    rw [place_station?] at hs'
    obtain ⟨s₀, hs₀, rfl⟩ := Option.map_eq_some_iff.1 hs'
    rw [if_neg hne] at hc ⊢
    rw [place_broker]
    refine (h hs₀ hc).imp_right ?_
    rintro ⟨hwhole, hdry⟩
    refine ⟨hwhole, Station.dry_runConsumers hdry fun c' hc' heq => hne ?_⟩
    exact hx hs hs₀ hc' hc heq

lemma runConsumers_seatIdle (hx : x.AllCrewed) (hapart : x.Apart) (hmem : seat ∈ x.seats) :
    x.runConsumers.SeatIdle seat := by
  have hfold : ∀ (l : List Seat) {y : Exchange}, y.AllCrewed → y.Apart → (seat ∈ l ∨ y.SeatIdle seat) →
      (l.foldl (fun y seat => y.onStation seat Station.runConsumers) y).SeatIdle seat := by
    intro l
    induction l with
    | nil => exact fun _ _ h => h.resolve_left (by simp)
    | cons first rest ih =>
      intro y hy hapart h
      have hstrides : Strides y (y.onStation first Station.runConsumers) :=
        onStation_strides fun s hs => Station.runConsumers_turns (hy hs) y.broker
      refine ih (hy.strides hstrides) (hapart.ahead hstrides.ahead) ?_
      by_cases hfirst : seat = first
      · subst hfirst
        exact Or.inr (onStation_seatIdle hy seat)
      · refine (h.imp_left fun hmem => (List.mem_cons.1 hmem).resolve_left hfirst).imp_right ?_
        exact fun hidle => hidle.onStation hapart (Ne.symm hfirst)
  exact hfold x.seats hx hapart (Or.inl hmem)

/-- The broker feeds the streams of all consumers. -/
lemma Roster.isFed (hr : Roster d x.station? x.broker) {c : Consumer} (hs : x.station? seat = some s)
    (hc : c ∈ s.relay.consumers) : x.broker.isFed c.stream = true := by
  have hslot : ⟨s.relay.session, s.relay.config.ackMode, c.stream⟩ ∈ x.broker.audience c.queue :=
    hr.listens.2 ⟨seat, s, hs, rfl, rfl, List.mem_map_of_mem hc⟩
  obtain ⟨q, hq, hmem, -⟩ := Broker.mem_audience.1 hslot
  obtain ⟨before, after, hqueues, -⟩ := List.lookup_eq_some_iff.1 hq
  rw [Broker.isFed, hqueues, List.any_eq_true]
  exact ⟨(c.queue, q), by simp, List.any_eq_true.2 ⟨_, hmem, BEq.rfl⟩⟩

/-- **Everything comes to rest when it goes on.** -/
lemma rested_quiesce (hx : x.Shipshape) (hr : Roster d x.station? x.broker) : x.quiesce.Rested := by
  have hcrewed := hx.allCrewed
  have hresumed := resumed_strides hcrewed
  have hlooped := looped_strides (hcrewed.strides hresumed)
  have hbegun := (hresumed.trans hlooped).trans (beginTasks_strides x.looped)
  have hrun := runConsumers_strides (hcrewed.strides hbegun)
  have hseat : ∀ {seat s}, x.quiesce.station? seat = some s → seat ∈ x.seats := by
    intro seat s hs
    obtain ⟨s₀, hs₀, -⟩ := (quiesce_strides hcrewed).ahead.before hs
    exact mem_seats hs₀
  obtain ⟨log, hdiary, -⟩ := quiesce_proceeds (d := d) hx
  refine ⟨fun hs => ?_, fun hn => ?_, fun hn => ?_, fun hs hc => ⟨?_, (hr.diary hdiary).isFed hs hc⟩⟩
  · have hleft := Strides.grantsLeft ((hlooped.trans (beginTasks_strides x.looped)).trans hrun)
      (resumed_grantsLeft hcrewed (hseat hs))
    exact List.eq_nil_of_length_eq_zero (Nat.le_zero.1 (hleft hs))
  · exact (looped_rests x _).beginTasks.runConsumers hn
  · exact (beginTasks_tasksBegun x.looped _).runConsumers hn
  · have hahead := Strides.ahead hbegun
    refine runConsumers_seatIdle (hcrewed.ahead hahead) (hr.apart_consumers.ahead hahead) ?_ hs hc
    obtain ⟨s₀, hs₀, -⟩ := hrun.ahead.before hs
    exact mem_seats hs₀

lemma rested_step (c : Command) (hx : x.Shipshape) (hr : Roster {} x.station? x.broker) :
    (x.step c).2.2.Rested := by
  obtain ⟨log, hacted, -⟩ := act_proceeds c hx
  rw [step_eq]
  exact rested_quiesce ((act_onwards_of_command c hx).shipshape hx) (hr.diary hacted)

lemma rested_of_vacant (hrelays : x.relays = []) (hnodes : x.nodes = []) : x.Rested := by
  have hnone : ∀ seat, x.station? seat = none := by
    intro seat
    cases seat <;> simp [station?, hrelays, hnodes]
  exact ⟨fun hs => by simp [hnone] at hs, fun hn => by simp [hnodes] at hn, fun hn => by simp [hnodes] at hn,
    fun hs => by simp [hnone] at hs⟩

lemma Rested.run (h : x.Rested) (hx : x.Shipshape) (hr : Roster {} x.station? x.broker) (cs : List Command) :
    (x.run cs).2.Rested := by
  induction cs generalizing x with
  | nil => exact h
  | cons c rest ih =>
    obtain ⟨log, hdiary, -⟩ := step_proceeds c hx
    rw [run_cons]
    exact ih (rested_step c hx hr) ((step_onwards c hx).shipshape hx) (hr.diary hdiary)

lemma rested_run (link : Link) (cs : List Command) : (({ link } : Exchange).run cs).2.Rested :=
  (rested_of_vacant rfl rfl).run (shipshape_empty link) (roster_empty link) cs

end Exchange

end MessageRelay
