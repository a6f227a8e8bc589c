import MessageRelay.Proofs.Broker.Stock

/-!
# No message is lost or duplicated

Whatever is done with a broker, and in whatever order, a message that has been brought to a queue is
in exactly one place: it waits in the queue, or it was handed over and is not settled, or it was
accepted, or it was refused, or it was handed to a consumer that settles at once.

What was brought, settled and handed over in the course of a run is read off the commands, their
answers and the streams, and not off the way in which a queue dispatches its messages.  The main result
is `payloads_conserved`.

What a command can do to the broker and to the deliveries is said once (`Desk.Effect`, `Desk.step_effect`);
whatever a command keeps, here and in the modules after this one, is shown effect by effect.
-/

namespace MessageRelay

/-! ## What comes into streams -/

/-- What has come into streams between two moments: the messages that stand behind those that were
there at the first moment, each with its stream. -/
def arrivals : List Stream → List Stream → List (Stream × Nat × Bytes)
  | _, [] => []
  | [], s :: rest => s.buffer.map (s, ·) ++ arrivals [] rest
  | old :: older, s :: rest =>
    (s.buffer.drop old.buffer.length).map (s, ·) ++ arrivals older rest

/-- The messages that have come from a queue to consumers that settle at once. -/
def autoArrivals (name : String) (before after : List Stream) : List Bytes :=
  ((arrivals before after).filter fun a => a.1.queue = name ∧ a.1.mode = .auto).map (·.2.2)

/-- All streams of the first moment are there at the second, and have lost nothing. -/
def Grows (before after : List Stream) : Prop :=
  ∀ ⦃i : Nat⦄ ⦃s : Stream⦄, before[i]? = some s → ∃ s' more, after[i]? = some s' ∧
    s'.queue = s.queue ∧ s'.mode = s.mode ∧ s'.buffer = s.buffer ++ more

namespace Grows

variable {before middle after : List Stream}

lemma refl (streams : List Stream) : Grows streams streams :=
  fun _ s h => ⟨s, [], h, rfl, rfl, by simp⟩

lemma trans (h : Grows before middle) (h' : Grows middle after) : Grows before after := by
  intro i s hs
  obtain ⟨s₁, more₁, hs₁, hq₁, hm₁, hb₁⟩ := h hs
  obtain ⟨s₂, more₂, hs₂, hq₂, hm₂, hb₂⟩ := h' hs₁
  exact ⟨s₂, more₁ ++ more₂, hs₂, hq₂.trans hq₁, hm₂.trans hm₁,
    by rw [hb₂, hb₁, List.append_assoc]⟩

lemma carry (streams : List Stream) (h : Handover) : Grows streams (Broker.carry streams h) := by
  intro i s hs
  rw [Broker.getElem?_carry, hs]
  by_cases hi : h.stream = i
  · exact ⟨_, [(h.tag, h.payload)], rfl, by simp [hi], by simp [hi], by simp [hi]⟩
  · exact ⟨_, [], rfl, by simp [hi], by simp [hi], by simp [hi]⟩

lemma append (streams : List Stream) (new : Stream) : Grows streams (streams ++ [new]) :=
  fun _ s hs => ⟨s, [], Broker.getElem?_append_of_some hs, rfl, rfl, by simp⟩

lemma tail {s s' : Stream} (h : Grows (s :: before) (s' :: after)) : Grows before after := by
  intro i t ht
  exact h (i := i + 1) ht

lemma length_le (h : Grows before after) : before.length ≤ after.length := by
  by_contra hlt
  obtain ⟨s, hs⟩ : ∃ s, before[after.length]? = some s :=
    ⟨_, List.getElem?_eq_getElem (Nat.lt_of_not_le hlt)⟩
  obtain ⟨s', -, hs', -⟩ := h hs
  simp at hs'

end Grows

section

variable {α : Type} (p : String → AckMode → Prop) [∀ queue mode, Decidable (p queue mode)]
  (f : Nat × Bytes → α)

/-- What the streams from certain queues, and of certain modes, have in them. -/
def Stream.loadOf (s : Stream) : Multiset α :=
  if p s.queue s.mode then (s.buffer.map f : List α) else 0

lemma map_filter_arrivals (s : Stream) (l : List (Nat × Bytes)) :
    (((l.map (s, ·)).filter fun a => p a.1.queue a.1.mode).map fun a => f a.2) =
      if p s.queue s.mode then l.map f else [] := by
  simp only [List.filter_map, List.map_map, Function.comp_def]
  by_cases hs : p s.queue s.mode
  · simp only [hs, decide_true, List.filter_true, if_true]
  · simp only [hs, decide_false, List.filter_false, List.map_nil, if_false]

/-- What such streams have in them is what they had, and what has come. -/
lemma arrivals_add {before after : List Stream} (h : Grows before after) :
    (before.map (Stream.loadOf p f)).sum +
        ((((arrivals before after).filter fun a => p a.1.queue a.1.mode).map fun a => f a.2) :
          List α) =
      (after.map (Stream.loadOf p f)).sum := by
  induction after generalizing before with
  | nil =>
    cases before with
    | nil => rfl
    | cons s older =>
      obtain ⟨s', more, hs', -⟩ := h (i := 0) rfl
      simp at hs'
  | cons s' rest ih =>
    cases before with
    | nil =>
      -- a stream that was not there yet has only what has come
      have hgrows : Grows [] rest := fun i s hs => by simp at hs
      have hrest := ih hgrows
      rw [List.map_nil, List.sum_nil, zero_add] at hrest ⊢
      rw [List.map_cons, List.sum_cons, ← hrest, arrivals, List.filter_append, List.map_append,
        map_filter_arrivals, ← Multiset.coe_add, Stream.loadOf]
      split <;> rfl
    | cons s older =>
      -- an older stream keeps its queue and its mode, and what has come stands at the end of it
      obtain ⟨s₀, more, hs₀, hq, hm, hbuf⟩ := h (i := 0) rfl
      rw [List.getElem?_cons_zero, Option.some.injEq] at hs₀
      subst hs₀
      rw [List.map_cons, List.sum_cons, List.map_cons, List.sum_cons, ← ih h.tail, arrivals,
        List.filter_append, List.map_append, map_filter_arrivals, ← Multiset.coe_add,
        Stream.loadOf, Stream.loadOf, hq, hm, hbuf, List.drop_left]
      by_cases hs : p s.queue s.mode
      · simp only [if_pos hs, List.map_append, ← Multiset.coe_add]
        abel
      · simp only [if_neg hs, Multiset.coe_nil, zero_add]

end

/-- What the consumers that settle at once have in their streams is what they had, and what has
come. -/
lemma autoArrivals_add {name : String} {before after : List Stream} (h : Grows before after) :
    (before.map (Stream.autoLoad name)).sum + (autoArrivals name before after : Multiset Bytes) =
      (after.map (Stream.autoLoad name)).sum :=
  arrivals_add (fun queue mode => queue = name ∧ mode = .auto) (·.2) h

lemma arrivals_self (streams : List Stream) : arrivals streams streams = [] := by
  induction streams with
  | nil => rfl
  | cons s rest ih => simp [arrivals, ih]

/-- Nothing has come into streams of which one only lost messages. -/
lemma arrivals_modify (streams : List Stream) (i : Nat) {f : Stream → Stream}
    (hf : ∀ s, (f s).buffer.length ≤ s.buffer.length) :
    arrivals streams (streams.modify i f) = [] := by
  induction streams generalizing i with
  | nil => simp [arrivals]
  | cons s rest ih =>
    cases i with
    | zero => simp [arrivals, arrivals_self, hf]
    | succ i => simp [arrivals, ih]

lemma autoArrivals_modify (name : String) (streams : List Stream) (i : Nat) {f : Stream → Stream}
    (hf : ∀ s, (f s).buffer.length ≤ s.buffer.length) :
    autoArrivals name streams (streams.modify i f) = [] := by
  rw [autoArrivals, arrivals_modify streams i hf]
  rfl

@[simp] lemma autoArrivals_self (name : String) (streams : List Stream) :
    autoArrivals name streams streams = [] := by
  rw [autoArrivals, arrivals_self]
  rfl

namespace Broker

variable {b : Broker} {name : String}

lemma grows_route (b : Broker) (name : String) (payload : Bytes) :
    Grows b.streams (b.route name payload).streams := by
  cases h : b.queue? name with
  | none => rw [route_of_none h]; exact Grows.refl _
  | some q =>
    rcases route_cases h payload with ⟨slot, -, -, heq⟩ | ⟨-, heq⟩
    · rw [heq]; exact Grows.carry _ _
    · rw [heq]; exact Grows.refl _

lemma grows_routeAll (payloads : List Bytes) : Grows b.streams (b.routeAll name payloads).streams :=
  routeAll_induction (P := fun b' => Grows b.streams b'.streams) payloads
    (fun b' payload h => h.trans (grows_route b' name payload)) (Grows.refl _)

lemma grows_consume (b : Broker) (session : Nat) (name : String) (mode : AckMode) :
    Grows b.streams (b.consume session name mode).2.streams := by
  rcases consume_cases b session name mode with ⟨e, heq⟩ | ⟨q, -, -, heq⟩
  · rw [heq]; exact Grows.refl _
  · rw [heq]
    exact (Grows.append b.streams { queue := name, mode }).trans
      (grows_routeAll (b := b.enlist session name mode q) q.ready)

lemma grows_close (b : Broker) (session : Nat) : Grows b.streams (b.close session).streams := by
  cases ho : b.isOpen session with
  | false => rw [close_of_not_open ho]; exact Grows.refl _
  | true =>
    rw [close_of_open ho]
    exact releaseQueues_induction (P := fun b' => Grows b.streams b'.streams) session _
      (fun b' name q _ h => h) (fun b' name payload h => h.trans (grows_route b' name payload))
      (Grows.refl _)

/-- When the streams only grow, what leaves the stock has come to a consumer that settles at once. -/
lemma stock_add_autoArrivals {b' : Broker} {routed : Multiset Bytes}
    (hgrows : Grows b.streams b'.streams) (h : b'.balance name = b.balance name + routed) :
    b'.stock name + (autoArrivals name b.streams b'.streams : Multiset Bytes) =
      b.stock name + routed := by
  have hload : b.autoLoad name + (autoArrivals name b.streams b'.streams : Multiset Bytes) =
      b'.autoLoad name := autoArrivals_add hgrows
  rw [balance, balance, ← hload] at h
  apply add_right_cancel (b := b.autoLoad name)
  calc b'.stock name + (autoArrivals name b.streams b'.streams : Multiset Bytes) + b.autoLoad name
      = b'.stock name + (b.autoLoad name + (autoArrivals name b.streams b'.streams : List Bytes)) := by
        abel
    _ = b.stock name + b.autoLoad name + routed := h
    _ = b.stock name + routed + b.autoLoad name := by abel

end Broker

namespace Desk

/-! ## What a run has done -/

/-- The messages that a command brings to a queue: a publication that succeeds and an injection do,
if the queue was declared before. -/
def routedBy (name : String) (desk : Desk) (c : Command) : List Bytes :=
  let known := (desk.broker.queue? name).isSome
  match c with
  | .publish _ queue payload =>
    if (desk.step c).1 = .done ∧ queue = name ∧ known then [payload] else []
  | .control (.inject queue payload) => if queue = name ∧ known then [payload] else []
  | _ => []

/-- The messages of a queue that a command settles: those of deliveries that have to be settled, when
the broker accepts the verdict. -/
def settledBy (verdict : Verdict) (name : String) (desk : Desk) (c : Command) : List Bytes :=
  match c with
  | .settle v n =>
    match desk.deliveries[n]? with
    | some (some d) =>
      if (desk.step c).1 = .done ∧ v = verdict ∧ d.pending ∧ d.queue = name then [d.payload] else []
    | _ => []
  | _ => []

/-- The messages of a queue that come to consumers that settle at once through a command. -/
def handedToAutoBy (name : String) (desk : Desk) (c : Command) : List Bytes :=
  autoArrivals name desk.broker.streams (desk.step c).2.broker.streams

/-- Collects what the commands of a run do, from the given state on. -/
def history (f : Desk → Command → List Bytes) : Desk → List Command → List Bytes
  | _, [] => []
  | desk, c :: rest => f desk c ++ history f (desk.step c).2 rest

/-- The messages that a run has brought to a queue. -/
def routed (name : String) (cs : List Command) : List Bytes :=
  history (routedBy name) {} cs

/-- The messages of a queue that a run has settled with the given verdict. -/
def settled (verdict : Verdict) (name : String) (cs : List Command) : List Bytes :=
  history (settledBy verdict name) {} cs

/-- The messages of a queue that a run has handed to consumers that settle at once. -/
def handedToAuto (name : String) (cs : List Command) : List Bytes :=
  history (handedToAutoBy name) {} cs

/-! ## What a command does -/

lemma step_connect (desk : Desk) :
    (desk.step .connect).2 = { desk with broker := desk.broker.connect.2 } := by
  rcases h : desk.broker.connect with ⟨_ | _, b⟩ <;> simp [step, h]

lemma step_consume (desk : Desk) (session : Nat) (queue : String) (mode : AckMode) :
    (desk.step (.consume session queue mode)).2 =
      { desk with broker := (desk.broker.consume session queue mode).2 } := by
  rcases h : desk.broker.consume session queue mode with ⟨_ | _, b⟩ <;> simp [step, h]

/-- What can become of the broker and of the deliveries by a command. -/
inductive Effect (desk : Desk) : Command → Desk → Prop where
  /-- Nothing is done: the command failed, or was a question. -/
  | nothing (c : Command) : Effect desk c desk
  /-- Somebody has connected, or was refused. -/
  | connect : Effect desk .connect { desk with broker := desk.broker.connect.2 }
  /-- There is a new queue. -/
  | declare {session : Nat} {queue : String} (hopen : desk.broker.isOpen session = true)
      (hnone : desk.broker.queue? queue = none) :
      Effect desk (.declare session queue) { desk with broker := desk.broker.declared queue }
  /-- Somebody has subscribed, or was refused. -/
  | consume (session : Nat) (queue : String) (mode : AckMode) :
      Effect desk (.consume session queue mode)
        { desk with broker := (desk.broker.consume session queue mode).2 }
  /-- A message was published. -/
  | publish {session : Nat} (hopen : desk.broker.isOpen session = true) (queue : String)
      (payload : Bytes) :
      Effect desk (.publish session queue payload) { desk with broker := desk.broker.route queue payload }
  /-- A session has ended. -/
  | close (session : Nat) :
      Effect desk (.close session) { desk with broker := desk.broker.close session }
  /-- The oldest message was taken from a stream. -/
  | next {stream tag : Nat} {payload : Bytes} {rest : List (Nat × Bytes)} {s : Stream}
      (hs : desk.broker.streams[stream]? = some s) (hbuf : s.buffer = (tag, payload) :: rest) :
      Effect desk (.next stream)
        { broker := desk.broker.modifyStream stream Stream.behead
          deliveries := desk.deliveries ++ [some ⟨s.queue, tag, payload, s.mode = .manual⟩] }
  /-- A delivery was used up, but the broker does not wait for its verdict. -/
  | forget {n : Nat} {d : Delivery} (verdict : Verdict) (hn : desk.deliveries[n]? = some (some d)) :
      Effect desk (.settle verdict n) { desk with deliveries := desk.deliveries.set n none }
  /-- A message was settled. -/
  | settle {n : Nat} {d : Delivery} {q : Queue} (verdict : Verdict)
      (hn : desk.deliveries[n]? = some (some d)) (hpending : d.pending = true)
      (hq : desk.broker.queue? d.queue = some q) (hmem : ∃ u ∈ q.unacked, u.tag = d.tag) :
      Effect desk (.settle verdict n)
        { broker := desk.broker.setQueue d.queue (Broker.settled q d.tag verdict)
          deliveries := desk.deliveries.set n none }
  /-- Somebody does not listen to a stream any more. -/
  | dropStream (stream : Nat) :
      Effect desk (.dropStream stream) { desk with broker := desk.broker.dropStream stream }
  /-- A message came from elsewhere. -/
  | inject (queue : String) (payload : Bytes) :
      Effect desk (.control (.inject queue payload)) { desk with broker := desk.broker.route queue payload }
  /-- A queue was asked about, and has forgotten consumers that do not listen any more. -/
  | stats {queue : String} {q : Queue} (hq : desk.broker.queue? queue = some q) :
      Effect desk (.control (.stats queue))
        { desk with broker := desk.broker.setQueue queue (q.prune desk.broker.isListening) }
  /-- Connections will be refused. -/
  | refuseConnects (n : Nat) :
      Effect desk (.control (.refuseConnects n)) { desk with broker := desk.broker.refuseConnects n }
  /-- A channel will be refused. -/
  | refuseChannel :
      Effect desk (.control .refuseChannel) { desk with broker := desk.broker.refuseChannel }

/-- **What a command does.** -/
lemma step_effect (desk : Desk) (c : Command) : desk.Effect c (desk.step c).2 := by
  cases c with
  | connect =>
    rw [step_connect]
    exact .connect
  | declare session queue =>
    rcases Broker.declare_cases desk.broker session queue with heq | ⟨hopen, hnone, heq⟩
    · simp only [step, heq]
      exact .nothing _
    · simp only [step, heq]
      exact .declare hopen hnone
  | consume session queue mode =>
    rw [step_consume]
    exact .consume session queue mode
  | publish session queue payload =>
    simp only [step, Broker.publish]
    split
    · exact .nothing _
    · next hopen => exact .publish (by simpa using hopen) queue payload
  | close session => exact .close session
  | next stream =>
    rcases Broker.poll_cases desk.broker stream with (heq | heq) | ⟨s, tag, payload, rest, hs, hbuf, heq⟩
    · simp only [step, heq]
      exact .nothing _
    · simp only [step, heq]
      exact .nothing _
    · simp only [step, heq]
      exact .next hs hbuf
  | settle verdict n =>
    rcases hn : desk.deliveries[n]? with _ | _ | d
    · simp only [step, hn]
      exact .nothing _
    · simp only [step, hn]
      exact .nothing _
    · rcases Broker.settle_cases desk.broker verdict d with ⟨heq, -⟩ | ⟨q, hpending, hq, hmem, heq⟩
      · simp only [step, hn, heq]
        exact .forget verdict hn
      · simp only [step, hn, heq]
        exact .settle verdict hn hpending hq hmem
  | dropStream stream => exact .dropStream stream
  | control c =>
    cases c with
    | inject queue payload => exact .inject queue payload
    | stats queue =>
      simp only [step, Broker.control, Broker.stats]
      split
      · exact .nothing _
      · next q hq => exact .stats hq
    | openSessions => exact .nothing _
    | refuseConnects n => exact .refuseConnects n
    | refuseChannel => exact .refuseChannel

lemma step_publish_of_open {desk : Desk} {session : Nat} (h : desk.broker.isOpen session = true)
    (queue : String) (payload : Bytes) : desk.step (.publish session queue payload) =
      (.done, { desk with broker := desk.broker.route queue payload }) := by
  simp [step, Broker.publish, h, Answer.ofUnit]

lemma step_publish_of_closed {desk : Desk} {session : Nat} (h : desk.broker.isOpen session = false)
    (queue : String) (payload : Bytes) : desk.step (.publish session queue payload) =
      (.failed ⟨.sendFailure, "publish to '" ++ queue ++ "' on closed channel"⟩, desk) := by
  simp [step, Broker.publish, h, Answer.ofUnit]

/-! ## What a command keeps -/

/-- The broker is sound, and what was taken from its streams was handed over by its queues. -/
structure Sound (desk : Desk) : Prop where
  broker : desk.broker.Sound
  delivery : ∀ {n : Nat} {d : Delivery}, desk.deliveries[n]? = some (some d) →
    ∃ q, desk.broker.queue? d.queue = some q ∧ q.Issued d.tag d.payload

variable {desk desk' : Desk} {name : String}

/-- Deliveries stay what they are while the broker goes on. -/
lemma Sound.of_later (hd : desk.Sound) {b : Broker} (hb : b.Sound) (hl : desk.broker.Later b) :
    ({ desk with broker := b } : Desk).Sound where
  broker := hb
  delivery h := by
    obtain ⟨q, hq, hissued⟩ := hd.delivery h
    obtain ⟨q', hq', hlater⟩ := hl hq
    exact ⟨q', hq', hissued.later hlater⟩

lemma Sound.forget (hd : desk.Sound) (n : Nat) :
    ({ desk with deliveries := desk.deliveries.set n none } : Desk).Sound where
  broker := hd.broker
  delivery {k d} h := by
    rw [List.getElem?_set] at h
    split at h
    · split at h <;> cases h
    · exact hd.delivery h

lemma Sound.take (hd : desk.Sound) {stream tag : Nat} {payload : Bytes} {rest : List (Nat × Bytes)}
    {s : Stream} (hs : desk.broker.streams[stream]? = some s) (hbuf : s.buffer = (tag, payload) :: rest) :
    ({ broker := desk.broker.modifyStream stream Stream.behead
       deliveries := desk.deliveries ++ [some ⟨s.queue, tag, payload, s.mode = .manual⟩] } : Desk).Sound where
  broker := hd.broker.behead stream
  delivery {n d} h := by
    rcases Nat.lt_or_ge n desk.deliveries.length with hlt | hge
    · rw [List.getElem?_append_left hlt] at h
      exact hd.delivery h
    · rw [List.getElem?_append_right hge, List.getElem?_singleton] at h
      split at h
      · cases h
        exact hd.broker.issued hs (e := (tag, payload)) (by rw [hbuf]; exact List.mem_cons_self)
      · cases h

/-- A command keeps the broker sound. -/
lemma Effect.sound {c : Command} (h : desk.Effect c desk') (hd : desk.Sound) : desk'.Sound := by
  have hb := hd.broker
  cases h with
  | nothing => exact hd
  | connect =>
    exact hd.of_later (hb.congr (Broker.connect_queue? _) (Broker.connect_streams _))
      (.of_queue?_eq (Broker.connect_queue? _))
  | declare _ hnone => exact hd.of_later (hb.declared hnone) (Broker.later_declared hnone)
  | consume session queue mode =>
    exact hd.of_later (hb.consume session queue mode) (Broker.later_consume _ session queue mode)
  | publish _ queue payload | inject queue payload =>
    exact hd.of_later (hb.route queue payload) (Broker.later_route _ queue payload)
  | close session => exact hd.of_later (hb.close session) (Broker.later_close _ session)
  | next hs hbuf => exact hd.take hs hbuf
  | forget => exact hd.forget _
  | settle verdict _ _ hq _ =>
    exact (hd.of_later (hb.setQueue_settled hq _ verdict)
      (Broker.later_setQueue hq (Broker.later_settled _ verdict))).forget _
  | dropStream stream => exact hd.of_later (hb.dropStream stream) (.of_queue?_eq rfl)
  | stats hq =>
    exact hd.of_later (hb.pruned hq) (Broker.later_setQueue hq
      (Queue.later_of_sublist (List.Sublist.refl _) rfl))
  | refuseConnects n => exact hd.of_later (hb.congr rfl rfl) (.of_queue?_eq rfl)
  | refuseChannel => exact hd.of_later (hb.congr rfl rfl) (.of_queue?_eq rfl)

lemma Sound.step (hd : desk.Sound) (c : Command) : (desk.step c).2.Sound :=
  (step_effect desk c).sound hd

/-- What a command takes out of the stock of a queue is what it settles and what it hands to
consumers that settle at once, and what it adds is what it brings.  Verdicts are counted. -/
structure Conserves (name : String) (desk : Desk) (c : Command) : Prop where
  payloads : (desk.step c).2.broker.stock name + (settledBy .ack name desk c : Multiset Bytes) +
      (settledBy .reject name desk c : List Bytes) + (handedToAutoBy name desk c : List Bytes) =
    desk.broker.stock name + (routedBy name desk c : List Bytes)
  counts : ∀ v, (desk.step c).2.broker.count name v =
    desk.broker.count name v + (settledBy v name desk c).length

/-- Commands that settle nothing and take nothing out of a stream. -/
lemma Conserves.of_grows {c : Command} (hs : ∀ v, settledBy v name desk c = [])
    (hgrows : Grows desk.broker.streams (desk.step c).2.broker.streams)
    (hbalance : (desk.step c).2.broker.balance name =
      desk.broker.balance name + (routedBy name desk c : List Bytes))
    (hcount : ∀ v, (desk.step c).2.broker.count name v = desk.broker.count name v) :
    Conserves name desk c where
  payloads := by
    rw [hs, hs, Multiset.coe_nil, add_zero, add_zero]
    exact Broker.stock_add_autoArrivals hgrows hbalance
  counts v := by rw [hs, hcount]; rfl

/-- Commands that only take something out of a stream. -/
lemma Conserves.of_modify {c : Command} {i : Nat} {f : Stream → Stream}
    (hs : ∀ v, settledBy v name desk c = []) (hr : routedBy name desk c = [])
    (hf : ∀ s, (f s).buffer.length ≤ s.buffer.length)
    (hstep : (desk.step c).2.broker = desk.broker.modifyStream i f) : Conserves name desk c where
  payloads := by
    have hauto : handedToAutoBy name desk c = [] := by
      rw [handedToAutoBy, hstep]
      exact autoArrivals_modify name desk.broker.streams i hf
    rw [hs, hs, hr, hauto, hstep]
    simp only [Multiset.coe_nil, add_zero]
    rfl
  counts v := by rw [hs, hstep]; rfl

/-- Commands that do nothing to queues and streams. -/
lemma Conserves.of_same {c : Command} (hs : ∀ v, settledBy v name desk c = [])
    (hr : routedBy name desk c = []) (hq : (desk.step c).2.broker.queue? = desk.broker.queue?)
    (hstreams : (desk.step c).2.broker.streams = desk.broker.streams) : Conserves name desk c := by
  have hstock : (desk.step c).2.broker.stock name = desk.broker.stock name := by
    simp only [Broker.stock, hq]
  refine .of_grows hs ?_ ?_ fun v => by simp only [Broker.count, hq]
  · rw [hstreams]; exact Grows.refl _
  · rw [hr, Broker.balance, Broker.balance, hstock, Broker.autoLoad, hstreams, Multiset.coe_nil,
      add_zero]
    rfl

lemma conserves_publish (hd : desk.Sound) (session : Nat) (queue : String) (payload : Bytes) :
    Conserves name desk (.publish session queue payload) := by
  cases ho : desk.broker.isOpen session with
  | false =>
    have hstep := step_publish_of_closed ho queue payload
    exact .of_same (fun _ => rfl) (by simp [routedBy, hstep]) (by rw [hstep]) (by rw [hstep])
  | true =>
    have hstep := step_publish_of_open ho queue payload
    refine .of_grows (fun _ => rfl) ?_ ?_ fun v => ?_
    · rw [hstep]; exact Broker.grows_route _ queue payload
    · simp only [hstep, routedBy, true_and]
      exact Broker.balance_route_if hd.broker queue payload name
    · rw [hstep]; exact Broker.count_route _ queue payload name v

lemma conserves_settle (hd : desk.Sound) (verdict : Verdict) (n : Nat) :
    Conserves name desk (.settle verdict n) := by
  rcases hn : desk.deliveries[n]? with _ | _ | d
  · exact .of_same (fun v => by simp [settledBy, hn]) rfl (by simp [step, hn]) (by simp [step, hn])
  · exact .of_same (fun v => by simp [settledBy, hn]) rfl (by simp [step, hn]) (by simp [step, hn])
  · rcases Broker.settle_cases desk.broker verdict d with ⟨hsame, herr⟩ | ⟨q, hp, hq, hu, hset⟩
    · -- the delivery needs no verdict, or the broker does not know it any more
      refine .of_same (fun v => ?_) rfl (by simp [step, hn, hsame]) (by simp [step, hn, hsame])
      cases hpend : d.pending with
      | false => simp [settledBy, hn, hpend]
      | true =>
        obtain ⟨e, he⟩ := herr hpend
        simp [settledBy, step, hn, he, Answer.ofUnit]
    · obtain ⟨u, hmem, htag⟩ := hu
      obtain ⟨q', hq', hissued⟩ := hd.delivery hn
      rw [hq, Option.some.injEq] at hq'
      subst hq'
      -- the queue gives a tag to one message only, so the verdict is about the message of the delivery
      have hpayload : u.payload = d.payload := hissued.payload_eq u hmem htag
      have hstep : desk.step (.settle verdict n) =
          (.done, { broker := desk.broker.setQueue d.queue (Broker.settled q d.tag verdict)
                    deliveries := desk.deliveries.set n none }) := by
        simp [step, hn, hset, Answer.ofUnit]
      have hsettled : ∀ v, settledBy v name desk (.settle verdict n) =
          if verdict = v ∧ d.queue = name then [d.payload] else [] := by
        intro v
        simp [settledBy, hstep, hn, hp]
      have hstock := Broker.stock_setQueue_settled hd.broker hq hmem verdict name
      rw [htag, hpayload] at hstock
      refine ⟨?_, fun v => ?_⟩
      · have hrouted : routedBy name desk (.settle verdict n) = [] := rfl
        rw [hsettled, hsettled, hrouted, handedToAutoBy, hstep, Broker.setQueue_streams,
          autoArrivals_self, ← hstock]
        by_cases heq : name = d.queue
        · cases verdict <;> simp [heq]
        · simp [heq, Ne.symm heq]
      · rw [hsettled, hstep, Broker.count_setQueue_settled hq]
        by_cases heq : name = d.queue
        · cases verdict <;> cases v <;> simp [heq]
        · simp [heq, Ne.symm heq]

lemma conserves_declare (name : String) (desk : Desk) (session : Nat) (queue : String) :
    Conserves name desk (.declare session queue) := by
  rcases Broker.declare_cases desk.broker session queue with h | ⟨-, hnone, h⟩
  · exact .of_same (fun _ => rfl) rfl (by simp [step, h]) (by simp [step, h])
  · have hstep : (desk.step (.declare session queue)).2.broker = desk.broker.declared queue := by
      simp [step, h]
    refine .of_grows (fun _ => rfl) ?_ ?_ fun v => ?_
    · rw [hstep]; exact Grows.refl _
    · rw [hstep]
      simpa [routedBy] using Broker.balance_declared hnone name
    · rw [hstep]; exact Broker.count_declared hnone name v

lemma conserves_stats (name : String) (desk : Desk) (queue : String) :
    Conserves name desk (.control (.stats queue)) := by
  cases hq : desk.broker.queue? queue with
  | none =>
    have hstep : (desk.step (.control (.stats queue))).2 = desk := by
      simp [step, Broker.control, Broker.stats, hq]
    exact .of_same (fun _ => rfl) rfl (by rw [hstep]) (by rw [hstep])
  | some q =>
    have hstep : (desk.step (.control (.stats queue))).2.broker =
        desk.broker.setQueue queue (q.prune desk.broker.isListening) := by
      simp [step, Broker.control, Broker.stats, hq]
    refine .of_grows (fun _ => rfl) ?_ ?_ fun v => ?_
    · rw [hstep]; exact Grows.refl _
    · rw [hstep]
      simpa [routedBy] using Broker.balance_pruned hq name
    · rw [hstep]; exact Broker.count_setQueue_of_eq hq (fun v => by cases v <;> rfl) name v

/-- **A command loses nothing and makes nothing up.** -/
lemma step_conserves (hd : desk.Sound) (name : String) (c : Command) : Conserves name desk c := by
  cases c with
  | connect =>
    refine .of_same (fun _ => rfl) rfl ?_ ?_
    · rw [step_connect]; exact Broker.connect_queue? _
    · rw [step_connect]; exact Broker.connect_streams _
  | declare session queue => exact conserves_declare name desk session queue
  | consume session queue mode =>
    refine .of_grows (fun _ => rfl) ?_ ?_ fun v => ?_
    · rw [step_consume]; exact Broker.grows_consume _ session queue mode
    · rw [step_consume]
      simpa [routedBy] using Broker.balance_consume hd.broker session queue mode name
    · rw [step_consume]; exact Broker.count_consume _ session queue mode name v
  | publish session queue payload => exact conserves_publish hd session queue payload
  | close session =>
    refine .of_grows (fun _ => rfl) (Broker.grows_close _ session) ?_
      (Broker.count_close _ session name)
    simpa [step, routedBy] using Broker.balance_close hd.broker session name
  | next stream =>
    rcases Broker.poll_cases desk.broker stream with (h | h) | ⟨s, tag, payload, rest, -, -, h⟩
    · exact .of_same (fun _ => rfl) rfl (by simp [step, h]) (by simp [step, h])
    · exact .of_same (fun _ => rfl) rfl (by simp [step, h]) (by simp [step, h])
    · exact .of_modify (i := stream) (f := Stream.behead) (fun _ => rfl) rfl
        (fun s => by simp [Stream.behead]) (by simp [step, h])
  | settle verdict n => exact conserves_settle hd verdict n
  | dropStream stream =>
    exact .of_modify (i := stream) (f := Stream.abandon) (fun _ => rfl) rfl
      (fun s => by simp [Stream.abandon]) rfl
  | control c =>
    cases c with
    | inject queue payload =>
      exact .of_grows (fun _ => rfl) (Broker.grows_route _ queue payload)
        (Broker.balance_route_if hd.broker queue payload name)
        (Broker.count_route _ queue payload name)
    | stats queue => exact conserves_stats name desk queue
    | openSessions => exact .of_same (fun _ => rfl) rfl rfl rfl
    | refuseConnects n => exact .of_same (fun _ => rfl) rfl rfl rfl
    | refuseChannel => exact .of_same (fun _ => rfl) rfl rfl rfl

/-! ## Whole runs -/

/-- What the commands of a run take and bring adds up. -/
lemma run_conserves (hd : desk.Sound) (name : String) (cs : List Command) :
    (desk.run cs).2.broker.stock name + (history (settledBy .ack name) desk cs : Multiset Bytes) +
        (history (settledBy .reject name) desk cs : List Bytes) +
        (history (handedToAutoBy name) desk cs : List Bytes) =
      desk.broker.stock name + (history (routedBy name) desk cs : List Bytes) ∧
    ∀ v, (desk.run cs).2.broker.count name v =
      desk.broker.count name v + (history (settledBy v name) desk cs).length := by
  induction cs generalizing desk with
  | nil => simp [run, history]
  | cons c rest ih =>
    obtain ⟨hp, hc⟩ := step_conserves hd name c
    obtain ⟨hp', hc'⟩ := ih (hd.step c)
    have hrun : (desk.run (c :: rest)).2 = ((desk.step c).2.run rest).2 := rfl
    refine ⟨?_, fun v => ?_⟩
    · -- the stock between the first command and the others cancels
      simp only [history, hrun, ← Multiset.coe_add]
      calc _ = (desk.step c).2.broker.stock name + (history (routedBy name) (desk.step c).2 rest :
              List Bytes) + (settledBy .ack name desk c : List Bytes) +
            (settledBy .reject name desk c : List Bytes) + (handedToAutoBy name desk c : List Bytes) := by
              rw [← hp']; abel
        _ = (desk.step c).2.broker.stock name + (settledBy .ack name desk c : List Bytes) +
            (settledBy .reject name desk c : List Bytes) + (handedToAutoBy name desk c : List Bytes) +
            (history (routedBy name) (desk.step c).2 rest : List Bytes) := by abel
        _ = _ := by rw [hp, add_assoc]
    · rw [hrun, hc' v, hc v, history, List.length_append, Nat.add_assoc]

lemma sound_empty : ({} : Desk).Sound where
  broker := Broker.sound_empty
  delivery h := by simp at h

/-- **No message is lost or duplicated.**  After any commands, the messages that were brought to a
declared queue are those that wait in it, those that are not settled, those that were accepted, those
that were refused, and those that were handed to consumers that settle at once; and the queue has
counted its verdicts right. -/
theorem payloads_conserved (cs : List Command) (name : String) (q : Queue)
    (h : (({} : Desk).run cs).2.broker.queue? name = some q) :
    (routed name cs : Multiset Bytes) =
      (q.ready : Multiset Bytes) + (q.unacked.map (·.payload) : List Bytes) +
        (settled .ack name cs : List Bytes) + (settled .reject name cs : List Bytes) +
        (handedToAuto name cs : List Bytes) ∧
    q.acked = (settled .ack name cs).length ∧ q.rejected = (settled .reject name cs).length := by
  obtain ⟨hp, hc⟩ := run_conserves sound_empty name cs
  have hstock : ({} : Desk).broker.stock name = 0 := rfl
  have hcount : ∀ v, ({} : Desk).broker.count name v = 0 := fun _ => rfl
  rw [hstock, zero_add, Broker.stock_of_some h] at hp
  have hack := hc .ack
  have hreject := hc .reject
  rw [Broker.count_of_some h, hcount, Nat.zero_add] at hack hreject
  exact ⟨hp.symm, hack, hreject⟩

/-- A run after which every place has a message: one was accepted, one refused, one handed to a
consumer that settles at once, one is not settled because it went round again, and one waits. -/
def busyRun : List Command :=
  [.connect, .declare 0 "q", .control (.inject "q" [1]), .consume 0 "q" .manual,
    .publish 0 "q" [2], .publish 0 "q" [3], .next 0, .next 0, .settle .ack 0, .settle .reject 1,
    .connect, .consume 1 "q" .auto, .publish 1 "q" [4], .dropStream 1, .close 0, .connect,
    .consume 2 "q" .manual, .next 2, .dropStream 2, .publish 1 "q" [5]]

theorem payloads_conserved_busyRun :
    ∃ q, (({} : Desk).run busyRun).2.broker.queue? "q" = some q ∧
      (routed "q" busyRun : Multiset Bytes) =
        (q.ready : Multiset Bytes) + (q.unacked.map (·.payload) : List Bytes) +
          (settled .ack "q" busyRun : List Bytes) + (settled .reject "q" busyRun : List Bytes) +
          (handedToAuto "q" busyRun : List Bytes) ∧
      q.acked = (settled .ack "q" busyRun).length ∧
      q.rejected = (settled .reject "q" busyRun).length := by
  have h : (({} : Desk).run busyRun).2.broker.queue? "q" =
      some { ready := [[5]], unacked := [⟨4, 2, [3]⟩], turn := 5, nextTag := 5, acked := 1,
             rejected := 1 } := by decide
  exact ⟨_, h, payloads_conserved busyRun "q" _ h⟩

end Desk

end MessageRelay
