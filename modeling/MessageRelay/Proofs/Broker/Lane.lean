import MessageRelay.Proofs.Broker.Custody
import MessageRelay.Proofs.Broker.Upkeep
import MessageRelay.Relay

/-!
# A queue with one consumer

A queue that has had one consumer only hands every message to the stream of this consumer, in the order in
which the messages come.  `Lane` says all that can be said of such a queue: what was taken from the stream and
settled, and what is still in it, determine everything else.

Before its first consumer comes a queue keeps whatever is brought to it (`Unheard`), and it counts nothing.
-/

namespace MessageRelay

/-- Whether a message can be read. -/
def Envelope.reads (payload : Bytes) : Bool :=
  (Envelope.decode payload).toBool

/-- What can be read is accepted, and nothing else is. -/
lemma Relay.eventOf_verdict (payload : Bytes) :
    (Relay.eventOf payload).2 = if Envelope.reads payload then .ack else .reject := by
  unfold eventOf Envelope.reads
  cases Envelope.decode payload with
  | ok e => rfl
  | error e => rfl

/-- The state of a queue that has handed all its messages to one consumer: `read` were taken and settled, and
`left` were not. -/
def Queue.serving (slot : Slot) (read : List Bytes) (left : List (Nat × Bytes)) (turn nextTag : Nat) :
    Queue where
  slots := [slot]
  unacked := if slot.mode = .manual then left.map fun e => ⟨e.1, slot.session, e.2⟩ else []
  turn := turn
  nextTag := nextTag
  acked := if slot.mode = .manual then read.countP Envelope.reads else 0
  rejected := if slot.mode = .manual then read.countP (!Envelope.reads ·) else 0

namespace Broker

variable {b b' : Broker} {name other : String} {slot : Slot} {read backlog : List Bytes}
  {left : List (Nat × Bytes)} {payload : Bytes} {i : Nat}

/-- All messages of a queue go to the stream of one consumer: `read` were taken from it and settled, and
`left` are in it. -/
structure Lane (b : Broker) (name : String) (slot : Slot) (read : List Bytes) (left : List (Nat × Bytes)) :
    Prop where
  sound : b.Sound
  stream : b.streams[slot.stream]? = some { queue := name, mode := slot.mode, buffer := left }
  /-- There has been no other stream from the queue. -/
  sole : ∀ {i : Nat} {s : Stream}, b.streams[i]? = some s → s.queue = name → i = slot.stream
  queue : ∃ turn nextTag, b.queue? name = some (.serving slot read left turn nextTag)

/-- Nobody has ever listened to a queue, in which `backlog` waits. -/
structure Unheard (b : Broker) (name : String) (backlog : List Bytes) : Prop where
  sound : b.Sound
  silent : ∀ s ∈ b.streams, s.queue ≠ name
  queue : ∃ turn nextTag, b.queue? name = some { ready := backlog, turn, nextTag }

/-! ## What does not touch the queue -/

lemma Lane.congr (h : b.Lane name slot read left) (hb : b'.Sound) (hq : b'.queue? name = b.queue? name)
    (hstream : b'.streams[slot.stream]? = b.streams[slot.stream]?)
    (hold : ∀ {i : Nat} {s' : Stream}, b'.streams[i]? = some s' →
      ∃ s, b.streams[i]? = some s ∧ s.queue = s'.queue) : b'.Lane name slot read left where
  sound := hb
  stream := hstream.trans h.stream
  sole hi hqueue := by
    obtain ⟨s, hs, heq⟩ := hold hi
    exact h.sole hs (heq.trans hqueue)
  queue := by rw [hq]; exact h.queue

lemma Unheard.congr (h : b.Unheard name backlog) (hb : b'.Sound) (hq : b'.queue? name = b.queue? name)
    (hold : ∀ {i : Nat} {s' : Stream}, b'.streams[i]? = some s' →
      ∃ s, b.streams[i]? = some s ∧ s.queue = s'.queue) : b'.Unheard name backlog where
  sound := hb
  silent s' hs' := by
    obtain ⟨i, hi⟩ := List.mem_iff_getElem?.1 hs'
    obtain ⟨s, hs, heq⟩ := hold hi
    rw [← heq]
    exact h.silent s (List.mem_iff_getElem?.2 ⟨i, hs⟩)
  queue := by rw [hq]; exact h.queue

lemma modifyStream_old {f : Stream → Stream} (hf : ∀ s, (f s).queue = s.queue) {j : Nat} {s' : Stream}
    (hj : (b.modifyStream i f).streams[j]? = some s') :
    ∃ s, b.streams[j]? = some s ∧ s.queue = s'.queue := by
  rw [modifyStream_streams] at hj
  obtain ⟨s, hs, rfl⟩ := Option.map_eq_some_iff.1 hj
  refine ⟨s, hs, ?_⟩
  split
  · exact (hf s).symm
  · rfl

/-- Something happens to another stream. -/
lemma Lane.modifyStream (h : b.Lane name slot read left) {f : Stream → Stream}
    (hb : (b.modifyStream i f).Sound) (hf : ∀ s, (f s).queue = s.queue) (hi : i ≠ slot.stream) :
    (b.modifyStream i f).Lane name slot read left := by
  refine h.congr hb rfl ?_ (modifyStream_old hf)
  rw [modifyStream_streams]
  simp [hi]

lemma Lane.dropStream (h : b.Lane name slot read left) (hi : i ≠ slot.stream) :
    (b.dropStream i).Lane name slot read left :=
  h.modifyStream (h.sound.dropStream i) (fun _ => rfl) hi

lemma Unheard.dropStream (h : b.Unheard name backlog) (i : Nat) : (b.dropStream i).Unheard name backlog :=
  h.congr (h.sound.dropStream i) rfl (modifyStream_old (f := Stream.abandon) fun _ => rfl)

/-- What comes from another queue is settled there. -/
lemma settle_queue?_of_ne {d : Delivery} (verdict : Verdict) (h : d.queue ≠ name) :
    (b.settle verdict d).2.queue? name = b.queue? name := by
  rcases settle_cases b verdict d with ⟨heq, -⟩ | ⟨q, -, hq, -, heq⟩
  · rw [heq]
  · rw [heq, queue?_setQueue hq, if_neg (Ne.symm h)]

lemma settle_streams_eq (verdict : Verdict) (d : Delivery) :
    (b.settle verdict d).2.streams = b.streams := by
  rcases settle_cases b verdict d with ⟨heq, -⟩ | ⟨q, -, -, -, heq⟩ <;> rw [heq]
  rfl

lemma poll_delivery {d : Delivery} (h : b.poll i = (.delivery d, b')) :
    b' = b.modifyStream i Stream.behead ∧ ∃ s, b.streams[i]? = some s ∧ s.queue = d.queue := by
  rcases poll_cases b i with (heq | heq) | ⟨s, tag, payload, rest, hs, -, heq⟩
  · rw [heq] at h
    cases h
  · rw [heq] at h
    cases h
  · rw [heq] at h
    cases h
    exact ⟨rfl, s, hs, rfl⟩

/-- Somebody else takes a message and settles it. -/
lemma Lane.serve (h : b.Lane name slot read left) {d : Delivery} (hpoll : b.poll i = (.delivery d, b'))
    (hi : i ≠ slot.stream) : (Relay.settle b' d).2.Lane name slot read left := by
  obtain ⟨rfl, s, hs, hqueue⟩ := poll_delivery hpoll
  have htaken := h.modifyStream (f := Stream.behead) (h.sound.behead i) (fun _ => rfl) hi
  have hother : d.queue ≠ name := fun heq => hi (h.sole hs (hqueue.trans heq))
  refine htaken.congr (htaken.sound.settle _ d) (settle_queue?_of_ne _ hother) ?_ fun {j s'} hj => ?_
  · exact congrArg (·[slot.stream]?) (settle_streams_eq _ d)
  · exact ⟨s', (congrArg (·[j]?) (settle_streams_eq _ d)).symm.trans hj, rfl⟩

lemma Unheard.serve (h : b.Unheard name backlog) {d : Delivery} (hpoll : b.poll i = (.delivery d, b')) :
    (Relay.settle b' d).2.Unheard name backlog := by
  obtain ⟨rfl, s, hs, hqueue⟩ := poll_delivery hpoll
  have htaken := h.congr (h.sound.behead i) rfl (modifyStream_old (f := Stream.behead) fun _ => rfl)
  have hother : d.queue ≠ name := by
    rw [← hqueue]
    exact h.silent s (List.mem_iff_getElem?.2 ⟨i, hs⟩)
  refine htaken.congr (htaken.sound.settle _ d) (settle_queue?_of_ne _ hother) fun {j s'} hj => ?_
  exact ⟨s', (congrArg (·[j]?) (settle_streams_eq _ d)).symm.trans hj, rfl⟩

lemma route_queue?_of_ne (h : other ≠ name) : (b.route other payload).queue? name = b.queue? name := by
  cases hq : b.queue? other with
  | none => rw [route_of_none hq]
  | some q =>
    rcases route_cases hq payload with ⟨s, -, -, heq⟩ | ⟨-, heq⟩
    · rw [heq, handOver_queue? hq, if_neg (Ne.symm h)]
    · rw [heq, store_queue? hq, if_neg (Ne.symm h)]

lemma route_old {s' : Stream} (hi : (b.route other payload).streams[i]? = some s') :
    ∃ s, b.streams[i]? = some s ∧ s.queue = s'.queue := by
  obtain ⟨s, hs, hqueue, -⟩ := (fed_route b other payload).stream hi
  exact ⟨s, hs, hqueue.symm⟩

/-- A message is brought to another queue. -/
lemma Lane.route_of_ne (h : b.Lane name slot read left) (hne : other ≠ name) (payload : Bytes) :
    (b.route other payload).Lane name slot read left := by
  refine h.congr (h.sound.route other payload) (route_queue?_of_ne hne) ?_ route_old
  cases hq : b.queue? other with
  | none => rw [route_of_none hq]
  | some q =>
    rcases route_cases hq payload with ⟨taker, htaker, -, heq⟩ | ⟨-, heq⟩
    · rw [heq, handOver_streams, getElem?_carry, h.stream, Option.map_some, if_neg]
      -- the stream of whoever gets the message comes from the other queue
      intro hsame
      obtain ⟨s, hs, hqueue, -⟩ := h.sound.slot hq htaker
      rw [show taker.stream = slot.stream from hsame, h.stream, Option.some.injEq] at hs
      rw [← hs] at hqueue
      exact hne hqueue.symm
    · rw [heq]
      rfl

/-! ## Messages come -/

lemma Lane.isListening (h : b.Lane name slot read left) : b.isListening slot.stream = true := by
  rw [Broker.isListening, h.stream]
  rfl

/-- **A message that is brought to the queue goes to the end of the stream.** -/
lemma Lane.route (h : b.Lane name slot read left) (payload : Bytes) :
    ∃ tag, (b.route name payload).Lane name slot read (left ++ [(tag, payload)]) := by
  obtain ⟨turn, nextTag, hq⟩ := h.queue
  refine ⟨nextTag, h.sound.route name payload, ?_, fun hi hqueue => ?_, turn + 1, nextTag + 1, ?_⟩
  all_goals
    rcases route_cases hq payload with ⟨taker, htaker, -, heq⟩ | ⟨hnone, heq⟩
    rotate_left
    · exact absurd (hnone slot (List.mem_singleton.2 rfl)) (by rw [h.isListening]; exact Bool.noConfusion)
    obtain rfl : taker = slot := List.mem_singleton.1 htaker
  · rw [heq, handOver_streams, getElem?_carry, h.stream, Option.map_some, if_pos rfl]
    rfl
  · obtain ⟨s, hs, hold⟩ := route_old hi
    exact h.sole hs (hold.trans hqueue)
  · rw [heq, handOver_queue? hq, if_pos rfl, Option.some.injEq]
    cases taker with
    | mk session mode stream =>
      cases mode <;>
        simp [Queue.handed, Queue.handTo, Queue.prune, Queue.serving, h.isListening]

lemma Lane.routeAll (h : b.Lane name slot read left) (payloads : List Bytes) :
    ∃ more : List (Nat × Bytes), more.map (·.2) = payloads ∧
      (b.routeAll name payloads).Lane name slot read (left ++ more) := by
  induction payloads generalizing b left with
  | nil => exact ⟨[], rfl, by rwa [routeAll_nil, List.append_nil]⟩
  | cons payload rest ih =>
    obtain ⟨tag, hfirst⟩ := h.route payload
    obtain ⟨more, hmore, hrest⟩ := ih hfirst
    refine ⟨(tag, payload) :: more, by rw [List.map_cons, hmore], ?_⟩
    rw [routeAll_cons]
    rwa [List.append_assoc] at hrest

/-! ## Messages are taken -/

lemma Lane.isFed (h : b.Lane name slot read left) : b.isFed slot.stream = true := by
  obtain ⟨turn, nextTag, hq⟩ := h.queue
  rw [Broker.isFed, List.any_eq_true]
  obtain ⟨p, hp, hvalue⟩ : ∃ p ∈ b.queues, p.2 = .serving slot read left turn nextTag := by
    obtain ⟨l, r, heq, -⟩ := List.lookup_eq_some_iff.1 hq
    rw [heq]
    exact ⟨_, List.mem_append_right l List.mem_cons_self, rfl⟩
  exact ⟨p, hp, by simp [hvalue, Queue.serving]⟩

/-- There is nothing in the stream, but something may come. -/
lemma Lane.poll_nil (h : b.Lane name slot read []) : b.poll slot.stream = (.pending, b) := by
  simp [poll, h.stream, h.isFed]

/-- The oldest message is taken from the stream. -/
lemma Lane.poll_cons {e : Nat × Bytes} {rest : List (Nat × Bytes)} (h : b.Lane name slot read (e :: rest)) :
    b.poll slot.stream =
      (.delivery ⟨name, e.1, e.2, slot.mode = .manual⟩, b.modifyStream slot.stream Stream.behead) := by
  rcases poll_cases b slot.stream with (heq | heq) | ⟨s, tag, payload, rest', hs, hbuffer, heq⟩
  · simp [poll, h.stream] at heq
  · simp [poll, h.stream] at heq
  · rw [h.stream, Option.some.injEq] at hs
    subst hs
    cases hbuffer
    exact heq

/-- The queue after its oldest unsettled message was settled. -/
lemma settled_serving {e : Nat × Bytes} {rest : List (Nat × Bytes)} {turn nextTag : Nat}
    (hmanual : slot.mode = .manual)
    (htags : (Queue.serving slot read (e :: rest) turn nextTag).Tagged) :
    Broker.settled (.serving slot read (e :: rest) turn nextTag) e.1 (Relay.eventOf e.2).2 =
      .serving slot (read ++ [e.2]) rest turn nextTag := by
  have hrest : ((rest.map fun e => (⟨e.1, slot.session, e.2⟩ : Unsettled)).filter (·.tag != e.1)) =
      rest.map fun e => ⟨e.1, slot.session, e.2⟩ := by
    refine List.filter_eq_self.2 fun u hu => ?_
    have hordered := htags.ordered
    simp only [Queue.serving, hmanual, if_true, List.map_cons, List.pairwise_cons] at hordered
    have hlt := hordered.1 u hu
    simp only [bne_iff_ne]
    omega
  rw [settled, Relay.eventOf_verdict]
  cases hreads : Envelope.reads e.2 <;>
    simp [Queue.serving, Queue.forget, countVerdict, hmanual, hrest, hreads]

/-- **The oldest message is taken from the stream and settled.** -/
lemma Lane.settle {e : Nat × Bytes} {rest : List (Nat × Bytes)} (h : b.Lane name slot read (e :: rest)) :
    (Relay.settle (b.modifyStream slot.stream Stream.behead)
      ⟨name, e.1, e.2, slot.mode = .manual⟩).2.Lane name slot (read ++ [e.2]) rest := by
  have hsound := (h.sound.behead slot.stream).settle (Relay.eventOf e.2).2
    ⟨name, e.1, e.2, slot.mode = .manual⟩
  have hstreams := settle_streams_eq (b := b.modifyStream slot.stream Stream.behead)
    (Relay.eventOf e.2).2 ⟨name, e.1, e.2, slot.mode = .manual⟩
  refine ⟨hsound, ?_, fun {i s'} hi hqueue => ?_, ?_⟩
  · refine (congrArg (·[slot.stream]?) hstreams).trans ?_
    rw [modifyStream_streams, h.stream, Option.map_some, if_pos rfl]
    rfl
  · obtain ⟨s, hs, hold⟩ := modifyStream_old (f := Stream.behead) (fun _ => rfl)
      ((congrArg (·[i]?) hstreams).symm.trans hi)
    exact h.sole hs (hold.trans hqueue)
  · obtain ⟨turn, nextTag, hq⟩ := h.queue
    refine ⟨turn, nextTag, ?_⟩
    have hq' : (b.modifyStream slot.stream Stream.behead).queue? name =
        some (.serving slot read (e :: rest) turn nextTag) := hq
    show ((b.modifyStream slot.stream Stream.behead).settle (Relay.eventOf e.2).2
      ⟨name, e.1, e.2, slot.mode = .manual⟩).2.queue? name = _
    by_cases hmanual : slot.mode = .manual
    · have hawaits : (Queue.serving slot read (e :: rest) turn nextTag).awaits e.1 = true := by
        simp [Queue.awaits, Queue.serving, hmanual]
      simp only [Broker.settle, hmanual, decide_true, Bool.not_true, Bool.false_eq_true, if_false, hq',
        hawaits, if_true]
      rw [queue?_setQueue_self hq']
      exact congrArg some (settled_serving hmanual (h.sound.tagged hq))
    · simp only [Broker.settle, hmanual, decide_false, Bool.not_false, if_true, hq']
      simp [Queue.serving, hmanual]

/-! ## The consumer comes -/

/-- **The first consumer of a queue gets all that has been waiting.** -/
lemma Unheard.consume {session stream : Nat} {mode : AckMode} (h : b.Unheard name backlog)
    (hconsume : b.consume session name mode = (.ok stream, b')) :
    ∃ left : List (Nat × Bytes), left.map (·.2) = backlog ∧ b'.Lane name ⟨session, mode, stream⟩ [] left := by
  obtain ⟨turn, nextTag, hq⟩ := h.queue
  rcases consume_cases b session name mode with ⟨e, heq⟩ | ⟨q, -, hq', heq⟩
  · rw [heq] at hconsume
    cases hconsume
  · rw [hq, Option.some.injEq] at hq'
    subst hq'
    rw [heq] at hconsume
    cases hconsume
    have hempty : (b.enlist session name mode { ready := backlog, turn, nextTag }).Lane name
        ⟨session, mode, b.streams.length⟩ [] [] := by
      refine ⟨h.sound.enlist hq session mode, ?_, fun {i s} hi hqueue => ?_, turn, nextTag, ?_⟩
      · rw [enlist_streams]
        exact List.getElem?_concat_length
      · rw [enlist_streams] at hi
        rcases getElem?_append_cases hi with hi | ⟨hi, -⟩
        · exact absurd hqueue (h.silent s (List.mem_iff_getElem?.2 ⟨i, hi⟩))
        · exact hi
      · rw [enlist_queue? hq, if_pos rfl, Option.some.injEq]
        cases mode <;> rfl
    exact hempty.routeAll backlog

/-! ## What nobody has listened to -/

/-- Queues that nobody has ever listened to count nothing. -/
def Untouched (b : Broker) : Prop :=
  ∀ ⦃name : String⦄ ⦃q : Queue⦄, b.queue? name = some q → (∀ s ∈ b.streams, s.queue ≠ name) →
    q.unacked = [] ∧ q.acked = 0 ∧ q.rejected = 0

lemma Untouched.of_old (h : b.Untouched) (hq : ∀ name, b'.queue? name = b.queue? name)
    (hold : ∀ s ∈ b.streams, ∃ s' ∈ b'.streams, s'.queue = s.queue) : b'.Untouched := by
  intro name q hname hsilent
  rw [hq] at hname
  refine h hname fun s hs heq => ?_
  obtain ⟨s', hs', hqueue⟩ := hold s hs
  exact hsilent s' hs' (hqueue.trans heq)

lemma Untouched.setQueue {q q' : Queue} (h : b.Untouched) (hq : b.queue? name = some q)
    (hq' : q.unacked = [] ∧ q.acked = 0 ∧ q.rejected = 0 →
      q'.unacked = [] ∧ q'.acked = 0 ∧ q'.rejected = 0) : (b.setQueue name q').Untouched := by
  intro other q₁ hq₁ hsilent
  rw [queue?_setQueue hq] at hq₁
  split at hq₁
  · next heq =>
    subst heq
    cases hq₁
    exact hq' (h hq hsilent)
  · exact h hq₁ hsilent

lemma modifyStream_kept {f : Stream → Stream} (hf : ∀ s, (f s).queue = s.queue) :
    ∀ s ∈ b.streams, ∃ s' ∈ (b.modifyStream i f).streams, s'.queue = s.queue := by
  intro s hs
  obtain ⟨j, hj⟩ := List.mem_iff_getElem?.1 hs
  have hj' : (b.modifyStream i f).streams[j]? = some (if i = j then f s else s) := by
    rw [modifyStream_streams, hj, Option.map_some]
  refine ⟨_, List.mem_iff_getElem?.2 ⟨j, hj'⟩, ?_⟩
  split
  · exact hf s
  · rfl

lemma Untouched.modifyStream (h : b.Untouched) {f : Stream → Stream} (hf : ∀ s, (f s).queue = s.queue) :
    (b.modifyStream i f).Untouched :=
  h.of_old (fun _ => rfl) (modifyStream_kept hf)

lemma Untouched.route (h : b.Untouched) (hb : b.Sound) (other : String) (payload : Bytes) :
    (b.route other payload).Untouched := by
  cases hq : b.queue? other with
  | none => rwa [route_of_none hq]
  | some q =>
    rcases route_cases hq payload with ⟨taker, htaker, -, heq⟩ | ⟨-, heq⟩
    · rw [heq]
      intro name q₁ hq₁ hsilent
      have hcarried : ∀ s ∈ b.streams, ∃ s' ∈ (b.handOver other q taker payload).streams,
          s'.queue = s.queue := by
        rw [handOver_streams]
        exact modifyStream_kept fun _ => rfl
      -- somebody listens to the queue to which the message has come
      have hne : name ≠ other := by
        rintro rfl
        obtain ⟨s, hs, hqueue, -⟩ := hb.slot hq htaker
        obtain ⟨s', hs', hqueue'⟩ := hcarried s (List.mem_iff_getElem?.2 ⟨_, hs⟩)
        exact hsilent s' hs' (hqueue'.trans hqueue)
      rw [handOver_queue? hq, if_neg hne] at hq₁
      refine h hq₁ fun s hs heq => ?_
      obtain ⟨s', hs', hqueue⟩ := hcarried s hs
      exact hsilent s' hs' (hqueue.trans heq)
    · rw [heq]
      exact h.setQueue hq id

lemma Untouched.routeAll (h : b.Untouched) (hb : b.Sound) (other : String) (payloads : List Bytes) :
    (b.routeAll other payloads).Untouched :=
  (routeAll_induction (P := fun b => b.Untouched ∧ b.Sound) payloads
    (fun _ payload h => ⟨h.1.route h.2 other payload, h.2.route other payload⟩) ⟨h, hb⟩).1

lemma Untouched.consume (h : b.Untouched) (hb : b.Sound) (session : Nat) (name : String) (mode : AckMode) :
    (b.consume session name mode).2.Untouched := by
  rcases consume_cases b session name mode with ⟨e, heq⟩ | ⟨q, -, hq, heq⟩
  · rw [heq]
    exact h
  · rw [heq]
    refine Untouched.routeAll (fun other q₁ hq₁ hsilent => ?_) (hb.enlist hq session mode) name q.ready
    rw [enlist_streams] at hsilent
    have hne : other ≠ name := fun heq =>
      hsilent { queue := name, mode } (List.mem_append_right _ (List.mem_singleton.2 rfl)) heq.symm
    rw [enlist_queue? hq, if_neg hne] at hq₁
    exact h hq₁ fun s hs => hsilent s (List.mem_append_left _ hs)

lemma Untouched.close (h : b.Untouched) (hb : b.Sound) (session : Nat) : (b.close session).Untouched := by
  cases hopen : b.isOpen session with
  | false => rwa [close_of_not_open hopen]
  | true =>
    rw [close_of_open hopen]
    have hstart : (b.hangUp session).Untouched ∧ (b.hangUp session).Sound := ⟨h, hb.congr rfl rfl⟩
    refine (releaseQueues_induction (P := fun b => b.Untouched ∧ b.Sound) session _ ?_ ?_ hstart).1
    · intro b name q hq hkept
      refine ⟨hkept.1.setQueue hq fun hnone => ⟨?_, hnone.2⟩, hkept.2.dismiss hq session⟩
      show q.unacked.filter _ = []
      rw [hnone.1, List.filter_nil]
    · exact fun _ name payload hkept => ⟨hkept.1.route hkept.2 name payload, hkept.2.route name payload⟩

end Broker

namespace Desk

variable {desk desk' : Desk} {ok : Command → Prop}

lemma Effect.untouched {c : Command} (h : desk.Effect c desk') (hd : desk.Sound)
    (hu : desk.broker.Untouched) : desk'.broker.Untouched := by
  have hb := hd.broker
  cases h with
  | nothing | forget | refuseConnects | refuseChannel => exact hu
  | connect =>
    exact hu.of_old (fun name => congrFun (Broker.connect_queue? _) name) fun s hs =>
      ⟨s, by rwa [Broker.connect_streams], rfl⟩
  | declare _ hnone =>
    intro name q hq hsilent
    rw [Broker.declared_queue? hnone] at hq
    split at hq
    · cases hq
      exact ⟨rfl, rfl, rfl⟩
    · exact hu hq hsilent
  | consume session queue mode => exact hu.consume hb session queue mode
  | publish _ queue payload | inject queue payload => exact hu.route hb queue payload
  | close session => exact hu.close hb session
  | next => exact hu.modifyStream (f := Stream.behead) fun _ => rfl
  | settle verdict _ _ hq hmem =>
    refine hu.setQueue hq fun hnone => ?_
    obtain ⟨u, hunsettled, -⟩ := hmem
    rw [hnone.1] at hunsettled
    cases hunsettled
  | dropStream stream => exact hu.modifyStream (i := stream) (f := Stream.abandon) fun _ => rfl
  | stats hq => exact hu.setQueue hq id

lemma untouched_step (hd : desk.Sound) (h : desk.broker.Untouched) (c : Command) :
    (desk.step c).2.broker.Untouched :=
  (step_effect desk c).untouched hd h

/-- Nothing is taken from a queue that nobody has listened to, whatever is done with a broker. -/
lemma untouched_run (cs : List Command) : (({} : Desk).run cs).2.broker.Untouched := by
  have hrun : ∀ {desk : Desk}, desk.Sound → desk.broker.Untouched → (desk.run cs).2.broker.Untouched := by
    induction cs with
    | nil => exact fun _ h => h
    | cons c rest ih => exact fun hd h => ih (hd.step c) (untouched_step hd h c)
  exact hrun sound_empty fun name q hq => by cases hq

lemma Works.untouched (hw : Works ok desk desk') (hd : desk.Sound) (h : desk.broker.Untouched) :
    desk'.broker.Untouched := by
  have hboth : desk'.Sound ∧ desk'.broker.Untouched := by
    induction hw with
    | refl => exact ⟨hd, h⟩
    | tail _ hlast ih =>
      cases hlast with
      | command c hc => exact ⟨ih.1.step c, untouched_step ih.1 ih.2 c⟩
      | clear b deliveries => exact ⟨ih.1.clear, ih.2⟩
  exact hboth.2

end Desk

end MessageRelay
