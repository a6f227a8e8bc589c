import MessageRelay.Proofs.Broker.Custody

/-!
# Settling

A client that has taken a message by hand settles it with nothing but the number of the delivery, and
may do so long after its stream was dropped, its session has ended and the message has gone round again.
This file says what comes of it.  As long as the session that consumed the message is open, the message
is unsettled under the tag of the delivery and under the name of this session (`Held.left`), and settling
takes it off the queue.  Once the session has ended, no message is unsettled under this tag any more:
one that goes round again gets another (`Held.mine`).  So settling fails, and changes nothing.

That a tag leads to no message of another session is a fact about streams first (`Broker.Marked`), for
the session may end before the delivery is taken from its stream.
-/

namespace MessageRelay

namespace Broker

variable {b b' : Broker} {owner : Nat → Nat} {name : String} {q : Queue} {payload : Bytes}
  {i session : Nat}

/-! ## Tags in a stream -/

/-- If a message is unsettled under the tag of one that is in the stream, the session has it. -/
def Marked (i session : Nat) (b : Broker) : Prop :=
  ∀ ⦃s : Stream⦄ ⦃e : Nat × Bytes⦄ ⦃q : Queue⦄ ⦃u : Unsettled⦄, b.streams[i]? = some s →
    e ∈ s.buffer → b.queue? s.queue = some q → u ∈ q.unacked → u.tag = e.1 → u.session = session

/-- A stream that is not there yet has nothing in it. -/
lemma marked_of_length_le (h : b.streams.length ≤ i) : b.Marked i session := by
  intro s e q u hi
  rw [List.getElem?_eq_none h] at hi
  cases hi

/-- What is in the stream later and was there before stays marked, for no tag is given out twice. -/
lemma Marked.of_later (hm : b.Marked i session) (hb : b.Sound) (hl : b.Later b')
    (hs : ∀ {s' : Stream} {e : Nat × Bytes}, b'.streams[i]? = some s' → e ∈ s'.buffer →
      ∃ s, b.streams[i]? = some s ∧ s'.queue = s.queue ∧ e ∈ s.buffer) : b'.Marked i session := by
  intro s' e q' u hi he hq' hu htag
  obtain ⟨s, hs, hqueue, he⟩ := hs hi he
  obtain ⟨q, hq, hissued⟩ := hb.issued hs he
  obtain ⟨q₁, hq₁, hlater⟩ := hl hq
  rw [← hqueue, hq', Option.some.injEq] at hq₁
  subst hq₁
  exact hm hs he hq (hlater.unacked_of_lt u hu (htag ▸ hissued.lt)) htag

lemma Marked.of_streams_eq (hm : b.Marked i session) (hb : b.Sound) (hl : b.Later b')
    (hs : b'.streams = b.streams) : b'.Marked i session :=
  hm.of_later hb hl fun hi he => ⟨_, hs ▸ hi, rfl, he⟩

lemma Marked.handOver (hm : b.Marked i session) (hb : b.Sound) (ho : b.Owned owner)
    (hi : owner i = session) (h : b.queue? name = some q) {slot : Slot} (hslot : slot ∈ q.slots) :
    (b.handOver name q slot payload).Marked i session := by
  have hold : (b.setQueue name (q.handed b.isListening slot payload)).Marked i session :=
    hm.of_streams_eq hb (later_setQueue h Queue.later_handed) rfl
  intro s' e q' u hs' he hq' hu htag
  obtain ⟨s, hs, hqueue, -, he | ⟨rfl, hname, -, rfl⟩⟩ := hb.mem_buffer_handOver h hslot hs' he
  · exact hold hs he (hqueue ▸ hq') hu htag
  · -- under the tag that is given out now nothing was unsettled before
    rw [hqueue, hname, handOver_queue? h, if_pos rfl, Option.some.injEq] at hq'
    subst hq'
    rcases Queue.mem_unacked_handed hu with hu | ⟨-, rfl⟩
    · exact absurd htag (Nat.ne_of_lt ((hb.tagged h).lt u hu))
    · rw [← hi, ho.slot h hslot]

lemma Marked.route (hm : b.Marked i session) (hb : b.Sound) (ho : b.Owned owner)
    (hi : owner i = session) (name : String) (payload : Bytes) :
    (b.route name payload).Marked i session := by
  cases h : b.queue? name with
  | none => rwa [route_of_none h]
  | some q =>
    rcases route_cases h payload with ⟨slot, hslot, -, heq⟩ | ⟨-, heq⟩
    · rw [heq]; exact hm.handOver hb ho hi h hslot
    · rw [heq]; exact hm.of_streams_eq hb (later_store h) rfl

lemma Marked.modifyStream (hm : b.Marked i session) (hb : b.Sound) (j : Nat) {f : Stream → Stream}
    (hqueue : ∀ s, (f s).queue = s.queue) (hbuffer : ∀ s, (f s).buffer ⊆ s.buffer) :
    (b.modifyStream j f).Marked i session := by
  refine hm.of_later hb (.of_queue?_eq rfl) ?_
  intro s' e hs' he
  rw [modifyStream_streams] at hs'
  obtain ⟨s, hs, rfl⟩ := Option.map_eq_some_iff.1 hs'
  refine ⟨s, hs, ?_⟩
  split at he
  · next heq => exact ⟨by rw [if_pos heq, hqueue], hbuffer s he⟩
  · next hne => exact ⟨by rw [if_neg hne], he⟩

/-- Somebody subscribes: the session itself, if the stream is the new one. -/
lemma Marked.consume (hm : b.Marked i session) (hb : b.Sound) (ho : b.Owned owner) {who : Nat}
    (hi : Function.update owner b.streams.length who i = session) (name : String) (mode : AckMode) :
    (b.consume who name mode).2.Marked i session := by
  rcases consume_cases b who name mode with ⟨e, heq⟩ | ⟨q, hopen, hq, heq⟩
  · rwa [heq]
  · rw [heq]
    refine (routeAll_induction (b := b.enlist who name mode q)
      (P := fun b' => b'.Sound ∧ b'.Owned (Function.update owner b.streams.length who) ∧
        b'.Marked i session) q.ready ?_ ?_).2.2
    · rintro b' payload ⟨hb', ho', hm'⟩
      exact ⟨hb'.route name payload, ho'.route hb' name payload, hm'.route hb' ho' hi name payload⟩
    · refine ⟨hb.enlist hq who mode, ho.enlist hb hq hopen mode, ?_⟩
      refine hm.of_later hb (later_enlist hq who mode) ?_
      intro s' e hs' he
      rw [enlist_streams] at hs'
      rcases getElem?_append_cases hs' with hs' | ⟨-, rfl⟩
      · exact ⟨s', hs', rfl, he⟩
      · cases he

lemma Marked.close (hm : b.Marked i session) (hb : b.Sound) (ho : b.Owned owner)
    (hi : owner i = session) (who : Nat) : (b.close who).Marked i session := by
  cases hopen : b.isOpen who with
  | false => rwa [close_of_not_open hopen]
  | true =>
    rw [close_of_open hopen]
    have hclosed : (b.hangUp who).isOpen who = false := by
      rw [← Bool.not_eq_true, isOpen_hangUp]
      simp
    refine (releaseQueues_induction
      (P := fun b => b.isOpen who = false ∧ b.Sound ∧ b.Owned owner ∧ b.Marked i session) who _
      ?_ ?_ ⟨hclosed, hb.congr rfl rfl, ho.hangUp who, hm⟩).2.2.2
    · rintro b name q hq ⟨hc, hb, ho, hm⟩
      exact ⟨hc, hb.dismiss hq who, ho.dismiss hq hc,
        hm.of_streams_eq hb (later_dismiss hq who) rfl⟩
    · rintro b name payload ⟨hc, hb, ho, hm⟩
      exact ⟨by rwa [route_isOpen], hb.route name payload, ho.route hb name payload,
        hm.route hb ho hi name payload⟩

end Broker

/-- Tags are different, so that forgetting one takes one message off. -/
lemma Queue.Tagged.filter_tag {q : Queue} (ht : q.Tagged) {l r : List Unsettled} {u : Unsettled}
    (hq : q.unacked = l ++ u :: r) : q.unacked.filter (·.tag != u.tag) = l ++ r := by
  have hord := ht.ordered
  rw [hq, List.pairwise_append, List.pairwise_cons] at hord
  obtain ⟨-, ⟨hright, -⟩, hleft⟩ := hord
  have hl : l.filter (·.tag != u.tag) = l := by
    rw [List.filter_eq_self]
    intro v hv
    simpa using Nat.ne_of_lt (hleft v hv u List.mem_cons_self)
  have hr : r.filter (·.tag != u.tag) = r := by
    rw [List.filter_eq_self]
    intro v hv
    simpa using Nat.ne_of_gt (hright v hv)
  rw [hq, List.filter_append, hl, List.filter_cons, hr]
  simp

namespace Desk

variable {desk desk' : Desk} {owner : Nat → Nat} {session i n : Nat} {name : String} {d : Delivery}

/-! ## What holds of streams at every moment -/

lemma run_cons (desk : Desk) (c : Command) (rest : List Command) :
    (desk.run (c :: rest)).2 = ((desk.step c).2.run rest).2 := rfl

lemma run_append (desk : Desk) (cs more : List Command) :
    (desk.run (cs ++ more)).2 = ((desk.run cs).2.run more).2 := by
  induction cs generalizing desk with
  | nil => rfl
  | cons c rest ih => rw [List.cons_append, run_cons, run_cons, ih]

/-- A command leaves every queue in a later state. -/
lemma Effect.later {c : Command} (h : desk.Effect c desk') : desk.broker.Later desk'.broker := by
  cases h with
  | nothing | forget => exact .refl _
  | connect => exact .of_queue?_eq (Broker.connect_queue? _)
  | declare _ hnone => exact Broker.later_declared hnone
  | consume session queue mode => exact Broker.later_consume _ session queue mode
  | publish _ queue payload | inject queue payload => exact Broker.later_route _ queue payload
  | close session => exact Broker.later_close _ session
  | next | dropStream | refuseConnects | refuseChannel => exact .of_queue?_eq rfl
  | settle verdict _ _ hq _ => exact Broker.later_setQueue hq (Broker.later_settled _ verdict)
  | stats hq => exact Broker.later_setQueue hq (Queue.later_of_sublist (List.Sublist.refl _) rfl)

lemma later_step (desk : Desk) (c : Command) : desk.broker.Later (desk.step c).2.broker :=
  (step_effect desk c).later

/-- Commands leave what is in a stream marked. -/
lemma Effect.marked {c : Command} (he : desk.Effect c desk') (h : desk.Regular owner)
    (hi : owner i = session) (hlt : i < desk.broker.streams.length) (hm : desk.broker.Marked i session) :
    desk'.broker.Marked i session := by
  have hb := h.sound.broker
  -- many commands leave the streams as they are
  have hsame : desk'.broker.streams = desk.broker.streams → desk'.broker.Marked i session :=
    hm.of_streams_eq hb he.later
  cases he with
  | nothing | forget => exact hm
  | connect => exact hsame (Broker.connect_streams _)
  | declare | settle | stats | refuseConnects | refuseChannel => exact hsame rfl
  | consume who queue mode =>
    refine hm.consume hb h.owned ?_ queue mode
    rw [Function.update_of_ne (Nat.ne_of_lt hlt), hi]
  | publish _ queue payload | inject queue payload => exact hm.route hb h.owned hi queue payload
  | close who => exact hm.close hb h.owned hi who
  | @next stream =>
    exact hm.modifyStream hb stream (fun _ => rfl) fun s => (List.tail_sublist s.buffer).subset
  | dropStream stream =>
    exact hm.modifyStream hb stream (f := Stream.abandon) (fun _ => rfl) fun _ => List.nil_subset _

lemma marked_step (h : desk.Regular owner) (hi : owner i = session)
    (hlt : i < desk.broker.streams.length) (hm : desk.broker.Marked i session) (c : Command) :
    (desk.step c).2.broker.Marked i session :=
  (step_effect desk c).marked h hi hlt hm

/-! ## A session that has subscribed -/

/-- A session has a stream from a queue, and settles by hand what comes through it. -/
structure Subscribed (session i : Nat) (name : String) (desk : Desk) : Prop where
  regular : ∃ owner, desk.Regular owner ∧ owner i = session
  stream : ∃ s, desk.broker.streams[i]? = some s ∧ s.queue = name ∧ s.mode = .manual
  marked : desk.broker.Marked i session

lemma Subscribed.lt (h : desk.Subscribed session i name) : i < desk.broker.streams.length := by
  obtain ⟨s, hs, -⟩ := h.stream
  exact (List.getElem?_eq_some_iff.1 hs).1

/-- Whoever has a stream was connected. -/
lemma Subscribed.known (h : desk.Subscribed session i name) :
    session < desk.broker.sessions.length := by
  obtain ⟨owner, hr, rfl⟩ := h.regular
  obtain ⟨s, hs, -⟩ := h.stream
  exact hr.owned.owner_lt hs

/-- Who is given a stream has an open session, and the stream is his. -/
lemma subscribed_consume (h : desk.Regular owner)
    (hc : (desk.step (.consume session name .manual)).1 = .stream i) :
    desk.broker.isOpen session = true ∧
      (desk.step (.consume session name .manual)).2.Subscribed session i name := by
  have hr := h.consume session name .manual
  rw [step_consume] at hr ⊢
  rcases hcons : desk.broker.consume session name .manual with ⟨e | stream, b⟩
  · simp [Desk.step, hcons] at hc
  · simp only [Desk.step, hcons, Answer.stream.injEq] at hc
    subst hc
    obtain ⟨hopen, rfl, front, -, hs⟩ := Broker.consume_front h.sound.broker h.idle hcons
    have hnone : desk.broker.Marked desk.broker.streams.length session :=
      Broker.marked_of_length_le (Nat.le_refl _)
    have hm := hnone.consume h.sound.broker h.owned (Function.update_self _ session owner) name .manual
    rw [hcons] at hr hm
    exact ⟨hopen, ⟨⟨_, hr, by simp⟩, ⟨_, hs, rfl, rfl⟩, hm⟩⟩

lemma Subscribed.step (h : desk.Subscribed session i name) (c : Command) :
    (desk.step c).2.Subscribed session i name := by
  obtain ⟨owner, hr, hi⟩ := h.regular
  obtain ⟨owner', hr', hsame⟩ := hr.step c
  refine ⟨⟨owner', hr', by rw [hsame i h.lt, hi]⟩, ?_, marked_step hr hi h.lt h.marked c⟩
  obtain ⟨s, hs, hname, hmode⟩ := h.stream
  -- whatever happens to a stream, it comes from the same queue
  have hmodify : ∀ (j : Nat) (f : Stream → Stream),
      (∀ s, (f s).queue = s.queue ∧ (f s).mode = s.mode) →
      ∃ s', (desk.broker.streams.modify j f)[i]? = some s' ∧ s'.queue = name ∧ s'.mode = .manual := by
    intro j f hf
    rw [List.getElem?_modify, hs]
    refine ⟨_, rfl, ?_⟩
    split
    · exact ⟨(hf s).1.trans hname, (hf s).2.trans hmode⟩
    · exact ⟨hname, hmode⟩
  rcases step_streams desk c with hfull | ⟨j, -, heq⟩ | ⟨j, -, heq⟩
  · obtain ⟨s', more, hs', hqueue, hmode', -⟩ := hfull.grows hs
    exact ⟨s', hs', hqueue.trans hname, hmode'.trans hmode⟩
  · rw [heq]; exact hmodify j _ fun _ => ⟨rfl, rfl⟩
  · rw [heq]; exact hmodify j _ fun _ => ⟨rfl, rfl⟩

lemma Subscribed.run (h : desk.Subscribed session i name) (cs : List Command) :
    (desk.run cs).2.Subscribed session i name := by
  induction cs generalizing desk with
  | nil => exact h
  | cons c rest ih => exact ih (h.step c)

/-- A run is what its commands do. -/
lemma works_run (desk : Desk) (cs : List Command) : Works (· ∈ cs) desk (desk.run cs).2 := by
  induction cs generalizing desk with
  | nil => exact .refl
  | cons c rest ih =>
    rw [run_cons]
    exact .head (.command c List.mem_cons_self)
      ((ih _).mono fun _ hc => List.mem_cons_of_mem _ hc)

/-- An open session has ended when it was closed, and not otherwise. -/
lemma isOpen_run (hopen : desk.broker.isOpen session = true) (cs : List Command) :
    (desk.run cs).2.broker.isOpen session = true ↔ .close session ∉ cs := by
  have hlt := Broker.lt_of_isOpen hopen
  constructor
  · intro ho hmem
    obtain ⟨before, after, rfl⟩ := List.append_of_mem hmem
    rw [run_append, run_cons] at ho
    have hclosed := Broker.isOpen_close_self (desk.run before).2.broker session
    have hknown : session < ((desk.run before).2.broker.close session).sessions.length := by
      rw [Broker.close_sessions, List.length_set]
      exact Nat.lt_of_lt_of_le hlt (works_run desk before).wider.2
    have hended := Works.not_isOpen (works_run ((desk.run before).2.step (.close session)).2 after)
      hknown hclosed
    rw [ho] at hended
    cases hended
  · intro hnot
    rw [Works.isOpen_eq hlt (works_run desk cs) (by rintro c hc rfl; exact hnot hc), hopen]

/-! ## A delivery in the hands of a client -/

/-- As if the delivery with a number were forgotten. -/
def without (desk : Desk) (n : Nat) : Desk :=
  { desk with deliveries := desk.deliveries.set n none }

lemma Regular.without (h : desk.Regular owner) (n : Nat) : (desk.without n).Regular owner where
  sound := h.sound.forget n
  idle := h.idle
  owned := h.owned
  attended := h.attended
  counted := h.counted
  taken hd := h.taken (mem_of_getElem?_set_none hd)

/-- A command that does not settle a delivery does the same without it. -/
lemma step_without (hn : n < desk.deliveries.length) {c : Command} (hc : ∀ v, c ≠ .settle v n) :
    ((desk.without n).step c).2 = (desk.step c).2.without n := by
  cases c with
  | connect => rw [step_connect, step_connect]; rfl
  | declare session queue => rfl
  | consume session queue mode => rw [step_consume, step_consume]; rfl
  | publish session queue payload => rfl
  | close session => rfl
  | next stream =>
    rcases Broker.poll_cases desk.broker stream with
      (heq | heq) | ⟨s, tag, payload, rest, -, -, heq⟩
    · simp only [Desk.step, Desk.without, heq]
    · simp only [Desk.step, Desk.without, heq]
    · simp only [Desk.step, Desk.without, heq]
      rw [List.set_append_left _ _ hn]
  | settle v m =>
    have hne : n ≠ m := by
      rintro rfl
      exact hc v rfl
    have hget : (desk.without n).deliveries[m]? = desk.deliveries[m]? := List.getElem?_set_ne hne
    rcases hm : desk.deliveries[m]? with _ | _ | d
    · rw [hm] at hget
      simp only [Desk.step, hm, hget]
    · rw [hm] at hget
      simp only [Desk.step, hm, hget]
    · rw [hm] at hget
      simp only [Desk.step, hm, hget]
      simp only [Desk.without, List.set_comm _ _ hne]
  | dropStream stream => rfl
  | control c => rfl

/-- A delivery is there until it is settled. -/
lemma Effect.deliveries {c : Command} (h : desk.Effect c desk') (hn : n < desk.deliveries.length)
    (hc : ∀ v, c ≠ .settle v n) : desk'.deliveries[n]? = desk.deliveries[n]? := by
  cases h with
  | next => exact List.getElem?_append_left hn
  | forget verdict | settle verdict => exact List.getElem?_set_ne fun heq => hc verdict (by rw [heq])
  | _ => rfl

lemma deliveries_step (hn : n < desk.deliveries.length) {c : Command} (hc : ∀ v, c ≠ .settle v n) :
    (desk.step c).2.deliveries[n]? = desk.deliveries[n]? :=
  (step_effect desk c).deliveries hn hc

/-- A delivery of a session was taken and not used yet. -/
structure Held (session n : Nat) (d : Delivery) (desk : Desk) : Prop where
  unused : desk.deliveries[n]? = some (some d)
  pending : d.pending = true
  known : session < desk.broker.sessions.length
  /-- If a message is unsettled under its tag, the session has it. -/
  mine : ∃ q, desk.broker.queue? d.queue = some q ∧ d.tag < q.nextTag ∧
    ∀ u ∈ q.unacked, u.tag = d.tag → u.session = session
  /-- As long as the session is open, the message is unsettled, and no other delivery settles it. -/
  left : desk.broker.isOpen session = true →
    (desk.without n).LeftBehind d.queue ⟨d.tag, session, d.payload⟩

lemma held_next (h : desk.Subscribed session i name)
    (hc : (desk.step (.next i)).1 = .delivery n d) : (desk.step (.next i)).2.Held session n d := by
  obtain ⟨owner, hr, hi⟩ := h.regular
  obtain ⟨s, hs, -, hmode⟩ := h.stream
  rcases Broker.poll_cases desk.broker i with
    (heq | heq) | ⟨s₁, tag, payload, rest, hs₁, hbuf, heq⟩
  · simp [Desk.step, heq] at hc
  · simp [Desk.step, heq] at hc
  · rw [hs, Option.some.injEq] at hs₁
    subst hs₁
    simp only [Desk.step, heq, Answer.delivery.injEq] at hc ⊢
    obtain ⟨rfl, rfl⟩ := hc
    have hhead : (tag, payload) ∈ s.buffer := by rw [hbuf]; exact List.mem_cons_self
    obtain ⟨q, hq, hissued⟩ := hr.sound.broker.issued hs hhead
    refine ⟨List.getElem?_concat_length, by simpa using hmode, h.known, ?_, ?_⟩
    · exact ⟨q, hq, hissued.lt, fun u hu htag => h.marked hs hhead hq hu htag⟩
    · intro hopen
      have hunsettled := hr.owned.unsettled hs hmode (hi ▸ hopen) hhead hq
      rw [hi] at hunsettled
      refine ⟨⟨⟨q, hq, hunsettled⟩, (gone_behead hr hs hbuf).absent⟩, ?_⟩
      intro k d' hd' hqueue
      -- another delivery was taken before, when the message was still in the stream
      have hold : desk.deliveries[k]? = some (some d') := by
        have hset : (desk.deliveries ++
            [some (⟨s.queue, tag, payload, s.mode = .manual⟩ : Delivery)]).set
            desk.deliveries.length none = desk.deliveries ++ [none] := by simp
        simp only [Desk.without, hset] at hd'
        rcases Nat.lt_or_ge k desk.deliveries.length with hlt | hge
        · rwa [List.getElem?_append_left hlt] at hd'
        · rw [List.getElem?_append_right hge, List.getElem?_singleton] at hd'
          split at hd' <;> cases hd'
      exact Ne.symm ((hr.taken hold).absent hs hqueue.symm hhead)

/-- A delivery stays in the hands of the client until it is settled. -/
lemma Held.step (hh : desk.Held session n d) (h : desk.Regular owner) {c : Command}
    (hc : ∀ v, c ≠ .settle v n) : (desk.step c).2.Held session n d := by
  have hn : n < desk.deliveries.length := (List.getElem?_eq_some_iff.1 hh.unused).1
  refine ⟨by rw [deliveries_step hn hc, hh.unused], hh.pending,
    Nat.lt_of_lt_of_le hh.known (length_le_step desk c).2, ?_, ?_⟩
  · obtain ⟨q, hq, hlt, hmine⟩ := hh.mine
    obtain ⟨q', hq', hlater⟩ := later_step desk c hq
    refine ⟨q', hq', Nat.lt_of_lt_of_le hlt hlater.nextTag_le, ?_⟩
    intro u hu htag
    exact hmine u (hlater.unacked_of_lt u hu (htag ▸ hlt)) htag
  · intro hopen
    -- the session is open, so it was, and it is not what was closed
    have hne : c ≠ .close session := by
      rintro rfl
      have hclosed := Broker.isOpen_close_self desk.broker session
      simp only [Desk.step] at hopen
      rw [hopen] at hclosed
      cases hclosed
    rw [isOpen_step hh.known hne] at hopen
    rw [← step_without hn hc]
    exact (hh.left hopen).step (h.without n) hne

lemma Held.run (hh : desk.Held session n d) (h : desk.Regular owner) {cs : List Command}
    (hcs : ∀ v, .settle v n ∉ cs) : (desk.run cs).2.Held session n d := by
  induction cs generalizing desk owner with
  | nil => exact hh
  | cons c rest ih =>
    obtain ⟨owner', h', -⟩ := h.step c
    refine ih (hh.step h ?_) h' fun v hmem => hcs v (List.mem_cons_of_mem _ hmem)
    rintro v rfl
    exact hcs v List.mem_cons_self

/-! ## What comes of settling -/

/-- While the session is open, settling takes the message off the queue and counts the verdict. -/
lemma Held.settle_of_open (hh : desk.Held session n d) (h : desk.Regular owner)
    (hopen : desk.broker.isOpen session = true) (v : Verdict) :
    ∃ q l r, desk.broker.queue? d.queue = some q ∧
      q.unacked = l ++ ⟨d.tag, session, d.payload⟩ :: r ∧
      desk.broker.settle v d = (.ok (),
        desk.broker.setQueue d.queue (Broker.countVerdict { q with unacked := l ++ r } v)) := by
  obtain ⟨q, hq, hmem⟩ := (hh.left hopen).left.waits
  obtain ⟨l, r, hsplit⟩ := List.append_of_mem hmem
  have hawaits : q.awaits d.tag = true := List.any_eq_true.2 ⟨_, hmem, by simp⟩
  have hforget : q.forget d.tag = { q with unacked := l ++ r } := by
    rw [Queue.forget, (h.sound.broker.tagged hq).filter_tag hsplit]
  refine ⟨q, l, r, hq, hsplit, ?_⟩
  have hq' : desk.broker.queue? d.queue = some q := hq
  simp only [Broker.settle, hh.pending, hq', hawaits, hforget]
  rfl

/-- Once the session has ended, no message is unsettled under the tag. -/
lemma Held.tag_ne (hh : desk.Held session n d) (h : desk.Regular owner)
    (hclosed : desk.broker.isOpen session = false) {q : Queue}
    (hq : desk.broker.queue? d.queue = some q) : ∀ u ∈ q.unacked, u.tag ≠ d.tag := by
  intro u hu htag
  obtain ⟨q₁, hq₁, -, hmine⟩ := hh.mine
  rw [hq, Option.some.injEq] at hq₁
  subst hq₁
  have hopen := (h.attended d.queue hq).unacked u hu
  rw [hmine u hu htag, hclosed] at hopen
  cases hopen

/-- Once the session has ended, settling fails and changes nothing. -/
lemma Held.settle_of_closed (hh : desk.Held session n d) (h : desk.Regular owner)
    (hclosed : desk.broker.isOpen session = false) (v : Verdict) :
    desk.broker.settle v d = (.error (Broker.channelError
      (v.label ++ " of unknown delivery tag " ++ toString d.tag)), desk.broker) := by
  obtain ⟨q, hq, -⟩ := hh.mine
  have hawaits : q.awaits d.tag = false := by
    rw [Queue.awaits, List.any_eq_false]
    intro u hu
    simpa using hh.tag_ne h hclosed hq u hu
  simp only [Broker.settle, hh.pending, hq, hawaits]
  rfl

/-- What comes of settling a delivery that was not used, when the commands `since` are what was done
since its session has subscribed. -/
structure SettlesExactly (desk : Desk) (session n : Nat) (d : Delivery) (since : List Command)
    (v : Verdict) : Prop where
  /-- The session is open as long as it was not closed, -/
  open_iff : desk.broker.isOpen session = true ↔ .close session ∉ since
  /-- and as long as it is, settling succeeds. -/
  done_iff : (desk.step (.settle v n)).1 = .done ↔ .close session ∉ since
  /-- Then the one message is taken off its queue, one verdict is counted, and all else stays. -/
  success : .close session ∉ since → ∃ q l r, desk.broker.queue? d.queue = some q ∧
    q.unacked = l ++ ⟨d.tag, session, d.payload⟩ :: r ∧
    (desk.step (.settle v n)).2 =
      { broker := desk.broker.setQueue d.queue (Broker.countVerdict { q with unacked := l ++ r } v)
        deliveries := desk.deliveries.set n none }
  /-- Else it fails, and nothing changes but that the delivery is used up. -/
  failure : .close session ∈ since → desk.step (.settle v n) =
    (.failed (Broker.channelError (v.label ++ " of unknown delivery tag " ++ toString d.tag)),
      { desk with deliveries := desk.deliveries.set n none })
  /-- For nothing is unsettled under its tag then: a message that goes round again has another. -/
  stale : .close session ∈ since → ∀ q, desk.broker.queue? d.queue = some q →
    d.tag < q.nextTag ∧ ∀ u ∈ q.unacked, u.tag ≠ d.tag

lemma Held.settlesExactly (hh : desk.Held session n d) (h : desk.Regular owner)
    {since : List Command}
    (hopen : desk.broker.isOpen session = true ↔ .close session ∉ since) (v : Verdict) :
    desk.SettlesExactly session n d since v := by
  -- what the answer says is what the broker has answered
  have hstep : ∀ {r b}, desk.broker.settle v d = (r, b) →
      desk.step (.settle v n) = (.ofUnit r, ⟨b, desk.deliveries.set n none⟩) := by
    intro r b hsettle
    simp only [Desk.step, hh.unused, hsettle]
  by_cases hc : .close session ∈ since
  · have hclosed : desk.broker.isOpen session = false := by
      rw [← Bool.not_eq_true, hopen]
      exact not_not_intro hc
    have hfail := hstep (hh.settle_of_closed h hclosed v)
    refine ⟨hopen, ?_, fun hnot => absurd hc hnot, fun _ => hfail, ?_⟩
    · rw [hfail]
      refine ⟨?_, fun hnot => absurd hc hnot⟩
      intro heq
      cases heq
    · intro _ q hq
      obtain ⟨q₁, hq₁, hlt, -⟩ := hh.mine
      rw [hq, Option.some.injEq] at hq₁
      exact ⟨hq₁ ▸ hlt, hh.tag_ne h hclosed hq⟩
  · obtain ⟨q, l, r, hq, hsplit, hsettle⟩ := hh.settle_of_open h (hopen.2 hc) v
    have hdone := hstep hsettle
    refine ⟨hopen, ?_, fun _ => ⟨q, l, r, hq, hsplit, by rw [hdone]⟩, fun hmem => absurd hmem hc,
      fun hmem => absurd hmem hc⟩
    rw [hdone]
    exact ⟨fun _ => hc, fun _ => rfl⟩

/-- The tags under which a queue has handed messages over are the numbers below its next tag, each
once. -/
lemma tags_eq_range (cs : List Command) {q : Queue}
    (h : (({} : Desk).run cs).2.broker.queue? name = some q) :
    (handedOver name cs).map (·.1) = List.range q.nextTag := by
  obtain ⟨-, handed, hperm, hhands⟩ := run_hands sound_empty Broker.idle_empty name cs
  have hempty : ({} : Desk).broker.nextTagOf name = 0 := rfl
  have hnext : q.nextTag = handed.length := by
    rw [← Broker.nextTagOf_of_some h, hhands.nextTag, hempty, Nat.zero_add]
  rw [handedOver, mergeSort_eq_of_perm hperm hhands.tags, hnext, List.range_eq_range']
  exact hhands.tags

/-- **Settling is exact, and a delivery that has become stale does no harm.**  A session subscribes to
a queue, to settle by hand, and later takes a delivery from the stream that it is given.  Whatever is
done before, between and afterwards, as long as the delivery is not used: settling it succeeds if and
only if the session was not closed since, and then takes this one message off the queue and counts the
verdict; else it fails and the broker stays as it is.

At the same time consumers and unsettled messages belong to open sessions, in every queue, and the tags
that the queue has given out are the numbers below its next tag, each given out once. -/
theorem settling_is_exact (before between after : List Command) (session i n : Nat) (name : String)
    (d : Delivery) (v : Verdict)
    (hconsume : ((({} : Desk).run before).2.step (.consume session name .manual)).1 = .stream i)
    (hnext : ((({} : Desk).run (before ++ .consume session name .manual :: between)).2.step
      (.next i)).1 = .delivery n d)
    (hunused : ∀ v, .settle v n ∉ after) :
    let cs := before ++ .consume session name .manual :: between ++ .next i :: after
    let desk := (({} : Desk).run cs).2
    desk.SettlesExactly session n d (between ++ after) v ∧
      ∀ name q, desk.broker.queue? name = some q →
        (∀ slot ∈ q.slots, desk.broker.isOpen slot.session = true) ∧
        (∀ u ∈ q.unacked, desk.broker.isOpen u.session = true) ∧
        (handedOver name cs).map (·.1) = List.range q.nextTag := by
  intro cs desk
  obtain ⟨owner₀, hr₀⟩ := regular_run before
  obtain ⟨hopen₀, hsub⟩ := subscribed_consume hr₀ hconsume
  -- between subscribing and taking the delivery
  have hsub₁ := hsub.run between
  rw [← run_cons, ← run_append] at hsub₁
  have hheld := held_next hsub₁ hnext
  -- between taking the delivery and settling it
  obtain ⟨owner₁, hr₁, -⟩ := hsub₁.regular
  obtain ⟨owner₂, hr₂, -⟩ := hr₁.step (.next i)
  have hdesk : desk = (((({} : Desk).run
      (before ++ .consume session name .manual :: between)).2.step (.next i)).2.run after).2 := by
    rw [← run_cons, ← run_append]
  obtain ⟨owner, hr, -⟩ := Works.regular hr₂ (works_run _ after)
  have hlast := hheld.run hr₂ hunused
  rw [← hdesk] at hr hlast
  have hopen : desk.broker.isOpen session = true ↔ .close session ∉ between ++ after := by
    have hopen₁ : ((({} : Desk).run before).2.step
        (.consume session name .manual)).2.broker.isOpen session = true := by
      rw [isOpen_step (Broker.lt_of_isOpen hopen₀) (by simp), hopen₀]
    have hsince := isOpen_run hopen₁ (between ++ .next i :: after)
    rw [← run_cons, ← List.cons_append, ← run_append, ← List.append_assoc] at hsince
    exact hsince.trans (by simp)
  refine ⟨hlast.settlesExactly hr hopen v, ?_⟩
  intro other q hq
  have hwithin := hr.attended other hq
  exact ⟨hwithin.slots, hwithin.unacked, tags_eq_range cs hq⟩

/-- A session takes a message and is closed; the message goes round to another session, and only then
the first one wants to accept it. -/
theorem settling_is_exact_tooLate :
    let before : List Command := [.connect, .declare 0 "q", .connect, .publish 0 "q" [1]]
    let cs := before ++ .consume 0 "q" .manual :: [.consume 1 "q" .manual] ++
      .next 0 :: [.close 0, .next 1]
    let desk := (({} : Desk).run cs).2
    desk.deliveries = [some ⟨"q", 0, [1], true⟩, some ⟨"q", 1, [1], true⟩] ∧
      (desk.SettlesExactly 0 0 ⟨"q", 0, [1], true⟩ [.consume 1 "q" .manual, .close 0, .next 1] .ack ∧
        ∀ name q, desk.broker.queue? name = some q →
          (∀ slot ∈ q.slots, desk.broker.isOpen slot.session = true) ∧
          (∀ u ∈ q.unacked, desk.broker.isOpen u.session = true) ∧
          (handedOver name cs).map (·.1) = List.range q.nextTag) :=
  ⟨by decide, settling_is_exact [.connect, .declare 0 "q", .connect, .publish 0 "q" [1]]
    [.consume 1 "q" .manual] [.close 0, .next 1] 0 0 0 "q" ⟨"q", 0, [1], true⟩ .ack
    (by decide) (by decide) (by simp)⟩

end Desk

end MessageRelay
