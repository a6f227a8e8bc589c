import MessageRelay.Proofs.Broker.Routing
import Mathlib.Data.List.Pairwise

/-!
# Tags

Every message that a queue hands over gets a tag, and the tag is what settles it later.  This is safe
because a queue never gives out a tag twice: a message that waits under an old tag is the one that was
handed over under it.  `Queue.Later` says this of two moments in the life of a queue, and
`Broker.Sound` collects what holds of a broker at every moment: tags, consumers and streams fit
together.  All operations keep it.
-/

namespace MessageRelay

namespace Queue

/-- The messages that wait to be settled are there in the order of their tags, and the tags have been
given out. -/
structure Tagged (q : Queue) : Prop where
  lt : ∀ u ∈ q.unacked, u.tag < q.nextTag
  ordered : q.unacked.Pairwise fun u v => u.tag < v.tag

/-- `q'` is a later state of `q`: no tag was given out again. -/
structure Later (q q' : Queue) : Prop where
  nextTag_le : q.nextTag ≤ q'.nextTag
  unacked_of_lt : ∀ u ∈ q'.unacked, u.tag < q.nextTag → u ∈ q.unacked

/-- A message was handed over under a tag.  If one waits to be settled under this tag, it is this
message. -/
structure Issued (q : Queue) (tag : Nat) (payload : Bytes) : Prop where
  lt : tag < q.nextTag
  payload_eq : ∀ u ∈ q.unacked, u.tag = tag → u.payload = payload

variable {q q' q'' : Queue} {alive : Nat → Bool} {slot : Slot} {payload : Bytes}

lemma Later.refl (q : Queue) : q.Later q :=
  ⟨Nat.le_refl _, fun _ h _ => h⟩

lemma Later.trans (h : q.Later q') (h' : q'.Later q'') : q.Later q'' where
  nextTag_le := Nat.le_trans h.nextTag_le h'.nextTag_le
  unacked_of_lt u hu hlt := by
    have hmid := h'.unacked_of_lt u hu (Nat.lt_of_lt_of_le hlt h.nextTag_le)
    exact h.unacked_of_lt u hmid hlt

lemma Issued.later {tag : Nat} (h : q.Issued tag payload) (hl : q.Later q') :
    q'.Issued tag payload where
  lt := Nat.lt_of_lt_of_le h.lt hl.nextTag_le
  payload_eq u hu htag :=
    h.payload_eq u (hl.unacked_of_lt u hu (htag ▸ h.lt)) htag

lemma Tagged.nodup (h : q.Tagged) : q.unacked.Nodup :=
  h.ordered.imp fun hlt => by
    rintro rfl
    exact Nat.lt_irrefl _ hlt

/-- No two messages have the same tag. -/
lemma Tagged.eq_of_tag (h : q.Tagged) {u v : Unsettled} (hu : u ∈ q.unacked) (hv : v ∈ q.unacked)
    (htag : u.tag = v.tag) : u = v := by
  have hpair : q.unacked.Pairwise fun u v => u.tag = v.tag → u = v :=
    h.ordered.imp fun hlt heq => absurd heq (Nat.ne_of_lt hlt)
  have hsymm : Std.Symm fun u v : Unsettled => u.tag = v.tag → u = v :=
    ⟨fun _ _ h heq => (h heq.symm).symm⟩
  exact hpair.forall_of_forall (fun _ _ _ => rfl) hu hv htag

/-- A queue from which some unsettled messages were taken is a later state of it. -/
lemma later_of_sublist (hu : q'.unacked.Sublist q.unacked) (ht : q'.nextTag = q.nextTag) :
    q.Later q' where
  nextTag_le := Nat.le_of_eq ht.symm
  unacked_of_lt _ h _ := hu.subset h

lemma Tagged.of_sublist (h : q.Tagged) (hu : q'.unacked.Sublist q.unacked)
    (ht : q'.nextTag = q.nextTag) : q'.Tagged where
  lt u hu' := by rw [ht]; exact h.lt u (hu.subset hu')
  ordered := h.ordered.sublist hu

/-- What a queue keeps unsettled after it has handed a message over. -/
lemma mem_unacked_handed {u : Unsettled} (h : u ∈ (q.handed alive slot payload).unacked) :
    u ∈ q.unacked ∨ (slot.mode = .manual ∧ u = ⟨q.nextTag, slot.session, payload⟩) := by
  cases hm : slot.mode with
  | auto => exact Or.inl (by rwa [handed_unacked_of_auto hm] at h)
  | manual =>
    rw [handed_unacked_of_manual hm, List.mem_append, List.mem_singleton] at h
    exact h.imp_right fun h => ⟨rfl, h⟩

lemma mem_unacked_handed_of_mem {u : Unsettled} (h : u ∈ q.unacked) :
    u ∈ (q.handed alive slot payload).unacked := by
  cases hm : slot.mode with
  | auto => rwa [handed_unacked_of_auto hm]
  | manual =>
    rw [handed_unacked_of_manual hm]
    exact List.mem_append_left _ h

lemma later_handed : q.Later (q.handed alive slot payload) where
  nextTag_le := Nat.le_succ _
  unacked_of_lt u hu hlt := by
    rcases mem_unacked_handed hu with h | ⟨-, rfl⟩
    · exact h
    · exact absurd hlt (Nat.lt_irrefl _)

lemma Tagged.handed (h : q.Tagged) : (q.handed alive slot payload).Tagged where
  lt u hu := by
    rcases mem_unacked_handed hu with hmem | ⟨-, rfl⟩
    · exact Nat.lt_succ_of_lt (h.lt u hmem)
    · exact Nat.lt_succ_self _
  ordered := by
    cases hm : slot.mode with
    | auto => rw [handed_unacked_of_auto hm]; exact h.ordered
    | manual =>
      rw [handed_unacked_of_manual hm, List.pairwise_append]
      refine ⟨h.ordered, List.pairwise_singleton _ _, ?_⟩
      intro u hu v hv
      rw [List.mem_singleton.1 hv]
      exact h.lt u hu

lemma Tagged.issued_handed (h : q.Tagged) :
    (q.handed alive slot payload).Issued q.nextTag payload where
  lt := Nat.lt_succ_self _
  payload_eq u hu htag := by
    rcases mem_unacked_handed hu with hmem | ⟨-, rfl⟩
    · exact absurd htag (Nat.ne_of_lt (h.lt u hmem))
    · rfl

end Queue

namespace Broker

/-- Tags, consumers and streams of a broker fit together. -/
structure Sound (b : Broker) : Prop where
  /-- The tags of every queue are in order. -/
  tagged : ∀ {name : String} {q : Queue}, b.queue? name = some q → q.Tagged
  /-- The stream of a consumer comes from the queue that has the consumer. -/
  slot : ∀ {name : String} {q : Queue} {slot : Slot}, b.queue? name = some q → slot ∈ q.slots →
    ∃ s, b.streams[slot.stream]? = some s ∧ s.queue = name ∧ s.mode = slot.mode
  /-- What is in a stream was handed over by its queue. -/
  issued : ∀ {i : Nat} {s : Stream} {e : Nat × Bytes}, b.streams[i]? = some s → e ∈ s.buffer →
    ∃ q, b.queue? s.queue = some q ∧ q.Issued e.1 e.2

/-- `b'` is a later state of `b`: it has the same queues and perhaps more, later in their lives. -/
def Later (b b' : Broker) : Prop :=
  ∀ ⦃name : String⦄ ⦃q : Queue⦄, b.queue? name = some q →
    ∃ q', b'.queue? name = some q' ∧ q.Later q'

variable {b b' b'' : Broker} {name : String} {q q' : Queue} {payload : Bytes}

lemma Later.refl (b : Broker) : b.Later b :=
  fun _ q h => ⟨q, h, Queue.Later.refl q⟩

lemma Later.trans (h : b.Later b') (h' : b'.Later b'') : b.Later b'' := by
  intro name q hq
  obtain ⟨q₁, hq₁, hl₁⟩ := h hq
  obtain ⟨q₂, hq₂, hl₂⟩ := h' hq₁
  exact ⟨q₂, hq₂, hl₁.trans hl₂⟩

/-- Putting a later state of a queue in its place. -/
lemma later_setQueue (h : b.queue? name = some q) (hl : q.Later q') : b.Later (b.setQueue name q') := by
  intro other q₀ hq₀
  rw [queue?_setQueue h]
  split
  · next heq =>
    subst heq
    rw [h, Option.some.injEq] at hq₀
    exact ⟨q', rfl, hq₀ ▸ hl⟩
  · exact ⟨q₀, hq₀, Queue.Later.refl _⟩

/-- A queue may be replaced by a later state of it that has no new consumers. -/
lemma Sound.setQueue (hb : b.Sound) (h : b.queue? name = some q) (ht : q'.Tagged)
    (hs : q'.slots ⊆ q.slots) (hl : q.Later q') : (b.setQueue name q').Sound where
  tagged {other q₁} hq₁ := by
    rw [queue?_setQueue h] at hq₁
    split at hq₁
    · cases hq₁; exact ht
    · exact hb.tagged hq₁
  slot {other q₁ slot} hq₁ hslot := by
    rw [queue?_setQueue h] at hq₁
    split at hq₁
    · next heq =>
      cases hq₁
      rw [heq]
      exact hb.slot h (hs hslot)
    · exact hb.slot hq₁ hslot
  issued {i s e} hi he := by
    obtain ⟨q₁, hq₁, hissued⟩ := hb.issued hi he
    obtain ⟨q₂, hq₂, hlater⟩ := later_setQueue h hl hq₁
    exact ⟨q₂, hq₂, hissued.later hlater⟩

/-! ## Routing -/

lemma later_handOver (h : b.queue? name = some q) (slot : Slot) :
    b.Later (b.handOver name q slot payload) :=
  later_setQueue h Queue.later_handed

lemma later_store (h : b.queue? name = some q) : b.Later (b.store name q payload) :=
  later_setQueue h (Queue.later_of_sublist (List.Sublist.refl _) rfl)

lemma Sound.store (hb : b.Sound) (h : b.queue? name = some q) :
    (b.store name q payload).Sound :=
  hb.setQueue h ((hb.tagged h).of_sublist (List.Sublist.refl _) rfl) (List.filter_subset_self _)
    (Queue.later_of_sublist (List.Sublist.refl _) rfl)

/-- After a message was handed over, streams are as they were but for the one that carries it, which
comes from the queue at hand. -/
lemma Sound.getElem?_handOver (hb : b.Sound) (h : b.queue? name = some q) {slot : Slot}
    (hslot : slot ∈ q.slots) {i : Nat} {s' : Stream}
    (hi : (b.handOver name q slot payload).streams[i]? = some s') :
    ∃ s, b.streams[i]? = some s ∧ s'.queue = s.queue ∧ s'.mode = s.mode ∧
      (s'.buffer = s.buffer ∨ (i = slot.stream ∧ s.queue = name ∧ s.mode = slot.mode ∧
        s'.buffer = s.buffer ++ [(q.nextTag, payload)])) := by
  obtain ⟨s, hs, hqueue, hmode, -, ⟨-, hbuf⟩ | ⟨heq, hbuf⟩⟩ := mem_buffer_carry hi
  · exact ⟨s, hs, hqueue, hmode, Or.inl hbuf⟩
  · obtain ⟨s₀, hs₀, hname, hsame⟩ := hb.slot h hslot
    have hs₁ : b.streams[slot.stream]? = some s := by
      rw [← hs, heq]
      rfl
    rw [hs₀, Option.some.injEq] at hs₁
    subst hs₁
    exact ⟨s₀, hs, hqueue, hmode, Or.inr ⟨heq, hname, hsame, hbuf⟩⟩

/-- A message in a stream after one was handed over was there before, or is the one. -/
lemma Sound.mem_buffer_handOver (hb : b.Sound) (h : b.queue? name = some q) {slot : Slot}
    (hslot : slot ∈ q.slots) {i : Nat} {s' : Stream} {e : Nat × Bytes}
    (hi : (b.handOver name q slot payload).streams[i]? = some s') (he : e ∈ s'.buffer) :
    ∃ s, b.streams[i]? = some s ∧ s'.queue = s.queue ∧ s'.mode = s.mode ∧
      (e ∈ s.buffer ∨ (i = slot.stream ∧ s.queue = name ∧ s.mode = slot.mode ∧
        e = (q.nextTag, payload))) := by
  obtain ⟨s, hs, hqueue, hmode, hbuf | ⟨heq, hname, hsame, hbuf⟩⟩ := hb.getElem?_handOver h hslot hi
  · exact ⟨s, hs, hqueue, hmode, Or.inl (hbuf ▸ he)⟩
  · rw [hbuf, List.mem_append, List.mem_singleton] at he
    exact ⟨s, hs, hqueue, hmode, he.imp_right fun he => ⟨heq, hname, hsame, he⟩⟩

lemma Sound.handOver (hb : b.Sound) (h : b.queue? name = some q) {slot : Slot}
    (hslot : slot ∈ q.slots) : (b.handOver name q slot payload).Sound := by
  have hset : (b.setQueue name (q.handed b.isListening slot payload)).Sound :=
    hb.setQueue h (hb.tagged h).handed (List.filter_subset_self _) Queue.later_handed
  refine ⟨fun hq => hset.tagged hq, ?_, ?_⟩
  · intro other q₁ slot₁ hq₁ hslot₁
    obtain ⟨s, hs, hqueue, hmode⟩ := hset.slot hq₁ hslot₁
    rw [setQueue_streams] at hs
    rw [handOver_streams, getElem?_carry, hs]
    refine ⟨_, rfl, ?_⟩
    split <;> exact ⟨hqueue, hmode⟩
  · intro i s' e hs' he
    obtain ⟨s, hs, hqueue, -, he | ⟨-, hname, -, rfl⟩⟩ := hb.mem_buffer_handOver h hslot hs' he
    · rw [hqueue]
      exact hset.issued hs he
    · refine ⟨q.handed b.isListening slot payload, ?_, (hb.tagged h).issued_handed⟩
      rw [hqueue, hname, handOver_queue? h, if_pos rfl]

/-- What is in a stream has a tag that was given out. -/
lemma Sound.tag_lt (hb : b.Sound) (h : b.queue? name = some q) {i : Nat} {s : Stream}
    {e : Nat × Bytes} (hi : b.streams[i]? = some s) (hqueue : s.queue = name) (he : e ∈ s.buffer) :
    e.1 < q.nextTag := by
  obtain ⟨q₁, hq₁, hissued⟩ := hb.issued hi he
  rw [hqueue, h, Option.some.injEq] at hq₁
  exact hq₁ ▸ hissued.lt

lemma later_route (b : Broker) (name : String) (payload : Bytes) : b.Later (b.route name payload) := by
  cases h : b.queue? name with
  | none => rw [route_of_none h]; exact Later.refl b
  | some q =>
    rcases route_cases h payload with ⟨slot, -, -, heq⟩ | ⟨-, heq⟩
    · rw [heq]; exact later_handOver h slot
    · rw [heq]; exact later_store h

lemma Sound.route (hb : b.Sound) (name : String) (payload : Bytes) : (b.route name payload).Sound := by
  cases h : b.queue? name with
  | none => rwa [route_of_none h]
  | some q =>
    rcases route_cases h payload with ⟨slot, hmem, -, heq⟩ | ⟨-, heq⟩
    · rw [heq]; exact hb.handOver h hmem
    · rw [heq]; exact hb.store h

lemma later_routeAll (b : Broker) (name : String) (payloads : List Bytes) :
    b.Later (b.routeAll name payloads) :=
  routeAll_induction (P := fun b' => b.Later b') payloads
    (fun b' payload h => h.trans (later_route b' name payload)) (Later.refl b)

lemma Sound.routeAll (hb : b.Sound) (name : String) (payloads : List Bytes) :
    (b.routeAll name payloads).Sound :=
  routeAll_induction payloads (fun _ payload h => h.route name payload) hb

/-! ## Sessions -/

/-- Only queues and streams matter. -/
lemma Sound.congr (hb : b.Sound) (hq : b'.queue? = b.queue?) (hs : b'.streams = b.streams) :
    b'.Sound where
  tagged h := hb.tagged (by rwa [hq] at h)
  slot h hslot := by rw [hs]; exact hb.slot (by rwa [hq] at h) hslot
  issued hi he := by rw [hq]; exact hb.issued (by rwa [hs] at hi) he

lemma Later.of_queue?_eq (hq : b'.queue? = b.queue?) : b.Later b' := by
  intro name q h
  exact ⟨q, by rwa [hq], Queue.Later.refl q⟩

lemma connect_queue? (b : Broker) : b.connect.2.queue? = b.queue? := by
  unfold connect
  split
  · rfl
  · split <;> rfl

lemma connect_streams (b : Broker) : b.connect.2.streams = b.streams := by
  unfold connect
  split
  · rfl
  · split <;> rfl

lemma lookup_append_of_ne {queues : List (String × Queue)} {other : String} (h : other ≠ name) :
    (queues ++ [(name, q)]).lookup other = queues.lookup other := by
  induction queues with
  | nil =>
    have hne : (other == name) = false := by simpa using h
    rw [List.nil_append, List.lookup_cons, hne]
  | cons p rest ih =>
    obtain ⟨key, value⟩ := p
    rw [List.cons_append, List.lookup_cons, List.lookup_cons, ih]

lemma lookup_append_self {queues : List (String × Queue)} (h : queues.lookup name = none) :
    (queues ++ [(name, q)]).lookup name = some q := by
  induction queues with
  | nil => simp
  | cons p rest ih =>
    obtain ⟨key, value⟩ := p
    rw [List.lookup_cons] at h
    rw [List.cons_append, List.lookup_cons]
    split at h
    · cases h
    · exact ih h

/-- The broker in which a queue with a new name was declared. -/
def declared (b : Broker) (name : String) : Broker :=
  { b with queues := b.queues ++ [(name, {})] }

lemma declared_queue? (h : b.queue? name = none) (other : String) :
    (b.declared name).queue? other = if other = name then some {} else b.queue? other := by
  split
  · next heq => rw [heq]; exact lookup_append_self h
  · next hne => exact lookup_append_of_ne hne

/-- Declaring a queue does nothing, or adds an empty queue under a new name. -/
lemma declare_cases (b : Broker) (session : Nat) (name : String) :
    (b.declare session name).2 = b ∨
      (b.isOpen session = true ∧ b.queue? name = none ∧
        b.declare session name = (.ok (), b.declared name)) := by
  unfold declare
  split
  · exact Or.inl rfl
  · next hopen =>
    split
    · exact Or.inl rfl
    · next hnone =>
      exact Or.inr ⟨by simpa using hopen, by simpa using hnone, rfl⟩

lemma later_declared (h : b.queue? name = none) : b.Later (b.declared name) := by
  intro other q hq
  rw [declared_queue? h]
  split
  · next heq => rw [heq, h] at hq; cases hq
  · exact ⟨q, hq, Queue.Later.refl q⟩

lemma Sound.declared (hb : b.Sound) (h : b.queue? name = none) : (b.declared name).Sound where
  tagged {other q} hq := by
    rw [declared_queue? h] at hq
    split at hq
    · cases hq
      exact ⟨by simp, List.Pairwise.nil⟩
    · exact hb.tagged hq
  slot {other q slot} hq hslot := by
    rw [declared_queue? h] at hq
    split at hq
    · cases hq
      simp at hslot
    · exact hb.slot hq hslot
  issued {i s e} hi he := by
    obtain ⟨q, hq, hissued⟩ := hb.issued hi he
    obtain ⟨q', hq', hlater⟩ := later_declared h hq
    exact ⟨q', hq', hissued.later hlater⟩

/-! ## Subscribing -/

lemma enlist_queue? (h : b.queue? name = some q) (session : Nat) (mode : AckMode) (other : String) :
    (b.enlist session name mode q).queue? other =
      if other = name then
        some { q with slots := q.slots ++ [⟨session, mode, b.streams.length⟩], ready := [] }
      else b.queue? other :=
  queue?_setQueue (b := { b with streams := b.streams ++ [{ queue := name, mode }] }) h _ other

@[simp] lemma enlist_streams (session : Nat) (mode : AckMode) :
    (b.enlist session name mode q).streams = b.streams ++ [{ queue := name, mode }] := rfl

lemma later_enlist (h : b.queue? name = some q) (session : Nat) (mode : AckMode) :
    b.Later (b.enlist session name mode q) :=
  later_setQueue (b := { b with streams := b.streams ++ [{ queue := name, mode }] }) h
    (Queue.later_of_sublist (List.Sublist.refl _) rfl)

/-- The streams that were there before are there after a new one was added. -/
lemma getElem?_append_of_some {streams : List Stream} {new s : Stream} {i : Nat}
    (h : streams[i]? = some s) : (streams ++ [new])[i]? = some s := by
  rw [List.getElem?_append_left (List.getElem?_eq_some_iff.1 h).1, h]

/-- A stream of a longer list is the new one, or was there before. -/
lemma getElem?_append_cases {streams : List Stream} {new s : Stream} {i : Nat}
    (h : (streams ++ [new])[i]? = some s) :
    streams[i]? = some s ∨ (i = streams.length ∧ s = new) := by
  rcases Nat.lt_or_ge i streams.length with hlt | hge
  · exact Or.inl (by rwa [List.getElem?_append_left hlt] at h)
  · rw [List.getElem?_append_right hge] at h
    obtain ⟨hlt, heq⟩ := List.getElem?_eq_some_iff.1 h
    have hi : i = streams.length := by
      simp only [List.length_singleton] at hlt
      omega
    subst hi
    exact Or.inr ⟨rfl, by simpa using heq.symm⟩

lemma Sound.enlist (hb : b.Sound) (h : b.queue? name = some q) (session : Nat) (mode : AckMode) :
    (b.enlist session name mode q).Sound where
  tagged {other q₁} hq₁ := by
    rw [enlist_queue? h] at hq₁
    split at hq₁
    · cases hq₁
      exact (hb.tagged h).of_sublist (List.Sublist.refl _) rfl
    · exact hb.tagged hq₁
  slot {other q₁ slot} hq₁ hslot := by
    rw [enlist_queue? h] at hq₁
    rw [enlist_streams]
    split at hq₁
    · next heq =>
      cases hq₁
      rw [List.mem_append, List.mem_singleton] at hslot
      rcases hslot with hslot | rfl
      · obtain ⟨s, hs, hrest⟩ := hb.slot h hslot
        exact ⟨s, getElem?_append_of_some hs, heq ▸ hrest⟩
      · exact ⟨_, List.getElem?_concat_length, heq.symm, rfl⟩
    · obtain ⟨s, hs, hrest⟩ := hb.slot hq₁ hslot
      exact ⟨s, getElem?_append_of_some hs, hrest⟩
  issued {i s e} hi he := by
    rw [enlist_streams] at hi
    rcases getElem?_append_cases hi with hi | ⟨-, rfl⟩
    · -- what a queue has issued stays issued when it gets a slot
      obtain ⟨q₁, hq₁, hissued⟩ := hb.issued hi he
      obtain ⟨q₂, hq₂, hlater⟩ := later_enlist h session mode hq₁
      exact ⟨q₂, hq₂, hissued.later hlater⟩
    · simp at he

/-- Subscribing fails and changes nothing, or gives a new stream. -/
lemma consume_cases (b : Broker) (session : Nat) (name : String) (mode : AckMode) :
    (∃ e, b.consume session name mode = (.error e, b)) ∨
      ∃ q, b.isOpen session = true ∧ b.queue? name = some q ∧
        b.consume session name mode =
          (.ok b.streams.length, (b.enlist session name mode q).routeAll name q.ready) := by
  cases ho : b.isOpen session with
  | false => exact Or.inl ⟨_, by rw [consume, ho]; rfl⟩
  | true =>
    cases h : b.queue? name with
    | none => exact Or.inl ⟨_, by rw [consume, ho, h]; rfl⟩
    | some q => exact Or.inr ⟨q, rfl, rfl, consume_eq_routeAll ho h⟩

lemma later_consume (b : Broker) (session : Nat) (name : String) (mode : AckMode) :
    b.Later (b.consume session name mode).2 := by
  rcases consume_cases b session name mode with ⟨e, heq⟩ | ⟨q, -, hq, heq⟩
  · rw [heq]; exact Later.refl b
  · rw [heq]; exact (later_enlist hq session mode).trans (later_routeAll _ name q.ready)

lemma Sound.consume (hb : b.Sound) (session : Nat) (name : String) (mode : AckMode) :
    (b.consume session name mode).2.Sound := by
  rcases consume_cases b session name mode with ⟨e, heq⟩ | ⟨q, -, hq, heq⟩
  · rwa [heq]
  · rw [heq]; exact (hb.enlist hq session mode).routeAll name q.ready

/-! ## The end of a session -/

lemma later_dismiss (h : b.queue? name = some q) (session : Nat) :
    b.Later (b.dismiss session name q) :=
  later_setQueue h (Queue.later_of_sublist List.filter_sublist rfl)

lemma Sound.dismiss (hb : b.Sound) (h : b.queue? name = some q) (session : Nat) :
    (b.dismiss session name q).Sound :=
  hb.setQueue h ((hb.tagged h).of_sublist List.filter_sublist rfl) (List.filter_subset_self _)
    (Queue.later_of_sublist List.filter_sublist rfl)

lemma later_close (b : Broker) (session : Nat) : b.Later (b.close session) := by
  cases ho : b.isOpen session with
  | false => rw [close_of_not_open ho]; exact Later.refl b
  | true =>
    rw [close_of_open ho]
    exact releaseQueues_induction (P := fun b' => b.Later b') session _
      (fun b' name q hq h => h.trans (later_dismiss hq session))
      (fun b' name payload h => h.trans (later_route b' name payload)) (Later.of_queue?_eq rfl)

lemma Sound.close (hb : b.Sound) (session : Nat) : (b.close session).Sound := by
  cases ho : b.isOpen session with
  | false => rwa [close_of_not_open ho]
  | true =>
    rw [close_of_open ho]
    exact releaseQueues_induction session _ (fun b' name q hq h => h.dismiss hq session)
      (fun b' name payload h => h.route name payload) (hb.congr rfl rfl)

/-! ## Streams and deliveries -/

/-- A stream may lose messages. -/
lemma Sound.modifyStream (hb : b.Sound) (i : Nat) {f : Stream → Stream}
    (hqueue : ∀ s, (f s).queue = s.queue) (hmode : ∀ s, (f s).mode = s.mode)
    (hbuffer : ∀ s, (f s).buffer ⊆ s.buffer) : (b.modifyStream i f).Sound where
  tagged h := hb.tagged h
  slot {name q slot} h hslot := by
    obtain ⟨s, hs, hname, hsame⟩ := hb.slot h hslot
    rw [modifyStream_streams, hs]
    refine ⟨_, rfl, ?_⟩
    split
    · exact ⟨by rw [hqueue, hname], by rw [hmode, hsame]⟩
    · exact ⟨hname, hsame⟩
  issued {j s' e} hj he := by
    rw [modifyStream_streams] at hj
    obtain ⟨s, hs, rfl⟩ := Option.map_eq_some_iff.1 hj
    split at he
    · obtain ⟨q, hq, hissued⟩ := hb.issued hs (hbuffer s he)
      refine ⟨q, ?_, hissued⟩
      rw [apply_ite Stream.queue, hqueue, ite_self]
      exact hq
    · next hne =>
      rw [if_neg hne]
      exact hb.issued hs he

lemma Sound.dropStream (hb : b.Sound) (i : Nat) : (b.dropStream i).Sound :=
  hb.modifyStream i (fun _ => rfl) (fun _ => rfl) fun _ => List.nil_subset _

lemma Sound.behead (hb : b.Sound) (i : Nat) : (b.modifyStream i Stream.behead).Sound :=
  hb.modifyStream i (fun _ => rfl) (fun _ => rfl) fun s => (List.tail_sublist s.buffer).subset

/-- The queue after a message was settled. -/
def settled (q : Queue) (tag : Nat) (verdict : Verdict) : Queue :=
  countVerdict (q.forget tag) verdict

@[simp] lemma settled_ready (tag : Nat) (verdict : Verdict) :
    (settled q tag verdict).ready = q.ready := by
  cases verdict <;> rfl

@[simp] lemma settled_slots (tag : Nat) (verdict : Verdict) :
    (settled q tag verdict).slots = q.slots := by
  cases verdict <;> rfl

@[simp] lemma settled_nextTag (tag : Nat) (verdict : Verdict) :
    (settled q tag verdict).nextTag = q.nextTag := by
  cases verdict <;> rfl

@[simp] lemma settled_unacked (tag : Nat) (verdict : Verdict) :
    (settled q tag verdict).unacked = q.unacked.filter (·.tag != tag) := by
  cases verdict <;> rfl

/-- Settling changes nothing, or takes the message with the tag of the delivery off its queue. -/
lemma settle_cases (b : Broker) (verdict : Verdict) (d : Delivery) :
    (b.settle verdict d).2 = b ∧ (d.pending = true → ∃ e, (b.settle verdict d).1 = .error e) ∨
      ∃ q, d.pending = true ∧ b.queue? d.queue = some q ∧ (∃ u ∈ q.unacked, u.tag = d.tag) ∧
        b.settle verdict d = (.ok (), b.setQueue d.queue (settled q d.tag verdict)) := by
  unfold settle
  cases hp : d.pending with
  | false => exact Or.inl ⟨rfl, by simp⟩
  | true =>
    cases hq : b.queue? d.queue with
    | none => exact Or.inl ⟨rfl, fun _ => ⟨_, rfl⟩⟩
    | some q =>
      cases ha : q.awaits d.tag with
      | false => exact Or.inl ⟨by simp [ha], fun _ => ⟨_, by simp only [ha]; rfl⟩⟩
      | true =>
        refine Or.inr ⟨q, rfl, rfl, ?_, by simp [ha, settled]⟩
        simpa [Queue.awaits] using ha

lemma later_settled (tag : Nat) (verdict : Verdict) : q.Later (settled q tag verdict) :=
  Queue.later_of_sublist (by rw [settled_unacked]; exact List.filter_sublist) (by simp)

lemma Sound.setQueue_settled (hb : b.Sound) (h : b.queue? name = some q) (tag : Nat)
    (verdict : Verdict) : (b.setQueue name (settled q tag verdict)).Sound :=
  hb.setQueue h
    ((hb.tagged h).of_sublist (by rw [settled_unacked]; exact List.filter_sublist) (by simp))
    (by simp) (later_settled tag verdict)

lemma Sound.settle (hb : b.Sound) (verdict : Verdict) (d : Delivery) :
    (b.settle verdict d).2.Sound := by
  rcases settle_cases b verdict d with ⟨h, -⟩ | ⟨q, -, hq, -, h⟩
  · rwa [h]
  · rw [h]; exact hb.setQueue_settled hq d.tag verdict

lemma Sound.pruned (hb : b.Sound) (h : b.queue? name = some q) :
    (b.setQueue name (q.prune b.isListening)).Sound :=
  hb.setQueue h ((hb.tagged h).of_sublist (List.Sublist.refl _) rfl) (List.filter_subset_self _)
    (Queue.later_of_sublist (List.Sublist.refl _) rfl)

/-- An empty broker is sound. -/
lemma sound_empty : ({} : Broker).Sound where
  tagged h := by simp [queue?] at h
  slot h _ := by simp [queue?] at h
  issued h _ := by simp at h

end Broker

end MessageRelay
