import MessageRelay.Proofs.Broker.Tags

/-!
# Who has a message that is not settled

A queue remembers for every unsettled message the session whose consumer has it.  Three facts about
this are kept by all operations.

* `Owned`: as long as a session is open, what is in the streams of its consumers is unsettled under the
  name of this session, and no message is in two places.  So a consumer that takes a message from its
  stream and settles it at once always succeeds.
* `Attended`: only sessions that are open have consumers and unsettled messages.
* `Left`: an unsettled message that is in no stream, because its consumer has stopped, stays unsettled
  as long as its session is open.

Which session a stream belongs to is not part of the broker, hence the parameter `owner`.
-/

namespace MessageRelay

/-- Consumers and unsettled messages of a queue belong to certain sessions only. -/
structure Queue.Within (q : Queue) (ok : Nat → Prop) : Prop where
  slots : ∀ slot ∈ q.slots, ok slot.session
  unacked : ∀ u ∈ q.unacked, ok u.session

namespace Broker

variable {b b' : Broker} {owner : Nat → Nat} {name : String} {q q' : Queue} {payload : Bytes}
  {session : Nat}

/-! ## Sessions -/

lemma isOpen_hangUp (b : Broker) (session other : Nat) :
    (b.hangUp session).isOpen other = true ↔ other ≠ session ∧ b.isOpen other = true := by
  unfold isOpen hangUp
  rw [List.getElem?_set]
  by_cases h : session = other
  · subst h
    simp only [ne_eq, not_true_eq_false, false_and, iff_false, if_true]
    split <;> simp
  · simp [h, Ne.symm h]

lemma lt_of_isOpen (h : b.isOpen session = true) : session < b.sessions.length := by
  by_contra hge
  simp [isOpen, List.getElem?_eq_none (Nat.le_of_not_lt hge)] at h

/-- A connection is refused, or there is a new session. -/
lemma connect_cases (b : Broker) :
    ((∃ e, b.connect.1 = .error e) ∧ b.connect.2.sessions = b.sessions) ∨
      (b.connect.1 = .ok b.sessions.length ∧ b.connect.2.sessions = b.sessions ++ [true]) := by
  unfold connect
  split
  · exact Or.inl ⟨⟨_, rfl⟩, rfl⟩
  · split
    · exact Or.inl ⟨⟨_, rfl⟩, rfl⟩
    · exact Or.inr ⟨rfl, rfl⟩

/-- The sessions that there were are as they were after a connection was made. -/
lemma isOpen_connect (b : Broker) {session : Nat} (h : session < b.sessions.length) :
    b.connect.2.isOpen session = b.isOpen session := by
  unfold isOpen
  rcases connect_cases b with ⟨-, hs⟩ | ⟨-, hs⟩
  · rw [hs]
  · rw [hs, List.getElem?_append_left h]

/-! ## What is in a stream is unsettled -/

/-- Streams and unsettled messages of a broker fit together, when `owner` says which session a stream
belongs to. -/
structure Owned (owner : Nat → Nat) (b : Broker) : Prop where
  /-- The stream of a consumer belongs to the session of the consumer. -/
  slot : ∀ {name : String} {q : Queue} {slot : Slot}, b.queue? name = some q → slot ∈ q.slots →
    owner slot.stream = slot.session
  /-- Streams belong to sessions that there are. -/
  owner_lt : ∀ {i : Nat} {s : Stream}, b.streams[i]? = some s → owner i < b.sessions.length
  /-- What is in a stream of an open session is unsettled. -/
  unsettled : ∀ {i : Nat} {s : Stream} {e : Nat × Bytes} {q : Queue}, b.streams[i]? = some s →
    s.mode = .manual → b.isOpen (owner i) = true → e ∈ s.buffer → b.queue? s.queue = some q →
    ⟨e.1, owner i, e.2⟩ ∈ q.unacked
  /-- Within a stream, messages are in the order of their tags. -/
  ordered : ∀ {i : Nat} {s : Stream}, b.streams[i]? = some s →
    s.buffer.Pairwise fun e e' => e.1 < e'.1
  /-- Two streams from one queue have no tag in common. -/
  apart : ∀ {i j : Nat} {s t : Stream} {e e' : Nat × Bytes}, b.streams[i]? = some s →
    b.streams[j]? = some t → i ≠ j → s.queue = t.queue → e ∈ s.buffer → e' ∈ t.buffer → e.1 ≠ e'.1

/-- A queue may be replaced by one with no new consumers that still has what is in streams. -/
lemma Owned.setQueue (ho : b.Owned owner) (h : b.queue? name = some q) (hs : q'.slots ⊆ q.slots)
    (hu : ∀ {i : Nat} {s : Stream} {e : Nat × Bytes}, b.streams[i]? = some s → s.queue = name →
      b.isOpen (owner i) = true → e ∈ s.buffer → (⟨e.1, owner i, e.2⟩ : Unsettled) ∈ q.unacked →
      (⟨e.1, owner i, e.2⟩ : Unsettled) ∈ q'.unacked) : (b.setQueue name q').Owned owner where
  slot {other q₁ slot} hq₁ hslot := by
    rw [queue?_setQueue h] at hq₁
    split at hq₁
    · cases hq₁
      exact ho.slot h (hs hslot)
    · exact ho.slot hq₁ hslot
  owner_lt hi := ho.owner_lt hi
  unsettled {i s e q₁} hi hm hopen he hq₁ := by
    rw [queue?_setQueue h] at hq₁
    split at hq₁
    · next heq =>
      cases hq₁
      exact hu hi heq hopen he (ho.unsettled hi hm hopen he (heq ▸ h))
    · exact ho.unsettled hi hm hopen he hq₁
  ordered hi := ho.ordered hi
  apart := ho.apart

lemma Owned.store (ho : b.Owned owner) (h : b.queue? name = some q) :
    (b.store name q payload).Owned owner :=
  ho.setQueue h (List.filter_subset_self _) fun _ _ _ _ hu => hu

lemma Owned.handOver (ho : b.Owned owner) (hb : b.Sound) (h : b.queue? name = some q) {slot : Slot}
    (hslot : slot ∈ q.slots) : (b.handOver name q slot payload).Owned owner := by
  have hset : (b.setQueue name (q.handed b.isListening slot payload)).Owned owner :=
    ho.setQueue h (List.filter_subset_self _)
      fun _ _ _ _ hu => Queue.mem_unacked_handed_of_mem hu
  refine ⟨fun hq hslot' => hset.slot hq hslot', ?_, ?_, ?_, ?_⟩
  · intro i s' hi
    obtain ⟨s, hs, -⟩ := hb.getElem?_handOver h hslot hi
    exact ho.owner_lt hs
  · intro i s' e q₁ hi hm hopen he hq₁
    obtain ⟨s, hs, hqueue, hmode, he | ⟨rfl, hname, hsame, rfl⟩⟩ :=
      hb.mem_buffer_handOver h hslot hi he
    · exact hset.unsettled hs (hmode ▸ hm) hopen he (hqueue ▸ hq₁)
    · -- the new message is written down as unsettled under the session of the slot
      rw [hqueue, hname, handOver_queue? h, if_pos rfl, Option.some.injEq] at hq₁
      rw [← hq₁, Queue.handed_unacked_of_manual (by rw [← hsame, ← hmode, hm]), ho.slot h hslot]
      exact List.mem_append_right _ (List.mem_singleton.2 rfl)
  · intro i s' hi
    obtain ⟨s, hs, -, -, hbuf | ⟨-, hname, -, hbuf⟩⟩ := hb.getElem?_handOver h hslot hi
    · rw [hbuf]
      exact ho.ordered hs
    · -- the tag of the message is larger than every tag the queue has given
      rw [hbuf, List.pairwise_append]
      refine ⟨ho.ordered hs, List.pairwise_singleton _ _, ?_⟩
      intro e he e' he'
      rw [List.mem_singleton.1 he']
      exact hb.tag_lt h hs hname he
  · -- the tag of the message is new, so nothing in another stream from the queue has it
    intro i j s' t' e e' hi hj hij hst he he'
    obtain ⟨s, hs, hqs, -, he⟩ := hb.mem_buffer_handOver h hslot hi he
    obtain ⟨t, ht, hqt, -, he'⟩ := hb.mem_buffer_handOver h hslot hj he'
    have hsame : s.queue = t.queue := by rw [← hqs, ← hqt, hst]
    rcases he with he | ⟨heqi, hname, -, rfl⟩
    · rcases he' with he' | ⟨-, hname, -, rfl⟩
      · exact ho.apart hs ht hij hsame he he'
      · exact Nat.ne_of_lt (hb.tag_lt h hs (hsame.trans hname) he)
    · rcases he' with he' | ⟨heqj, -, -, -⟩
      · exact Nat.ne_of_gt (hb.tag_lt h ht (hsame.symm.trans hname) he')
      · exact absurd (heqi.trans heqj.symm) hij

lemma Owned.route (ho : b.Owned owner) (hb : b.Sound) (name : String) (payload : Bytes) :
    (b.route name payload).Owned owner := by
  cases h : b.queue? name with
  | none => rwa [route_of_none h]
  | some q =>
    rcases route_cases h payload with ⟨slot, hslot, -, heq⟩ | ⟨-, heq⟩
    · rw [heq]; exact ho.handOver hb h hslot
    · rw [heq]; exact ho.store h

/-- A new stream belongs to the session that subscribes. -/
lemma Owned.enlist (ho : b.Owned owner) (hb : b.Sound) (h : b.queue? name = some q)
    (hopen : b.isOpen session = true) (mode : AckMode) :
    (b.enlist session name mode q).Owned (Function.update owner b.streams.length session) := by
  -- the streams that there were keep their owners, and nothing is in the new one yet
  have hold : ∀ {i s}, b.streams[i]? = some s →
      Function.update owner b.streams.length session i = owner i := by
    intro i s hi
    exact Function.update_of_ne (Nat.ne_of_lt (List.getElem?_eq_some_iff.1 hi).1) _ _
  refine ⟨?_, ?_, ?_, ?_, ?_⟩
  · intro other q₁ slot hq₁ hslot
    have hknown : ∀ {name₀ q₀}, b.queue? name₀ = some q₀ → slot ∈ q₀.slots →
        Function.update owner b.streams.length session slot.stream = slot.session := by
      intro name₀ q₀ hq₀ hslot₀
      obtain ⟨s, hs, -⟩ := hb.slot hq₀ hslot₀
      rw [hold hs, ho.slot hq₀ hslot₀]
    rw [enlist_queue? h] at hq₁
    split at hq₁
    · cases hq₁
      rw [List.mem_append, List.mem_singleton] at hslot
      rcases hslot with hslot | rfl
      · exact hknown h hslot
      · simp
    · exact hknown hq₁ hslot
  · intro i s hi
    rw [enlist_streams] at hi
    rcases getElem?_append_cases hi with hi | ⟨rfl, -⟩
    · rw [hold hi]; exact ho.owner_lt hi
    · rw [Function.update_self]; exact lt_of_isOpen hopen
  · intro i s e q₁ hi hm hop he hq₁
    rw [enlist_streams] at hi
    rcases getElem?_append_cases hi with hi | ⟨-, rfl⟩
    · rw [hold hi] at hop ⊢
      rw [enlist_queue? h] at hq₁
      split at hq₁
      · next heq =>
        have hmem := ho.unsettled hi hm hop he (heq ▸ h : b.queue? s.queue = some q)
        cases hq₁
        exact hmem
      · exact ho.unsettled hi hm hop he hq₁
    · cases he
  · intro i s hi
    rw [enlist_streams] at hi
    rcases getElem?_append_cases hi with hi | ⟨-, rfl⟩
    · exact ho.ordered hi
    · exact List.Pairwise.nil
  · intro i j s t e e' hi hj hij hst he he'
    rw [enlist_streams] at hi hj
    rcases getElem?_append_cases hi with hi | ⟨-, rfl⟩
    · rcases getElem?_append_cases hj with hj | ⟨-, rfl⟩
      · exact ho.apart hi hj hij hst he he'
      · cases he'
    · cases he

lemma Owned.dismiss (ho : b.Owned owner) (h : b.queue? name = some q)
    (hclosed : b.isOpen session = false) : (b.dismiss session name q).Owned owner := by
  refine ho.setQueue h (List.filter_subset_self _) ?_
  intro i s e _ _ hopen _ hu
  refine List.mem_filter.2 ⟨hu, ?_⟩
  -- the stream belongs to a session that is open, the queue lets go of one that is not
  have hne : owner i ≠ session := by
    rintro rfl
    rw [hopen] at hclosed
    cases hclosed
  simpa using hne

lemma Owned.hangUp (ho : b.Owned owner) (session : Nat) : (b.hangUp session).Owned owner where
  slot hq hslot := ho.slot hq hslot
  owner_lt hi := by
    have := ho.owner_lt hi
    simpa [Broker.hangUp] using this
  unsettled hi hm hopen he hq := ho.unsettled hi hm ((isOpen_hangUp b session _).1 hopen).2 he hq
  ordered hi := ho.ordered hi
  apart := ho.apart

lemma Owned.close (ho : b.Owned owner) (hb : b.Sound) (session : Nat) :
    (b.close session).Owned owner := by
  cases hopen : b.isOpen session with
  | false => rwa [close_of_not_open hopen]
  | true =>
    rw [close_of_open hopen]
    have hclosed : (b.hangUp session).isOpen session = false := by
      rw [← Bool.not_eq_true, isOpen_hangUp]
      simp
    refine (releaseQueues_induction
      (P := fun b => b.isOpen session = false ∧ b.Sound ∧ b.Owned owner) session _ ?_ ?_
      ⟨hclosed, hb.congr rfl rfl, ho.hangUp session⟩).2.2
    · rintro b name q hq ⟨hc, hb, ho⟩
      exact ⟨hc, hb.dismiss hq session, ho.dismiss hq hc⟩
    · rintro b name payload ⟨hc, hb, ho⟩
      exact ⟨by rwa [route_isOpen], hb.route name payload, ho.route hb name payload⟩

lemma Owned.declared (ho : b.Owned owner) (h : b.queue? name = none) (hb : b.Sound) :
    (b.declared name).Owned owner where
  slot {other q₁ slot} hq hslot := by
    rw [declared_queue? h] at hq
    split at hq
    · cases hq
      simp at hslot
    · exact ho.slot hq hslot
  owner_lt hi := ho.owner_lt hi
  unsettled {i s e q₁} hi hm hopen he hq := by
    obtain ⟨q₂, hq₂, -⟩ := hb.issued hi he
    rw [declared_queue? h] at hq
    split at hq
    · next heq => rw [heq, h] at hq₂; cases hq₂
    · exact ho.unsettled hi hm hopen he hq
  ordered hi := ho.ordered hi
  apart := ho.apart

lemma Owned.connect (ho : b.Owned owner) : b.connect.2.Owned owner where
  slot hq hslot := ho.slot (by rwa [connect_queue?] at hq) hslot
  owner_lt hi := by
    rw [connect_streams] at hi
    have hlt := ho.owner_lt hi
    rcases connect_cases b with ⟨-, hs⟩ | ⟨-, hs⟩ <;> rw [hs]
    · exact hlt
    · rw [List.length_append]; exact Nat.lt_add_right _ hlt
  unsettled hi hm hopen he hq := by
    rw [connect_streams] at hi
    rw [isOpen_connect b (ho.owner_lt hi)] at hopen
    exact ho.unsettled hi hm hopen he (by rwa [connect_queue?] at hq)
  ordered hi := ho.ordered (by rwa [connect_streams] at hi)
  apart hi hj := ho.apart (by rwa [connect_streams] at hi) (by rwa [connect_streams] at hj)

/-- A stream may lose messages. -/
lemma Owned.modifyStream (ho : b.Owned owner) (i : Nat) {f : Stream → Stream}
    (hqueue : ∀ s, (f s).queue = s.queue) (hmode : ∀ s, (f s).mode = s.mode)
    (hbuffer : ∀ s, (f s).buffer.Sublist s.buffer) : (b.modifyStream i f).Owned owner := by
  -- every stream was there before, with at least the same messages
  have hold : ∀ {j : Nat} {s' : Stream}, (b.modifyStream i f).streams[j]? = some s' →
      ∃ s, b.streams[j]? = some s ∧ s'.queue = s.queue ∧ s'.mode = s.mode ∧
        s'.buffer.Sublist s.buffer := by
    intro j s' hj
    rw [modifyStream_streams] at hj
    obtain ⟨s, hs, rfl⟩ := Option.map_eq_some_iff.1 hj
    refine ⟨s, hs, ?_⟩
    split
    · exact ⟨hqueue s, hmode s, hbuffer s⟩
    · exact ⟨rfl, rfl, List.Sublist.refl _⟩
  refine ⟨fun hq hslot => ho.slot hq hslot, ?_, ?_, ?_, ?_⟩
  · intro j s' hj
    obtain ⟨s, hs, -⟩ := hold hj
    exact ho.owner_lt hs
  · intro j s' e q hj hm hopen he hq
    obtain ⟨s, hs, hqs, hms, hbs⟩ := hold hj
    exact ho.unsettled hs (hms ▸ hm) hopen (hbs.subset he) (hqs ▸ hq)
  · intro j s' hj
    obtain ⟨s, hs, -, -, hbs⟩ := hold hj
    exact (ho.ordered hs).sublist hbs
  · intro j k s' t' e e' hj hk hjk hst he he'
    obtain ⟨s, hs, hqs, -, hbs⟩ := hold hj
    obtain ⟨t, ht, hqt, -, hbt⟩ := hold hk
    exact ho.apart hs ht hjk (by rw [← hqs, ← hqt, hst]) (hbs.subset he) (hbt.subset he')

lemma Owned.dropStream (ho : b.Owned owner) (i : Nat) : (b.dropStream i).Owned owner :=
  ho.modifyStream i (fun _ => rfl) (fun _ => rfl) fun _ => List.nil_sublist _

lemma Owned.behead (ho : b.Owned owner) (i : Nat) : (b.modifyStream i Stream.behead).Owned owner :=
  ho.modifyStream i (fun _ => rfl) (fun _ => rfl) fun s => List.tail_sublist s.buffer

/-- The tag of the oldest message of a stream is nowhere else. -/
lemma Owned.tag_ne_head (ho : b.Owned owner) {i j : Nat} {s t : Stream} {head e : Nat × Bytes}
    {rest : List (Nat × Bytes)} (hs : b.streams[i]? = some s) (hbuf : s.buffer = head :: rest)
    (ht : (b.modifyStream i Stream.behead).streams[j]? = some t) (hst : t.queue = s.queue)
    (he : e ∈ t.buffer) : e.1 ≠ head.1 := by
  rw [modifyStream_streams] at ht
  obtain ⟨t₀, ht₀, rfl⟩ := Option.map_eq_some_iff.1 ht
  by_cases hij : i = j
  · subst hij
    rw [hs, Option.some.injEq] at ht₀
    subst ht₀
    rw [if_pos rfl, Stream.behead, hbuf, List.tail_cons] at he
    have hord := ho.ordered hs
    rw [hbuf, List.pairwise_cons] at hord
    exact Nat.ne_of_gt (hord.1 e he)
  · rw [if_neg hij] at he hst
    exact ho.apart ht₀ hs (Ne.symm hij) hst he (by rw [hbuf]; exact List.mem_cons_self)

lemma Owned.setQueue_settled (ho : b.Owned owner) (h : b.queue? name = some q) (v : Verdict)
    {tag : Nat} (hne : ∀ {i : Nat} {s : Stream} {e : Nat × Bytes}, b.streams[i]? = some s →
      s.queue = name → e ∈ s.buffer → e.1 ≠ tag) : (b.setQueue name (settled q tag v)).Owned owner := by
  refine ho.setQueue h (by simp) ?_
  intro i s e hi hqueue _ he hu
  rw [settled_unacked, List.mem_filter]
  exact ⟨hu, by simpa using hne hi hqueue he⟩

/-! ## Only open sessions have consumers and unsettled messages -/

/-- The same, of the queue with the given name. -/
def Within (ok : Nat → Prop) (name : String) (b : Broker) : Prop :=
  ∀ ⦃q : Queue⦄, b.queue? name = some q → q.Within ok

/-- Consumers and unsettled messages belong to open sessions. -/
def Attended (b : Broker) : Prop :=
  ∀ name, b.Within (fun session => b.isOpen session = true) name

variable {ok : Nat → Prop} {other : String}

lemma Within.setQueue (hw : b.Within ok other) (h : b.queue? name = some q)
    (hq' : q.Within ok → q'.Within ok) : (b.setQueue name q').Within ok other := by
  intro q₁ hq₁
  rw [queue?_setQueue h] at hq₁
  split at hq₁
  · next heq =>
    cases hq₁
    exact hq' (hw (heq ▸ h))
  · exact hw hq₁

lemma Within.route (hw : b.Within ok other) (name : String) (payload : Bytes) :
    (b.route name payload).Within ok other := by
  cases h : b.queue? name with
  | none => rwa [route_of_none h]
  | some q =>
    rcases route_cases h payload with ⟨slot, hslot, -, heq⟩ | ⟨-, heq⟩
    · rw [heq]
      refine Within.setQueue hw h fun hq => ⟨fun s hs => hq.slots s (List.filter_subset_self _ hs), ?_⟩
      intro u hu
      rcases Queue.mem_unacked_handed hu with hu | ⟨-, rfl⟩
      · exact hq.unacked u hu
      · exact hq.slots slot hslot
    · rw [heq]
      exact Within.setQueue hw h
        fun hq => ⟨fun s hs => hq.slots s (List.filter_subset_self _ hs), hq.unacked⟩

lemma Within.dismiss (hw : b.Within ok other) (h : b.queue? name = some q) (session : Nat) :
    (b.dismiss session name q).Within ok other :=
  hw.setQueue h fun hq => ⟨fun s hs => hq.slots s (List.filter_subset_self _ hs),
    fun u hu => hq.unacked u (List.filter_subset_self _ hu)⟩

/-- A queue that has let go of a session has nothing of it. -/
lemma within_dismiss (h : b.queue? name = some q) (session : Nat) :
    (b.dismiss session name q).Within (· ≠ session) name := by
  intro q₁ hq₁
  rw [Broker.dismiss, queue?_setQueue_self h, Option.some.injEq] at hq₁
  subst hq₁
  exact ⟨fun s hs => by simpa using (List.mem_filter.1 hs).2,
    fun u hu => by simpa using (List.mem_filter.1 hu).2⟩

lemma Within.releaseQueues (hw : b.Within ok other) (session : Nat) (names : List String) :
    (b.releaseQueues session names).Within ok other :=
  releaseQueues_induction session names (fun _ _ _ hq h => h.dismiss hq session)
    (fun _ name payload h => h.route name payload) hw

lemma within_releaseQueues (session : Nat) {names : List String} (h : name ∈ names) :
    (b.releaseQueues session names).Within (· ≠ session) name := by
  induction names generalizing b with
  | nil => cases h
  | cons first rest ih =>
    rw [releaseQueues_eq_foldl, List.foldl_cons, ← releaseQueues_eq_foldl]
    rcases List.mem_cons.1 h with rfl | hmem
    · refine Within.releaseQueues ?_ session rest
      cases hq : b.queue? name with
      | none =>
        intro q hq'
        rw [releaseQueue_of_none hq, hq] at hq'
        cases hq'
      | some q =>
        rw [releaseQueue_eq_routeAll hq]
        exact routeAll_induction _ (fun _ payload h => h.route name payload)
          (within_dismiss hq session)
    · exact ih hmem

lemma route_queue?_eq_none (h : b.queue? other = none) (name : String) (payload : Bytes) :
    (b.route name payload).queue? other = none := by
  cases hq : b.queue? name with
  | none => rwa [route_of_none hq]
  | some q =>
    have hne : other ≠ name := by
      rintro rfl
      rw [h] at hq
      cases hq
    rcases route_cases hq payload with ⟨slot, -, -, heq⟩ | ⟨-, heq⟩
    · rw [heq, handOver_queue? hq, if_neg hne, h]
    · rw [heq, store_queue? hq, if_neg hne, h]

lemma releaseQueues_queue?_eq_none (h : b.queue? other = none) (session : Nat)
    (names : List String) : (b.releaseQueues session names).queue? other = none := by
  refine releaseQueues_induction (P := fun b => b.queue? other = none) session names ?_
    (fun b name payload h => route_queue?_eq_none h name payload) h
  intro b name q hq h
  have hne : other ≠ name := by
    rintro rfl
    rw [h] at hq
    cases hq
  rw [dismiss, queue?_setQueue_of_ne b _ hne, h]

lemma mem_names_of_queue? {queues : List (String × Queue)} (h : queues.lookup name = some q) :
    name ∈ queues.map (·.1) := by
  induction queues with
  | nil => cases h
  | cons p rest ih =>
    obtain ⟨key, value⟩ := p
    rw [List.lookup_cons] at h
    split at h
    · next heq => simp [eq_of_beq heq]
    · exact List.mem_cons_of_mem _ (ih h)

lemma within_close (hopen : b.isOpen session = true) (name : String) :
    (b.close session).Within (· ≠ session) name := by
  rw [close_of_open hopen]
  cases hq : b.queue? name with
  | none =>
    intro q hq'
    rw [releaseQueues_queue?_eq_none (b := b.hangUp session) hq session] at hq'
    cases hq'
  | some q => exact within_releaseQueues session (mem_names_of_queue? hq)

lemma isOpen_close (b : Broker) (session other : Nat) :
    (b.close session).isOpen other = true ↔ other ≠ session ∧ b.isOpen other = true := by
  cases hopen : b.isOpen session with
  | false =>
    rw [close_of_not_open hopen]
    constructor
    · intro h
      refine ⟨?_, h⟩
      rintro rfl
      rw [hopen] at h
      cases h
    · exact And.right
  | true =>
    rw [close_of_open hopen, ← isOpen_hangUp, isOpen, (releaseQueues_fields _ session _).1]
    rfl

lemma Attended.close (ha : b.Attended) (session : Nat) : (b.close session).Attended := by
  cases hopen : b.isOpen session with
  | false => rwa [close_of_not_open hopen]
  | true =>
    intro name q hq
    have hne := within_close hopen name hq
    have hw : (b.close session).Within (fun s => b.isOpen s = true) name := by
      rw [close_of_open hopen]
      exact Within.releaseQueues (b := b.hangUp session) (ha name) session _
    have hold := hw hq
    exact ⟨fun s hs => (isOpen_close b session _).2 ⟨hne.slots s hs, hold.slots s hs⟩,
      fun u hu => (isOpen_close b session _).2 ⟨hne.unacked u hu, hold.unacked u hu⟩⟩

lemma Attended.route (ha : b.Attended) (name : String) (payload : Bytes) :
    (b.route name payload).Attended := by
  intro other
  rw [route_isOpen]
  exact (ha other).route name payload

lemma Attended.enlist (ha : b.Attended) (h : b.queue? name = some q)
    (hopen : b.isOpen session = true) (mode : AckMode) :
    (b.enlist session name mode q).Attended := by
  intro other q₁ hq₁
  have hsame : (b.enlist session name mode q).isOpen = b.isOpen := rfl
  rw [hsame]
  rw [enlist_queue? h] at hq₁
  split at hq₁
  · cases hq₁
    refine ⟨?_, (ha name h).unacked⟩
    intro slot hslot
    rw [List.mem_append, List.mem_singleton] at hslot
    rcases hslot with hslot | rfl
    · exact (ha name h).slots slot hslot
    · exact hopen
  · exact ha other hq₁

lemma Attended.declared (ha : b.Attended) (h : b.queue? name = none) : (b.declared name).Attended := by
  intro other q hq
  rw [declared_queue? h] at hq
  split at hq
  · cases hq
    exact ⟨by simp, by simp⟩
  · exact ha other hq

lemma Attended.connect (ha : b.Attended) : b.connect.2.Attended := by
  intro name q hq
  rw [connect_queue?] at hq
  have hw := ha name hq
  exact ⟨fun s hs => by rw [isOpen_connect b (lt_of_isOpen (hw.slots s hs))]; exact hw.slots s hs,
    fun u hu => by rw [isOpen_connect b (lt_of_isOpen (hw.unacked u hu))]; exact hw.unacked u hu⟩

lemma Attended.setQueue (ha : b.Attended) (h : b.queue? name = some q) (hs : q'.slots ⊆ q.slots)
    (hu : q'.unacked ⊆ q.unacked) : (b.setQueue name q').Attended :=
  fun other => (ha other).setQueue h
    fun hq => ⟨fun s hs' => hq.slots s (hs hs'), fun u hu' => hq.unacked u (hu hu')⟩

/-! ## What a consumer has left behind -/

/-- A message is not settled and in no stream, but perhaps in one of those that are held. -/
structure LeftBut (held : Nat → Prop) (name : String) (u : Unsettled) (b : Broker) : Prop where
  waits : ∃ q, b.queue? name = some q ∧ u ∈ q.unacked
  absent : ∀ {i : Nat} {s : Stream} {e : Nat × Bytes}, ¬ held i → b.streams[i]? = some s →
    s.queue = name → e ∈ s.buffer → e.1 ≠ u.tag

variable {u : Unsettled} {held held' : Nat → Prop}

lemma LeftBut.mono (hl : b.LeftBut held other u) (h : ∀ i, held i → held' i) : b.LeftBut held' other u :=
  ⟨hl.waits, fun hi => hl.absent fun hh => hi (h _ hh)⟩

lemma LeftBut.setQueue (hl : b.LeftBut held other u) (h : b.queue? name = some q)
    (hu : other = name → u ∈ q.unacked → u ∈ q'.unacked) : (b.setQueue name q').LeftBut held other u := by
  obtain ⟨q₁, hq₁, hmem⟩ := hl.waits
  refine ⟨?_, hl.absent⟩
  rw [queue?_setQueue h]
  split
  · next heq =>
    rw [heq, h, Option.some.injEq] at hq₁
    exact ⟨q', rfl, hu heq (hq₁ ▸ hmem)⟩
  · exact ⟨q₁, hq₁, hmem⟩

lemma LeftBut.route (hl : b.LeftBut held other u) (hb : b.Sound) (name : String) (payload : Bytes) :
    (b.route name payload).LeftBut held other u := by
  cases h : b.queue? name with
  | none => rwa [route_of_none h]
  | some q =>
    rcases route_cases h payload with ⟨slot, hslot, -, heq⟩ | ⟨-, heq⟩
    · rw [heq]
      have hset : (b.setQueue name (q.handed b.isListening slot payload)).LeftBut held other u :=
        hl.setQueue h fun _ hu => Queue.mem_unacked_handed_of_mem hu
      refine ⟨hset.waits, ?_⟩
      intro i s' e hnot hi hqueue he
      obtain ⟨s, hs, hqs, -, he | ⟨-, hname, -, rfl⟩⟩ := hb.mem_buffer_handOver h hslot hi he
      · exact hl.absent hnot hs (hqs ▸ hqueue) he
      · -- the tag that is given out now is later than all others
        obtain ⟨q₁, hq₁, hmem⟩ := hl.waits
        have hsame : other = name := by rw [← hqueue, hqs, hname]
        rw [hsame, h, Option.some.injEq] at hq₁
        subst hq₁
        exact Nat.ne_of_gt ((hb.tagged h).lt u hmem)
    · rw [heq]
      exact hl.setQueue h fun _ hu => hu

lemma LeftBut.routeAll (hl : b.LeftBut held other u) (hb : b.Sound) (name : String) (payloads : List Bytes) :
    (b.routeAll name payloads).LeftBut held other u :=
  (routeAll_induction (P := fun b => b.Sound ∧ b.LeftBut held other u) payloads
    (fun _ payload h => ⟨h.1.route name payload, h.2.route h.1 name payload⟩) ⟨hb, hl⟩).2

lemma LeftBut.enlist (hl : b.LeftBut held other u) (h : b.queue? name = some q) (session : Nat)
    (mode : AckMode) : (b.enlist session name mode q).LeftBut held other u := by
  refine ⟨?_, ?_⟩
  · obtain ⟨q₁, hq₁, hmem⟩ := hl.waits
    rw [enlist_queue? h]
    split
    · next heq =>
      rw [heq, h, Option.some.injEq] at hq₁
      exact ⟨_, rfl, hq₁ ▸ hmem⟩
    · exact ⟨q₁, hq₁, hmem⟩
  · intro i s e hnot hi hqueue he
    rw [enlist_streams] at hi
    rcases getElem?_append_cases hi with hi | ⟨-, rfl⟩
    · exact hl.absent hnot hi hqueue he
    · cases he

lemma LeftBut.close (hl : b.LeftBut held other u) (hb : b.Sound) (hne : u.session ≠ session) :
    (b.close session).LeftBut held other u := by
  cases hopen : b.isOpen session with
  | false => rwa [close_of_not_open hopen]
  | true =>
    rw [close_of_open hopen]
    refine (releaseQueues_induction (b := b.hangUp session)
      (P := fun b => b.Sound ∧ b.LeftBut held other u) session _ ?_ ?_
      ⟨hb.congr rfl rfl, hl.waits, hl.absent⟩).2
    · rintro b name q hq ⟨hb, hl⟩
      refine ⟨hb.dismiss hq session, hl.setQueue hq fun _ hu => List.mem_filter.2 ⟨hu, ?_⟩⟩
      simpa using hne
    · rintro b name payload ⟨hb, hl⟩
      exact ⟨hb.route name payload, hl.route hb name payload⟩

lemma LeftBut.declared (hl : b.LeftBut held other u) (h : b.queue? name = none) :
    (b.declared name).LeftBut held other u := by
  obtain ⟨q, hq, hmem⟩ := hl.waits
  refine ⟨⟨q, ?_, hmem⟩, hl.absent⟩
  rw [declared_queue? h, if_neg, hq]
  rintro rfl
  rw [h] at hq
  cases hq

lemma LeftBut.congr (hl : b.LeftBut held other u) (hq : b'.queue? = b.queue?) (hs : b'.streams = b.streams) :
    b'.LeftBut held other u :=
  ⟨by rw [hq]; exact hl.waits, by rw [hs]; exact hl.absent⟩

lemma LeftBut.modifyStream (hl : b.LeftBut held other u) (i : Nat) {f : Stream → Stream}
    (hqueue : ∀ s, (f s).queue = s.queue) (hbuffer : ∀ s, (f s).buffer ⊆ s.buffer) :
    (b.modifyStream i f).LeftBut held other u := by
  refine ⟨hl.waits, ?_⟩
  intro j s' e hnot hj hname he
  rw [modifyStream_streams] at hj
  obtain ⟨s, hs, rfl⟩ := Option.map_eq_some_iff.1 hj
  rw [apply_ite Stream.queue, hqueue, ite_self] at hname
  refine hl.absent hnot hs hname ?_
  split at he
  · exact hbuffer s he
  · exact he

/-- A message that is in no stream from which one is taken stays where it is. -/
lemma LeftBut.serve (hl : b.LeftBut held other u) {i : Nat} {d : Delivery} (hnot : ¬ held i)
    (hpoll : b.poll i = (.delivery d, b')) (verdict : Verdict) :
    (b'.settle verdict d).2.LeftBut held other u := by
  rcases poll_cases b i with (hp | hp) | ⟨s, tag, payload, rest, hs, hbuf, hp⟩
  · rw [hp] at hpoll; cases hpoll
  · rw [hp] at hpoll; cases hpoll
  · rw [hp] at hpoll
    cases hpoll
    have hl' : (b.modifyStream i Stream.behead).LeftBut held other u :=
      hl.modifyStream i (fun _ => rfl) fun s => (List.tail_sublist s.buffer).subset
    rcases settle_cases (b.modifyStream i Stream.behead) verdict
      ⟨s.queue, tag, payload, s.mode = .manual⟩ with ⟨heq, -⟩ | ⟨q, -, hq, -, heq⟩
    · rwa [heq]
    · rw [heq]
      refine hl'.setQueue hq fun hname hu => ?_
      rw [settled_unacked, List.mem_filter]
      refine ⟨hu, ?_⟩
      simpa using Ne.symm (hl.absent hnot hs hname.symm (by rw [hbuf]; exact List.mem_cons_self))

/-- A message is not settled and in no stream. -/
structure Left (name : String) (u : Unsettled) (b : Broker) : Prop where
  waits : ∃ q, b.queue? name = some q ∧ u ∈ q.unacked
  absent : ∀ {i : Nat} {s : Stream} {e : Nat × Bytes}, b.streams[i]? = some s → s.queue = name →
    e ∈ s.buffer → e.1 ≠ u.tag

lemma Left.leftBut (hl : b.Left other u) : b.LeftBut held other u :=
  ⟨hl.waits, fun _ => hl.absent⟩

lemma LeftBut.left (hl : b.LeftBut (fun _ => False) other u) : b.Left other u :=
  ⟨hl.waits, hl.absent id⟩

lemma Left.setQueue (hl : b.Left other u) (h : b.queue? name = some q)
    (hu : other = name → u ∈ q.unacked → u ∈ q'.unacked) : (b.setQueue name q').Left other u :=
  (hl.leftBut.setQueue h hu).left

lemma Left.route (hl : b.Left other u) (hb : b.Sound) (name : String) (payload : Bytes) :
    (b.route name payload).Left other u :=
  (hl.leftBut.route hb name payload).left

lemma Left.routeAll (hl : b.Left other u) (hb : b.Sound) (name : String) (payloads : List Bytes) :
    (b.routeAll name payloads).Left other u :=
  (hl.leftBut.routeAll hb name payloads).left

lemma Left.enlist (hl : b.Left other u) (h : b.queue? name = some q) (session : Nat)
    (mode : AckMode) : (b.enlist session name mode q).Left other u :=
  (hl.leftBut.enlist h session mode).left

lemma Left.close (hl : b.Left other u) (hb : b.Sound) (hne : u.session ≠ session) :
    (b.close session).Left other u :=
  (hl.leftBut.close hb hne).left

lemma Left.declared (hl : b.Left other u) (h : b.queue? name = none) :
    (b.declared name).Left other u :=
  (hl.leftBut.declared h).left

lemma Left.congr (hl : b.Left other u) (hq : b'.queue? = b.queue?) (hs : b'.streams = b.streams) :
    b'.Left other u :=
  (hl.leftBut.congr hq hs).left

lemma Left.modifyStream (hl : b.Left other u) (i : Nat) {f : Stream → Stream}
    (hqueue : ∀ s, (f s).queue = s.queue) (hbuffer : ∀ s, (f s).buffer ⊆ s.buffer) :
    (b.modifyStream i f).Left other u :=
  (hl.leftBut.modifyStream i hqueue hbuffer).left

lemma Left.serve (hl : b.Left other u) {i : Nat} {d : Delivery} (hpoll : b.poll i = (.delivery d, b'))
    (verdict : Verdict) : (b'.settle verdict d).2.Left other u :=
  (hl.leftBut.serve id hpoll verdict).left

end Broker

end MessageRelay
