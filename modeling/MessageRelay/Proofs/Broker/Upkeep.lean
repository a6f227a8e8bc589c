import MessageRelay.Proofs.Broker.Ownership
import MessageRelay.Proofs.Broker.Stock

/-!
# Brokers whose consumers all settle by hand

What relays rely on when they use a broker.  `InOrder` collects all that is kept from one operation to
the next, given which session a stream belongs to and which streams have a consumer.  Under it a
consumer that takes a message from its stream and settles it always succeeds (`InOrder.serve`), and the
operations change the stock of a queue only by what is routed or settled.

`Onward` says what can be said of two moments: sessions do not open again, and a message that a consumer
has left behind stays where it is as long as its session is open.
-/

namespace MessageRelay.Broker

variable {b b' b'' : Broker} {owner : Nat → Nat} {live live' : Nat → Prop} {name : String}
  {q : Queue} {payload : Bytes} {session : Nat}

/-! ## Streams that are fed -/

/-- `b'` has the streams of `b`, with more in those that somebody listens to. -/
structure Fed (b b' : Broker) : Prop where
  length_eq : b'.streams.length = b.streams.length
  stream : ∀ {i : Nat} {s' : Stream}, b'.streams[i]? = some s' → ∃ s, b.streams[i]? = some s ∧
    s'.queue = s.queue ∧ s'.mode = s.mode ∧ s'.listening = s.listening ∧
    (s.listening = false → s'.buffer = s.buffer)

lemma Fed.of_streams_eq (h : b'.streams = b.streams) : b.Fed b' where
  length_eq := by rw [h]
  stream {i s'} hi := ⟨s', by rw [← h, hi], rfl, rfl, rfl, fun _ => rfl⟩

lemma Fed.trans (h : b.Fed b') (h' : b'.Fed b'') : b.Fed b'' where
  length_eq := h'.length_eq.trans h.length_eq
  stream hi := by
    obtain ⟨s₁, hs₁, hq₁, hm₁, hl₁, hb₁⟩ := h'.stream hi
    obtain ⟨s₀, hs₀, hq₀, hm₀, hl₀, hb₀⟩ := h.stream hs₁
    refine ⟨s₀, hs₀, hq₁.trans hq₀, hm₁.trans hm₀, hl₁.trans hl₀, ?_⟩
    intro hl
    rw [hb₁ (hl₀.trans hl), hb₀ hl]

lemma fed_route (b : Broker) (name : String) (payload : Bytes) : b.Fed (b.route name payload) := by
  cases h : b.queue? name with
  | none => rw [route_of_none h]; exact .of_streams_eq rfl
  | some q =>
    rcases route_cases h payload with ⟨slot, -, hlisten, heq⟩ | ⟨-, heq⟩
    · rw [heq]
      refine ⟨by simp, ?_⟩
      intro i s' hi
      obtain ⟨s, hs, hqueue, hmode, hsame, ⟨-, hbuf⟩ | ⟨rfl, -⟩⟩ := mem_buffer_carry hi
      · exact ⟨s, hs, hqueue, hmode, hsame, fun _ => hbuf⟩
      · refine ⟨s, hs, hqueue, hmode, hsame, ?_⟩
        intro hl
        have hs₀ : b.streams[slot.stream]? = some s := hs
        simp [isListening, hs₀, hl] at hlisten
    · rw [heq]; exact .of_streams_eq rfl

lemma fed_routeAll (b : Broker) (name : String) (payloads : List Bytes) :
    b.Fed (b.routeAll name payloads) :=
  routeAll_induction (P := fun b' => b.Fed b') payloads
    (fun b' payload h => h.trans (fed_route b' name payload)) (.of_streams_eq rfl)

lemma fed_close (b : Broker) (session : Nat) : b.Fed (b.close session) := by
  cases hopen : b.isOpen session with
  | false => rw [close_of_not_open hopen]; exact .of_streams_eq rfl
  | true =>
    rw [close_of_open hopen]
    exact releaseQueues_induction (P := fun b' => b.Fed b') session _
      (fun b' name q _ h => h.trans (.of_streams_eq rfl))
      (fun b' name payload h => h.trans (fed_route b' name payload)) (.of_streams_eq rfl)

/-! ## Listeners are consumers -/

/-- Who listens to a stream is a consumer, and what nobody listens to is empty. -/
structure Tended (live : Nat → Prop) (b : Broker) : Prop where
  listener : ∀ {i : Nat} {s : Stream}, b.streams[i]? = some s → s.listening = true → live i
  empty : ∀ {i : Nat} {s : Stream}, b.streams[i]? = some s → s.listening = false → s.buffer = []

lemma Tended.mono (ht : b.Tended live) (h : ∀ i, live i → live' i) : b.Tended live' where
  listener hi hl := h _ (ht.listener hi hl)
  empty hi hl := ht.empty hi hl

lemma Tended.fed (ht : b.Tended live) (h : b.Fed b') : b'.Tended live where
  listener hi hl := by
    obtain ⟨s, hs, -, -, hsame, -⟩ := h.stream hi
    exact ht.listener hs (hsame ▸ hl)
  empty hi hl := by
    obtain ⟨s, hs, -, -, hsame, hbuf⟩ := h.stream hi
    rw [hbuf (hsame ▸ hl), ht.empty hs (hsame ▸ hl)]

lemma Tended.enlist (ht : b.Tended live) (session : Nat) (name : String) (mode : AckMode) (q : Queue) :
    (b.enlist session name mode q).Tended fun i => live i ∨ i = b.streams.length where
  listener hi hl := by
    rw [enlist_streams] at hi
    rcases getElem?_append_cases hi with hi | ⟨rfl, -⟩
    · exact Or.inl (ht.listener hi hl)
    · exact Or.inr rfl
  empty hi hl := by
    rw [enlist_streams] at hi
    rcases getElem?_append_cases hi with hi | ⟨-, rfl⟩
    · exact ht.empty hi hl
    · cases hl

lemma Tended.dropStream (ht : b.Tended live) (i : Nat) :
    (b.dropStream i).Tended fun j => live j ∧ j ≠ i where
  listener {j s'} hj hl := by
    rw [dropStream_eq, modifyStream_streams] at hj
    obtain ⟨s, hs, rfl⟩ := Option.map_eq_some_iff.1 hj
    split at hl
    · cases hl
    · next hne => exact ⟨ht.listener hs hl, Ne.symm hne⟩
  empty {j s'} hj hl := by
    rw [dropStream_eq, modifyStream_streams] at hj
    obtain ⟨s, hs, rfl⟩ := Option.map_eq_some_iff.1 hj
    split at hl
    · next heq => rw [if_pos heq]; rfl
    · next hne => rw [if_neg hne]; exact ht.empty hs hl

lemma Tended.behead (ht : b.Tended live) (i : Nat) : (b.modifyStream i Stream.behead).Tended live where
  listener {j s'} hj hl := by
    rw [modifyStream_streams] at hj
    obtain ⟨s, hs, rfl⟩ := Option.map_eq_some_iff.1 hj
    exact ht.listener hs (by split at hl <;> exact hl)
  empty {j s'} hj hl := by
    rw [modifyStream_streams] at hj
    obtain ⟨s, hs, rfl⟩ := Option.map_eq_some_iff.1 hj
    split at hl
    · next heq => rw [if_pos heq, Stream.behead, ht.empty hs hl]; rfl
    · next hne => rw [if_neg hne]; exact ht.empty hs hl

/-! ## Brokers in order -/

/-- Everything that relays keep about a broker: `owner` says which session a stream belongs to, and
`live` which streams have a consumer. -/
structure InOrder (owner : Nat → Nat) (live : Nat → Prop) (b : Broker) : Prop where
  sound : b.Sound
  owned : b.Owned owner
  attended : b.Attended
  tended : b.Tended live
  /-- All consumers settle by hand. -/
  manual : ∀ {i : Nat} {s : Stream}, b.streams[i]? = some s → s.mode = .manual

lemma InOrder.mono (h : b.InOrder owner live) (hlive : ∀ i, live i → live' i) :
    b.InOrder owner live' :=
  { h with tended := h.tended.mono hlive }

lemma InOrder.autoLoad_eq_zero (h : b.InOrder owner live) (name : String) : b.autoLoad name = 0 := by
  apply List.sum_eq_zero
  intro load hload
  obtain ⟨s, hs, rfl⟩ := List.mem_map.1 hload
  obtain ⟨i, hi⟩ := List.getElem?_of_mem hs
  rw [Stream.autoLoad, if_neg]
  rintro ⟨-, hauto⟩
  rw [h.manual hi] at hauto
  cases hauto

/-- Nothing is handed to a consumer that settles at once, so the balance of a queue is its stock. -/
lemma InOrder.balance_eq_stock (h : b.InOrder owner live) (name : String) :
    b.balance name = b.stock name := by
  rw [balance, h.autoLoad_eq_zero, add_zero]

/-- The stream with the given number was given out for a queue. -/
def GivenFor (b : Broker) (i : Nat) (name : String) : Prop :=
  ∃ s, b.streams[i]? = some s ∧ s.queue = name

lemma GivenFor.lt (h : b.GivenFor i name) : i < b.streams.length :=
  h.elim fun _ hs => (List.getElem?_eq_some_iff.1 hs.1).1

lemma Fed.given (h : b.Fed b') (hg : b.GivenFor i name) : b'.GivenFor i name := by
  obtain ⟨s, hs, hqueue⟩ := hg
  have hlt : i < b'.streams.length := by
    rw [h.length_eq]
    exact (List.getElem?_eq_some_iff.1 hs).1
  obtain ⟨s₀, hs₀, hsame, -⟩ := h.stream (List.getElem?_eq_getElem hlt)
  rw [hs, Option.some.injEq] at hs₀
  subst hs₀
  exact ⟨_, List.getElem?_eq_getElem hlt, hsame.trans hqueue⟩

lemma GivenFor.modifyStream (hg : b.GivenFor i name) {j : Nat} {f : Stream → Stream}
    (hf : ∀ s, (f s).queue = s.queue) : (b.modifyStream j f).GivenFor i name := by
  obtain ⟨s, hs, hqueue⟩ := hg
  refine ⟨if j = i then f s else s, by rw [modifyStream_streams, hs]; rfl, ?_⟩
  rw [apply_ite Stream.queue, hf, ite_self, hqueue]

lemma GivenFor.enlist (hg : b.GivenFor i name) (session : Nat) (other : String) (mode : AckMode)
    (q : Queue) : (b.enlist session other mode q).GivenFor i name := by
  obtain ⟨s, hs, hqueue⟩ := hg
  refine ⟨s, ?_, hqueue⟩
  rw [enlist_streams, List.getElem?_append_left (List.getElem?_eq_some_iff.1 hs).1, hs]

/-- What a stream gives out is of the queue that it was given out for. -/
lemma given_of_poll {d : Delivery} (h : b.poll i = (.delivery d, b')) : b.GivenFor i d.queue := by
  rcases poll_cases b i with (hp | hp) | ⟨s, tag, payload, rest, hs, -, hp⟩
  · rw [hp] at h; cases h
  · rw [hp] at h; cases h
  · rw [hp] at h
    cases h
    exact ⟨s, hs, rfl⟩

/-- `b'` is `b` at a later moment. -/
structure Onward (b b' : Broker) : Prop where
  /-- Streams stay what they were given out for. -/
  given : ∀ {i : Nat} {name : String}, b.GivenFor i name → b'.GivenFor i name
  sessions_le : b.sessions.length ≤ b'.sessions.length
  /-- Sessions do not open again. -/
  isOpen_of : ∀ {session : Nat}, session < b.sessions.length → b'.isOpen session = true →
    b.isOpen session = true
  /-- What was left behind stays there. -/
  left : ∀ {name : String} {u : Unsettled}, b.Left name u → b.isOpen u.session = true →
    b'.isOpen u.session = true → b'.Left name u

lemma Onward.streams_le (h : b.Onward b') : b.streams.length ≤ b'.streams.length := by
  by_contra hlt
  rw [Nat.not_le] at hlt
  exact Nat.lt_irrefl _ (h.given ⟨_, List.getElem?_eq_getElem hlt, rfl⟩).lt

lemma Onward.refl (b : Broker) : b.Onward b :=
  ⟨id, Nat.le_refl _, fun _ h => h, fun h _ _ => h⟩

lemma Onward.trans (h : b.Onward b') (h' : b'.Onward b'') : b.Onward b'' where
  given hg := h'.given (h.given hg)
  sessions_le := Nat.le_trans h.sessions_le h'.sessions_le
  isOpen_of hlt hopen := h.isOpen_of hlt (h'.isOpen_of (Nat.lt_of_lt_of_le hlt h.sessions_le) hopen)
  left hl hopen hopen'' := by
    have hopen' := h'.isOpen_of (Nat.lt_of_lt_of_le (lt_of_isOpen hopen) h.sessions_le) hopen''
    exact h'.left (h.left hl hopen hopen') hopen' hopen''

/-- A later moment at which the same sessions are open. -/
lemma Onward.of_sessions_eq
    (hg : ∀ {i : Nat} {name : String}, b.GivenFor i name → b'.GivenFor i name) (heq : b'.sessions = b.sessions)
    (hl : ∀ {name : String} {u : Unsettled}, b.Left name u → b'.Left name u) : b.Onward b' where
  given := hg
  sessions_le := Nat.le_of_eq (by rw [heq])
  isOpen_of _ h := by rwa [isOpen, ← heq]
  left h _ _ := hl h

/-! ## Routing -/

lemma InOrder.route (h : b.InOrder owner live) (name : String) (payload : Bytes) :
    (b.route name payload).InOrder owner live where
  sound := h.sound.route name payload
  owned := h.owned.route h.sound name payload
  attended := h.attended.route name payload
  tended := h.tended.fed (fed_route b name payload)
  manual hi := by
    obtain ⟨s, hs, -, hmode, -⟩ := (fed_route b name payload).stream hi
    rw [hmode, h.manual hs]

lemma InOrder.routeAll (h : b.InOrder owner live) (name : String) (payloads : List Bytes) :
    (b.routeAll name payloads).InOrder owner live :=
  routeAll_induction payloads (fun _ payload h => h.route name payload) h

lemma InOrder.onward_route (h : b.InOrder owner live) (name : String) (payload : Bytes) :
    b.Onward (b.route name payload) :=
  .of_sessions_eq (fed_route b name payload).given (route_sessions b name payload) fun hl => hl.route h.sound name payload

/-- Routing adds the message to the stock of its queue, if there is this queue. -/
lemma InOrder.stock_route (h : b.InOrder owner live) (name : String) (payload : Bytes)
    (other : String) :
    (b.route name payload).stock other =
      b.stock other +
        ((if name = other ∧ (b.queue? other).isSome then [payload] else [] : List Bytes) :
          Multiset Bytes) := by
  rw [← (h.route name payload).balance_eq_stock, ← h.balance_eq_stock]
  exact balance_route_if h.sound name payload other

/-! ## Subscribing -/

lemma InOrder.enlist (h : b.InOrder owner live) (hq : b.queue? name = some q)
    (hopen : b.isOpen session = true) :
    (b.enlist session name .manual q).InOrder (Function.update owner b.streams.length session)
      fun i => live i ∨ i = b.streams.length where
  sound := h.sound.enlist hq session .manual
  owned := h.owned.enlist h.sound hq hopen .manual
  attended := h.attended.enlist hq hopen .manual
  tended := h.tended.enlist session name .manual q
  manual hi := by
    rw [enlist_streams] at hi
    rcases getElem?_append_cases hi with hi | ⟨-, rfl⟩
    · exact h.manual hi
    · rfl

/-- A new stream belongs to the session that has subscribed, and waits for a consumer. -/
lemma InOrder.consume (h : b.InOrder owner live) {stream : Nat}
    (heq : b.consume session name .manual = (.ok stream, b')) :
    stream = b.streams.length ∧ b.isOpen session = true ∧
      b'.streams.length = b.streams.length + 1 ∧ b'.sessions = b.sessions ∧ b.Onward b' ∧
      (b'.InOrder (Function.update owner stream session) fun i => live i ∨ i = stream) ∧
      ∀ other, b'.stock other = b.stock other := by
  rcases consume_cases b session name .manual with ⟨e, herr⟩ | ⟨q, hopen, hq, hok⟩
  · rw [herr] at heq
    cases heq
  · have hbalance := balance_consume h.sound session name .manual
    rw [hok] at heq hbalance
    cases heq
    -- the new stream is there before the messages that wait are routed again
    have hin := (h.enlist hq hopen).routeAll name q.ready
    have hlen : ((b.enlist session name .manual q).routeAll name q.ready).streams.length =
        b.streams.length + 1 := by
      rw [(fed_routeAll _ name q.ready).length_eq]
      simp
    have hsessions : ((b.enlist session name .manual q).routeAll name q.ready).sessions =
        b.sessions := by
      rw [routeAll_sessions]
      rfl
    refine ⟨rfl, hopen, hlen, hsessions, ?_, hin, ?_⟩
    · refine .of_sessions_eq (fun hg => (fed_routeAll _ name q.ready).given
        (hg.enlist session name .manual q)) hsessions fun hl => ?_
      exact (hl.enlist hq session .manual).routeAll (h.sound.enlist hq session .manual) name q.ready
    · intro other
      rw [← hin.balance_eq_stock, ← h.balance_eq_stock]
      exact hbalance other

/-! ## The end of a consumer and of a session -/

lemma InOrder.mode_modifyStream (h : b.InOrder owner live) {i j : Nat} {f : Stream → Stream}
    {s' : Stream} (hmode : ∀ s, (f s).mode = s.mode)
    (hj : (b.modifyStream i f).streams[j]? = some s') : s'.mode = .manual := by
  rw [modifyStream_streams] at hj
  obtain ⟨s, hs, rfl⟩ := Option.map_eq_some_iff.1 hj
  rw [apply_ite Stream.mode, hmode, ite_self]
  exact h.manual hs

lemma InOrder.dropStream (h : b.InOrder owner live) (i : Nat) :
    (b.dropStream i).InOrder owner fun j => live j ∧ j ≠ i where
  sound := h.sound.dropStream i
  owned := h.owned.dropStream i
  attended := h.attended
  tended := h.tended.dropStream i
  manual hj := h.mode_modifyStream (f := Stream.abandon) (fun _ => rfl) hj

lemma length_modifyStream (b : Broker) (i : Nat) (f : Stream → Stream) :
    (b.modifyStream i f).streams.length = b.streams.length :=
  List.length_modify ..

lemma onward_dropStream (b : Broker) (i : Nat) : b.Onward (b.dropStream i) :=
  .of_sessions_eq (fun hg => hg.modifyStream fun _ => rfl) rfl
    fun hl => hl.modifyStream i (fun _ => rfl) fun _ => List.nil_subset _

lemma InOrder.close (h : b.InOrder owner live) (session : Nat) :
    (b.close session).InOrder owner live where
  sound := h.sound.close session
  owned := h.owned.close h.sound session
  attended := h.attended.close session
  tended := h.tended.fed (fed_close b session)
  manual hi := by
    obtain ⟨s, hs, -, hmode, -⟩ := (fed_close b session).stream hi
    rw [hmode, h.manual hs]

lemma length_close_sessions (b : Broker) (session : Nat) :
    (b.close session).sessions.length = b.sessions.length := by
  cases hopen : b.isOpen session with
  | false => rw [close_of_not_open hopen]
  | true =>
    rw [close_of_open hopen, (releaseQueues_fields _ session _).1]
    simp [hangUp]

lemma InOrder.onward_close (h : b.InOrder owner live) (session : Nat) :
    b.Onward (b.close session) where
  given := (fed_close b session).given
  sessions_le := Nat.le_of_eq (length_close_sessions b session).symm
  isOpen_of _ hopen := ((isOpen_close b session _).1 hopen).2
  left hl _ hopen := hl.close h.sound ((isOpen_close b session _).1 hopen).1

lemma InOrder.stock_close (h : b.InOrder owner live) (session : Nat) (name : String) :
    (b.close session).stock name = b.stock name := by
  rw [← (h.close session).balance_eq_stock, ← h.balance_eq_stock]
  exact balance_close h.sound session name

/-! ## Taking and settling -/

/-- A consumer whose session is open takes a message and settles it: the message leaves the stock of its
queue, and nothing else happens. -/
lemma InOrder.serve (h : b.InOrder owner live) {i : Nat} {d : Delivery}
    (hopen : b.isOpen (owner i) = true) (hpoll : b.poll i = (.delivery d, b')) (v : Verdict) :
    (b'.settle v d).2.InOrder owner live ∧ b.Onward (b'.settle v d).2 ∧
      (b'.settle v d).2.sessions = b.sessions ∧
      ∀ name, (b'.settle v d).2.stock name + (if name = d.queue then {d.payload} else 0) =
        b.stock name := by
  rcases poll_cases b i with (hp | hp) | ⟨s, tag, payload, rest, hs, hbuf, hp⟩
  · rw [hp] at hpoll; cases hpoll
  · rw [hp] at hpoll; cases hpoll
  · rw [hp] at hpoll
    cases hpoll
    have hhead : (tag, payload) ∈ s.buffer := by rw [hbuf]; exact List.mem_cons_self
    obtain ⟨q, hq, -⟩ := h.sound.issued hs hhead
    have hmem := h.owned.unsettled hs (h.manual hs) hopen hhead hq
    have hsettle : ((b.modifyStream i Stream.behead).settle v
        ⟨s.queue, tag, payload, s.mode = .manual⟩).2 =
        (b.modifyStream i Stream.behead).setQueue s.queue (settled q tag v) := by
      have hawaits : q.awaits tag = true := by
        simp only [Queue.awaits, List.any_eq_true]
        exact ⟨_, hmem, by simp⟩
      simp [settle, h.manual hs, hq, hawaits, settled]
    rw [hsettle]
    -- the tag of the message is nowhere else
    have hne : ∀ {j : Nat} {t : Stream} {e : Nat × Bytes},
        (b.modifyStream i Stream.behead).streams[j]? = some t → t.queue = s.queue → e ∈ t.buffer →
        e.1 ≠ tag :=
      fun ht hst he => h.owned.tag_ne_head hs hbuf ht hst he
    refine ⟨?_, ?_, rfl, ?_⟩
    · exact
        { sound := (h.sound.behead i).setQueue_settled hq tag v
          owned := (h.owned.behead i).setQueue_settled hq v hne
          attended := Attended.setQueue (b := b.modifyStream i Stream.behead) h.attended hq (by simp)
            (by rw [settled_unacked]; exact List.filter_subset_self _)
          tended := (h.tended.behead i).fed (.of_streams_eq rfl)
          manual := fun hj => h.mode_modifyStream (f := Stream.behead) (fun _ => rfl) hj }
    · refine .of_sessions_eq (fun hg => hg.modifyStream (f := Stream.behead) fun _ => rfl) rfl ?_
      intro name u hl
      have hserved := hl.serve hp v
      rwa [hsettle] at hserved
    · exact stock_setQueue_settled (b := b.modifyStream i Stream.behead) (h.sound.behead i) hq hmem v

/-! ## Connecting, declaring and looking -/

lemma InOrder.connect (h : b.InOrder owner live) : b.connect.2.InOrder owner live where
  sound := h.sound.congr (connect_queue? b) (connect_streams b)
  owned := h.owned.connect
  attended := h.attended.connect
  tended := h.tended.fed (.of_streams_eq (connect_streams b))
  manual hi := h.manual (by rwa [connect_streams] at hi)

lemma onward_connect (b : Broker) : b.Onward b.connect.2 where
  given := (Fed.of_streams_eq (connect_streams b)).given
  sessions_le := by
    rcases connect_cases b with ⟨-, hs⟩ | ⟨-, hs⟩ <;> rw [hs]
    rw [List.length_append]
    exact Nat.le_add_right _ _
  isOpen_of hlt hopen := by rwa [isOpen_connect b hlt] at hopen
  left hl _ _ := hl.congr (connect_queue? b) (connect_streams b)

lemma InOrder.declare (h : b.InOrder owner live) (session : Nat) (name : String) :
    (b.declare session name).2.InOrder owner live := by
  rcases declare_cases b session name with heq | ⟨-, hnone, heq⟩
  · rwa [heq]
  · rw [heq]
    exact ⟨h.sound.declared hnone, h.owned.declared hnone h.sound, h.attended.declared hnone,
      h.tended.fed (.of_streams_eq rfl), h.manual⟩

lemma onward_declare (b : Broker) (session : Nat) (name : String) :
    b.Onward (b.declare session name).2 := by
  rcases declare_cases b session name with heq | ⟨-, hnone, heq⟩
  · rw [heq]; exact .refl b
  · rw [heq]; exact .of_sessions_eq id rfl fun hl => hl.declared hnone

lemma stock_declare (b : Broker) (session : Nat) (name other : String) :
    (b.declare session name).2.stock other = b.stock other := by
  rcases declare_cases b session name with heq | ⟨-, hnone, heq⟩
  · rw [heq]
  · rw [heq]
    exact stock_declared hnone other

lemma InOrder.pruned (h : b.InOrder owner live) (hq : b.queue? name = some q) :
    (b.setQueue name (q.prune b.isListening)).InOrder owner live where
  sound := h.sound.pruned hq
  owned := h.owned.setQueue hq (List.filter_subset_self _) fun _ _ _ _ hu => hu
  attended := h.attended.setQueue hq (List.filter_subset_self _) (List.Subset.refl _)
  tended := h.tended.fed (.of_streams_eq rfl)
  manual := h.manual

/-- Only queues, streams and sessions matter. -/
lemma InOrder.congr (h : b.InOrder owner live) (hq : b'.queue? = b.queue?)
    (hs : b'.streams = b.streams) (he : b'.sessions = b.sessions) : b'.InOrder owner live := by
  have hopen : b'.isOpen = b.isOpen := by
    funext session
    rw [isOpen, he]
    rfl
  exact
    { sound := h.sound.congr hq hs
      owned :=
        { slot := fun hq' => h.owned.slot (by rwa [hq] at hq')
          owner_lt := fun hi => by rw [he]; exact h.owned.owner_lt (by rwa [hs] at hi)
          unsettled := fun hi hm ho he' hq' => h.owned.unsettled (by rwa [hs] at hi) hm
            (by rwa [hopen] at ho) he' (by rwa [hq] at hq')
          ordered := fun hi => h.owned.ordered (by rwa [hs] at hi)
          apart := fun hi hj => h.owned.apart (by rwa [hs] at hi) (by rwa [hs] at hj) }
      attended := fun name q hq' => by rw [hopen]; exact h.attended name (by rwa [hq] at hq')
      tended := h.tended.fed (.of_streams_eq hs)
      manual := fun hi => h.manual (by rwa [hs] at hi) }

end MessageRelay.Broker
