import MessageRelay.Proofs.Exchange.Books

/-!
# What can be asked of a relay, in the books

Every operation on an exchange of relays keeps relays and broker in order, can be entered in the book,
and only leads on: `Accounts` and `Onward` are kept by connecting, joining, publishing, closing, breaking
a stream, taking events and throwing a mailbox away.  Of these only closing a relay and throwing its
mailbox away make consumers stop, and so lose what these hold.
-/

namespace MessageRelay

/-- The relay with one more consumer. -/
def Relay.withConsumer (r : Relay) (queue : String) (stream : Nat) : Relay :=
  { r with consumers := r.consumers ++ [{ queue, stream }] }

lemma Relay.startConsumer_of_open {r : Relay} (h : r.closed = false) (queue : String) (stream : Nat)
    (b : Broker) : r.startConsumer queue stream b = (.ok (), r.withConsumer queue stream, b) := by
  simp [startConsumer, withConsumer, h]

lemma Relay.startConsumer_of_closed {r : Relay} (h : r.closed = true) (queue : String) (stream : Nat)
    (b : Broker) :
    r.startConsumer queue stream b =
      (.error ⟨.closed, "queue relay closed while joining '" ++ queue ++ "'"⟩, r,
        b.dropStream stream) := by
  simp [startConsumer, h]

namespace Station

/-- A station after several of its consumers have stopped. -/
def stopped (s : Station) (l : List Nat) : Station where
  relay := { s.relay with consumers := s.relay.consumers.filter (·.stream ∉ l) }
  mailbox := { s.mailbox with
    waiting := s.mailbox.waiting.filter fun e => ∀ i ∈ l, e.1 ≠ .consumer i
    granted := s.mailbox.granted.filter fun e => ∀ i ∈ l, e.1 ≠ .consumer i }

lemma stopped_nil (s : Station) : s.stopped [] = s := by
  simp [stopped]

lemma stopped_cons (s : Station) (i : Nat) (rest : List Nat) :
    s.stopped (i :: rest) = (s.without i).stopped rest := by
  simp only [stopped, without, Relay.withoutConsumer, Mailbox.forget, List.filter_filter,
    List.mem_cons, forall_eq_or_imp, not_or]
  congr 3
  all_goals
    funext e
    rw [Bool.eq_iff_iff]
    simp [and_comm]

lemma stopConsumers_eq (s : Station) (l : List Nat) (b : Broker) :
    s.stopConsumers l b = (s.stopped l, l.foldl Broker.dropStream b) := by
  unfold stopConsumers
  induction l generalizing s b with
  | nil => rw [stopped_nil]; rfl
  | cons i rest ih => rw [List.foldl_cons, stopConsumer_eq, ih, stopped_cons]; rfl

/-- The streams of the consumers. -/
def streams (s : Station) : List Nat :=
  s.relay.consumers.map (·.stream)

/-- When all consumers stop, none is left. -/
lemma stopped_streams_consumers (s : Station) : (s.stopped s.streams).relay.consumers = [] := by
  apply List.filter_eq_nil_iff.2
  intro c hc
  simpa [streams] using ⟨c, hc, rfl⟩

/-- All consumers stop, and then the session ends. -/
lemma finishClose_eq (link : Link) (s : Station) (b : Broker) :
    (s.finishClose link b).2 =
      (s.stopped s.streams, (s.streams.foldl Broker.dropStream b).close s.relay.session) := by
  have hclose : ∀ session b, (Link.close link session b).2 = b.close session := by
    intro session b
    unfold Link.close
    split <;> rfl
  simp only [finishClose, stopConsumers_eq, hclose]
  rfl

lemma breakStream_streams (s : Station) (i : Nat) :
    (s.breakStream i).relay.consumers.map (·.stream) = s.relay.consumers.map (·.stream) := by
  simp only [breakStream, List.map_map]
  apply List.map_congr_left
  intro c _
  by_cases hc : c.stream = i <;> simp [hc]

lemma Fit.breakStream {s : Station} {owner : Nat → Nat} {b : Broker} (h : s.Fit owner b)
    (i : Nat) : (s.breakStream i).Fit owner b :=
  { h with
    crew := fun c hc => by
      obtain ⟨c₀, hc₀, rfl⟩ := List.mem_map.1 hc
      rw [apply_ite Consumer.stream, ite_self]
      exact h.crew c₀ hc₀
    nodup := by rw [breakStream_streams]; exact h.nodup
    senders := fun e he => by
      obtain ⟨c, hc, heq⟩ := h.senders e he
      refine ⟨_, List.mem_map_of_mem hc, ?_⟩
      rw [apply_ite Consumer.stream, ite_self, heq] }

/-- The streams of the consumers that wait for a place. -/
def waitingStreams (s : Station) : List Nat :=
  (s.mailbox.granted ++ s.mailbox.waiting).filterMap fun e =>
    match e.1 with
    | .consumer stream => some stream
    | .loop | .call _ | .outgoing _ => none

/-- A station whose mailbox was thrown away: those who waited have stopped. -/
def discarded (s : Station) : Station where
  relay := (s.stopped s.waitingStreams).relay
  mailbox := { s.mailbox with posted := [], granted := [], waiting := [], kept := false }

lemma discardMailbox_eq (s : Station) (b : Broker) :
    s.discardMailbox b = (s.discarded, s.waitingStreams.foldl Broker.dropStream b) := by
  have hstop : ∀ l, l = s.waitingStreams →
      ({ s with mailbox := s.mailbox.discard.2 } : Station).stopConsumers l b =
        (s.discarded, s.waitingStreams.foldl Broker.dropStream b) := by
    rintro l rfl
    rw [stopConsumers_eq]
    rfl
  refine hstop _ ?_
  simp only [waitingStreams, List.filterMap_map]
  rfl

/-- Nobody waits any more after all who waited have stopped. -/
lemma stopped_waitingStreams (s : Station)
    (h : ∀ e ∈ s.mailbox.granted ++ s.mailbox.waiting, ∃ i, e.1 = .consumer i) :
    (s.stopped s.waitingStreams).mailbox.granted = [] ∧
      (s.stopped s.waitingStreams).mailbox.waiting = [] := by
  rw [← List.append_eq_nil_iff]
  simp only [stopped, ← List.filter_append]
  apply List.filter_eq_nil_iff.2
  intro e he
  obtain ⟨i, hi⟩ := h e he
  simp only [decide_eq_true_eq, not_forall, not_not]
  exact ⟨i, List.mem_filterMap.2 ⟨e, he, by rw [hi]⟩, hi⟩

end Station

lemma Broker.foldl_dropStream (l : List Nat) (b : Broker) :
    b.Onward (l.foldl Broker.dropStream b) ∧ (l.foldl Broker.dropStream b).sessions = b.sessions ∧
      ∀ name, (l.foldl Broker.dropStream b).stock name = b.stock name := by
  induction l generalizing b with
  | nil => exact ⟨.refl b, rfl, fun _ => rfl⟩
  | cons i rest ih =>
    obtain ⟨honward, hsessions, hstock⟩ := ih (b.dropStream i)
    rw [List.foldl_cons]
    exact ⟨(Broker.onward_dropStream b i).trans honward, hsessions, hstock⟩

namespace Exchange

variable {x x' x'' : Exchange} {owner : Nat → Nat} {n k i : Nat} {m : Member} {s : Station}
  {b : Broker} {book book' : Book} {routed routed' : String → Multiset Bytes}
  {taken taken' : Nat → List Event} {hired : Nat → Nat → Prop}

/-- Relays and broker are in order, and the book is right. -/
structure Accounts (routed : String → Multiset Bytes) (taken : Nat → List Event) (book : Book)
    (x : Exchange) : Prop where
  orderly : ∃ owner, x.Orderly owner
  books : x.Books routed taken book

/-- Something leads from one exchange with a right book to another one; `hired` says which consumers are
started. -/
def Leads (hired : Nat → Nat → Prop) (routed : String → Multiset Bytes) (taken : Nat → List Event) (book : Book)
    (x x' : Exchange) : Prop :=
  ∃ book', x'.Accounts routed taken book' ∧ Onward hired x x' book book'

lemma Leads.trans (h : Leads hired routed taken book x x')
    (h' : ∀ book', x'.Accounts routed taken book' → Leads hired routed' taken' book' x' x'') :
    Leads hired routed' taken' book x x'' := by
  obtain ⟨book₁, ha₁, honward₁⟩ := h
  obtain ⟨book₂, ha₂, honward₂⟩ := h' book₁ ha₁
  exact ⟨book₂, ha₂, honward₁.trans honward₂⟩

lemma Leads.congr (h : Leads hired routed taken book x x') (hrouted : ∀ name, routed' name = routed name)
    (htaken : ∀ n, taken' n = taken n) : Leads hired routed' taken' book x x' := by
  obtain rfl : routed' = routed := funext hrouted
  obtain rfl : taken' = taken := funext htaken
  exact h

lemma Accounts.leads_self (h : x.Accounts routed taken book) : Leads hired routed taken book x x :=
  ⟨book, h, .refl x book⟩

lemma Accounts.nodes (h : x.Accounts routed taken book) : x.nodes = [] :=
  h.orderly.elim fun _ ho => ho.nodes

lemma Accounts.crewed (h : x.Accounts routed taken book) : x.Crewed :=
  h.orderly.elim fun _ ho => ho.crewed

lemma Accounts.turns (h : x.Accounts routed taken book) (ht : Turns x x') :
    Leads hired routed taken book x x' := by
  obtain ⟨owner, ho⟩ := h.orderly
  obtain ⟨ho', book', hbooks, honward, -⟩ := h.books.turns ho ht
  exact ⟨book', ⟨⟨owner, ho'⟩, hbooks⟩, honward⟩

lemma Accounts.pass (h : x.Accounts routed taken book) (ms : Nat) :
    Leads hired routed taken book x (x.pass ms) :=
  h.turns (pass_turns h.nodes h.crewed ms)

/-! ## The broker alone -/

lemma onward_withBroker (h : x.broker.Onward b) : Onward hired x { x with broker := b } book book :=
  ⟨h, fun {_ m} hm => ⟨m, hm, rfl, id, id⟩, Or.inl, fun _ => Or.inl⟩

/-- Only the broker changes, and with it what was routed. -/
lemma Books.withBroker (h : x.Books routed taken book) (more : String → Multiset Bytes)
    (hstock : ∀ name, b.stock name = x.broker.stock name + more name)
    (honward : x.broker.Onward b) :
    ({ x with broker := b } : Exchange).Books (fun name => routed name + more name) taken book :=
  { h with
    balance := fun name => by
      rw [← h.balance name, hstock name]
      abel
    origin := fun hd hmem => honward.given (h.origin hd hmem) }

/-- The broker does something that keeps the messages where they are. -/
lemma Accounts.withBroker (h : x.Accounts routed taken book)
    (hb : ∀ {owner : Nat → Nat} {live : Nat → Prop}, x.broker.InOrder owner live →
      b.InOrder owner live)
    (honward : x.broker.Onward b) (hopen : ∀ session, x.broker.isOpen session = true →
      b.isOpen session = true)
    (hstock : ∀ name, b.stock name = x.broker.stock name) :
    Leads hired routed taken book x { x with broker := b } := by
  obtain ⟨owner, ho⟩ := h.orderly
  refine ⟨book, ⟨⟨owner, ho.withBroker (hb ho.broker) ?_⟩, ?_⟩, onward_withBroker honward⟩
  · intro s hfit
    exact hfit.later honward.sessions_le honward.streams_le (hopen _) fun _ _ => rfl
  · simpa using h.books.withBroker 0 (by simpa using hstock) honward

/-- A message is routed. -/
lemma Accounts.route (h : x.Accounts routed taken book) (name : String) (payload : Bytes) :
    Leads hired (fun other => routed other +
        ((if name = other ∧ (x.broker.queue? other).isSome then [payload] else [] : List Bytes) :
          Multiset Bytes))
      taken book x { x with broker := x.broker.route name payload } := by
  obtain ⟨owner, ho⟩ := h.orderly
  have honward := ho.broker.onward_route name payload
  refine ⟨book, ⟨⟨owner, ho.withBroker (ho.broker.route name payload) ?_⟩, ?_⟩,
    onward_withBroker honward⟩
  · intro s hfit
    exact hfit.congr_broker (Broker.route_sessions _ _ _) honward.streams_le
  · exact h.books.withBroker _ (ho.broker.stock_route name payload) honward

lemma Accounts.declare (h : x.Accounts routed taken book) (session : Nat) (queue : String) :
    Leads hired routed taken book x { x with broker := (x.link.declare session queue x.broker).2 } := by
  unfold Link.declare
  split
  · exact h.leads_self
  · refine h.withBroker (fun hb => hb.declare session queue) (Broker.onward_declare _ _ _) ?_
      (Broker.stock_declare _ session queue)
    intro other hopen
    rcases Broker.declare_cases x.broker session queue with heq | ⟨-, -, heq⟩
    · rwa [heq]
    · rwa [heq]

/-! ## Consumers stop -/

/-- A stream that has no consumer is dropped, or a consumer stops. -/
lemma Books.stop (h : x.Books routed taken book) (ho : x.Orderly owner)
    (hm : x.relays[n]? = some m) (i : Nat) :
    ∃ book', (x.put n (m.station.without i) (x.broker.dropStream i)).Books routed taken book' ∧
      ∀ hd ∈ book'.lost, hd ∈ book.lost ∨ (hd.task = (n, i) ∧ x.Live n i) := by
  have honward := Broker.onward_dropStream x.broker i
  by_cases hlive : x.Live n i
  · refine ⟨_, h.lose hm hlive (Or.inl rfl) (fun _ hmem => by cases hmem) (fun name => by simp)
      honward, ?_⟩
    intro hd hmem
    rw [Book.lose, add_zero, Multiset.mem_add] at hmem
    refine hmem.imp_right fun hmem => ?_
    exact ⟨(Multiset.mem_filter.1 hmem).2, hlive⟩
  · -- nobody waits on behalf of this stream
    have hothers : ∀ e ∈ m.station.mailbox.granted ++ m.station.mailbox.waiting,
        e.1 ≠ .consumer i := by
      intro e he heq
      obtain ⟨c, hc, hsender⟩ := (ho.fit hm).senders e he
      rw [heq] at hsender
      exact hlive ⟨m, hm, c, hc, (Sender.consumer.inj hsender).symm⟩
    refine ⟨book, h.congr (fun _ => rfl) ?_ ?_ honward.given ?_, fun _ => Or.inl⟩
    · intro k
      rw [postedAt_put hm]
      split
      · next hk => rw [hk, postedAt_of_some hm]; rfl
      · rfl
    · intro k
      rw [waitingAt_put hm]
      split
      · next hk =>
        rw [hk, waitingAt_of_some hm, Station.without, Mailbox.forget, ← List.filter_append]
        exact List.filter_eq_self.2 fun e he => by simpa using hothers e he
      · rfl
    · intro k j hl
      exact Or.inl ((live_put_without hm).1 hl).1

/-- Several consumers stop. -/
lemma Books.stopAll (h : x.Books routed taken book) (ho : x.Orderly owner)
    (hm : x.relays[n]? = some m) (hcalm : m.station.mailbox.granted = []) (l : List Nat) :
    (x.put n (m.station.stopped l) (l.foldl Broker.dropStream x.broker)).Orderly owner ∧
      ∃ book', (x.put n (m.station.stopped l)
          (l.foldl Broker.dropStream x.broker)).Books routed taken book' ∧
        ∀ hd ∈ book'.lost, hd ∈ book.lost ∨
          (hd.relay = n ∧ hd.stream ∈ l ∧ x.Live n hd.stream) := by
  induction l generalizing x m book with
  | nil =>
    rw [Station.stopped_nil, List.foldl_nil, put_self hm]
    exact ⟨ho, book, h, fun _ => Or.inl⟩
  | cons i rest ih =>
    obtain ⟨book₁, h₁, hlost₁⟩ := h.stop ho hm i
    have hm₁ := put_relays_self hm (m.station.without i) (x.broker.dropStream i)
    have hcalm₁ : (m.station.without i).mailbox.granted = [] := by
      simp [Station.without, Mailbox.forget, hcalm]
    obtain ⟨ho₂, book₂, h₂, hlost₂⟩ := ih h₁ (ho.stop hm (Or.inl hcalm)) hm₁ hcalm₁
    rw [put_put] at ho₂ h₂
    rw [Station.stopped_cons, List.foldl_cons]
    refine ⟨ho₂, book₂, h₂, ?_⟩
    intro hd hmem
    rcases hlost₂ hd hmem with hmem | ⟨hn, hi, hlive⟩
    · rcases hlost₁ hd hmem with hmem | ⟨htask, hlive⟩
      · exact Or.inl hmem
      · obtain ⟨hn, hi⟩ := Prod.mk.inj htask
        exact Or.inr ⟨hn, by rw [hi]; exact List.mem_cons_self, by rwa [hi]⟩
    · exact Or.inr ⟨hn, List.mem_cons_of_mem _ hi, ((live_put_without hm).1 hlive).1⟩

/-- Consumers that are let go have stopped for a reason. -/
lemma onward_stopped (hm : x.relays[n]? = some m) {l : List Nat}
    (hb : x.broker.Onward b) (hsession : s.relay.session = m.station.relay.session)
    (hconsumers : s.relay.consumers = m.station.relay.consumers.filter (·.stream ∉ l))
    (hclosed : m.station.relay.closed = true → s.relay.closed = true)
    (hkept : m.station.mailbox.kept = false → s.mailbox.kept = false)
    (hwhy : s.relay.closed = true ∨ s.mailbox.kept = false)
    (hgiven : ∀ hd ∈ book'.lost, b.GivenFor hd.stream hd.queue)
    (hlost : ∀ hd ∈ book'.lost, hd ∈ book.lost ∨
      (hd.relay = n ∧ hd.stream ∈ l ∧ x.Live n hd.stream)) :
    Onward hired x (x.put n s b) book book' := by
  refine onward_put hm hb hsession hclosed hkept ?_ ?_
  · intro c hc
    rw [hconsumers] at hc
    exact Or.inl ⟨m, hm, c, (List.mem_filter.1 hc).1, rfl⟩
  · intro hd hmem
    refine (hlost hd hmem).imp_right ?_
    rintro ⟨rfl, hi, hlive⟩
    refine ⟨Or.inl hlive, hgiven hd hmem, ?_, ?_⟩
    · rw [live_put_self hm, hconsumers]
      rintro ⟨c, hc, heq⟩
      have hne := (List.mem_filter.1 hc).2
      rw [heq] at hne
      exact absurd hi (by simpa using hne)
    · exact hwhy.imp (fun hc => ⟨_, put_relays_self hm _ _, hc⟩)
        fun hk => ⟨_, put_relays_self hm _ _, hk⟩

/-! ## Closing a relay -/

/-- One relay and the broker do something that keeps the messages where they are. -/
lemma Books.put (h : x.Books routed taken book) (hm : x.relays[n]? = some m)
    (hmailbox : s.mailbox = m.station.mailbox)
    (hlive : ∀ c ∈ s.relay.consumers, x.Live n c.stream ∨ x.broker.streams.length ≤ c.stream)
    (hstock : ∀ name, b.stock name = x.broker.stock name) (honward : x.broker.Onward b) :
    (x.put n s b).Books routed taken book := by
  refine h.congr hstock ?_ ?_ honward.given ?_
  · intro k
    rw [postedAt_put hm]
    split
    · next hk => rw [hk, postedAt_of_some hm, hmailbox]
    · rfl
  · intro k
    rw [waitingAt_put hm]
    split
    · next hk => rw [hk, waitingAt_of_some hm, hmailbox]
    · rfl
  · intro k i hl
    by_cases hk : k = n
    · subst hk
      obtain ⟨c, hc, rfl⟩ := (live_put_self hm).1 hl
      exact hlive c hc
    · exact Or.inl ((live_put_of_ne hk).1 hl)

lemma live_of_mem (hm : x.relays[n]? = some m) :
    ∀ c ∈ m.station.relay.consumers, x.Live n c.stream ∨ x.broker.streams.length ≤ c.stream :=
  fun c hc => Or.inl ⟨m, hm, c, hc, rfl⟩

/-- The exchange in which a relay has its consumers stopped and its session ended. -/
def conclude (x : Exchange) (n : Nat) (s : Station) : Exchange :=
  x.put n (s.stopped s.streams)
    ((s.streams.foldl Broker.dropStream x.broker).close s.relay.session)

lemma Accounts.conclude (h : x.Accounts routed taken book) (hm : x.relays[n]? = some m)
    (hcalm : m.station.mailbox.granted = []) (hclosed : m.station.relay.closed = true) :
    Leads hired routed taken book x (x.conclude n m.station) := by
  obtain ⟨owner, ho⟩ := h.orderly
  obtain ⟨ho₁, book₁, h₁, hlost₁⟩ := h.books.stopAll ho hm hcalm m.station.streams
  obtain ⟨honward₁, -⟩ := Broker.foldl_dropStream m.station.streams x.broker
  have hm₁ := put_relays_self hm (m.station.stopped m.station.streams)
    (m.station.streams.foldl Broker.dropStream x.broker)
  have hin₁ := ho₁.broker
  have honward₂ := hin₁.onward_close m.station.relay.session
  -- the session ends after the consumers have stopped
  have ho₂ := ho₁.endSession hm₁ hclosed (Station.stopped_streams_consumers _)
  have h₂ := h₁.put hm₁ rfl (live_of_mem hm₁) (hin₁.stock_close m.station.relay.session) honward₂
  rw [put_put] at ho₂ h₂
  exact ⟨book₁, ⟨⟨owner, ho₂⟩, h₂⟩, onward_stopped hm (honward₁.trans honward₂) rfl rfl id id
    (Or.inl hclosed) (fun _ => h₂.origin_lost) hlost₁⟩

/-- The exchange in which a relay counts as closed; its consumers have not stopped yet. -/
def mark (x : Exchange) (n : Nat) (s : Station) : Exchange :=
  x.put n s.markClosed x.broker

/-- A relay is closed once; otherwise nothing happens. -/
lemma close_cases (x : Exchange) (n : Nat) :
    ((x.close n).2 = x ∧ ∀ m, x.relays[n]? = some m → m.station.relay.closed = true) ∨
      ∃ m, x.relays[n]? = some m ∧ m.station.relay.closed = false ∧
        (x.close n).2 = (x.mark n m.station).conclude n m.station.markClosed := by
  unfold close
  cases hm : x.relays[n]? with
  | none => exact Or.inl ⟨by simp [station?, hm], by simp⟩
  | some m =>
    simp only [station?, hm, Option.map_some, Station.close]
    cases hclosed : m.station.relay.closed with
    | true => exact Or.inl ⟨put_self hm, by simp [hclosed]⟩
    | false =>
      refine Or.inr ⟨m, rfl, hclosed, ?_⟩
      rw [mark, conclude, put_put]
      simp only [Bool.false_eq_true, if_false, Station.finishClose_eq]
      rfl

lemma Accounts.mark (h : x.Accounts routed taken book) (hm : x.relays[n]? = some m) :
    Leads hired routed taken book x (x.mark n m.station) := by
  obtain ⟨owner, ho⟩ := h.orderly
  exact ⟨book, ⟨⟨owner, ho.markClosed hm⟩,
    h.books.put hm rfl (live_of_mem hm) (fun _ => rfl) (.refl _)⟩,
    onward_put_of_consumers hm (.refl _) rfl (fun _ => rfl) id rfl rfl⟩

/-! ## Joining a queue -/

lemma Accounts.start (h : x.Accounts routed taken book) (hm : x.relays[n]? = some m)
    {queue : String} {stream : Nat}
    (hconsume : x.broker.consume m.station.relay.session queue .manual = (.ok stream, b))
    (hhired : hired n stream) :
    Leads hired routed taken book x
      (x.put n { m.station with relay := { m.station.relay with
        consumers := m.station.relay.consumers ++ [{ queue, stream }] } } b) := by
  obtain ⟨owner, ho⟩ := h.orderly
  obtain ⟨hstream, -, -, -, honward, -, hstock⟩ := ho.broker.consume hconsume
  have hlive : ∀ c ∈ m.station.relay.consumers ++ [({ queue, stream } : Consumer)],
      x.Live n c.stream ∨ hired n c.stream ∧ x.broker.streams.length ≤ c.stream := by
    intro c hc
    rcases List.mem_append.1 hc with hc | hc
    · exact Or.inl ⟨m, hm, c, hc, rfl⟩
    · rw [List.mem_singleton.1 hc]
      exact Or.inr ⟨hhired, Nat.le_of_eq hstream.symm⟩
  exact ⟨book, ⟨⟨_, ho.start hm hconsume⟩, h.books.put hm rfl
    (fun c hc => (hlive c hc).imp_right And.right) hstock honward⟩,
    onward_put hm honward rfl id id hlive fun _ => Or.inl⟩

/-- A stream comes for a relay that was closed meanwhile, and nobody listens to it. -/
lemma Accounts.visit (h : x.Accounts routed taken book) (hm : x.relays[n]? = some m)
    {queue : String} {stream : Nat}
    (hconsume : x.broker.consume m.station.relay.session queue .manual = (.ok stream, b)) :
    Leads hired routed taken book x (x.put n m.station (b.dropStream stream)) := by
  obtain ⟨owner, ho⟩ := h.orderly
  obtain ⟨hstream, -, hlen, hsessions, honward, hin, hstock⟩ := ho.broker.consume hconsume
  have hdrop := Broker.onward_dropStream b stream
  have honward' := honward.trans hdrop
  -- the stream is a new one, so no relay notices who owns it
  have hkeep : ∀ {s₀ : Station}, s₀.Fit owner x.broker →
      s₀.Fit (Function.update owner stream m.station.relay.session) (b.dropStream stream) := by
    intro s₀ hfit
    refine hfit.later honward'.sessions_le honward'.streams_le ?_ ?_
    · intro hopen
      rwa [Broker.isOpen, show (b.dropStream stream).sessions = x.broker.sessions from hsessions]
    · intro i hi
      rw [hstream]
      exact Function.update_of_ne (Nat.ne_of_lt hi) _ _
  refine ⟨book, ⟨⟨_, ho.put hm ((hin.dropStream stream).mono ?_) (hkeep (ho.fit hm)) rfl
    fun hfit _ => hkeep hfit⟩, h.books.put hm rfl (live_of_mem hm) hstock honward'⟩,
    onward_put_of_consumers hm honward' rfl id id rfl rfl⟩
  rintro i ⟨⟨k, hk⟩ | rfl, hne⟩
  · exact ⟨k, (live_put_iff hm rfl).2 hk⟩
  · exact absurd rfl hne

lemma Accounts.beginJoin (h : x.Accounts routed taken book) (r : Relay) (queue : String) :
    Leads hired routed taken book x { x with broker := (r.beginJoin x.link queue x.broker).2 } := by
  unfold Relay.beginJoin
  split
  · exact h.leads_self
  · split
    · exact h.leads_self
    · exact h.declare r.session queue

/-- The end of joining changes nothing, or starts a consumer on a new stream. -/
lemma finishJoin_cases (x : Exchange) (n : Nat) (queue : String) :
    (x.finishJoin (.relay n) queue).2 = x ∨
      ∃ m stream b, x.relays[n]? = some m ∧
        x.broker.consume m.station.relay.session queue m.station.relay.config.ackMode =
          (.ok stream, b) ∧
        (x.finishJoin (.relay n) queue).2 =
          x.put n { m.station with relay := { m.station.relay with
            consumers := m.station.relay.consumers ++ [{ queue, stream }] } } b := by
  unfold finishJoin
  cases hm : x.relays[n]? with
  | none => exact Or.inl (by simp [station?, hm])
  | some m =>
    simp only [station?, hm, Option.map_some, Relay.finishJoin, Relay.subscribe]
    cases hjoined : m.station.relay.hasJoined queue with
    | true => exact Or.inl (put_self hm)
    | false =>
      cases hclosed : m.station.relay.closed with
      | true => exact Or.inl (put_self hm)
      | false =>
        -- only here does the broker make a stream
        rcases Broker.consume_cases x.broker m.station.relay.session queue
          m.station.relay.config.ackMode with ⟨e, heq⟩ | ⟨q, -, -, heq⟩
        · simp only [heq]
          exact Or.inl (put_self hm)
        · refine Or.inr ⟨m, _, _, rfl, heq, ?_⟩
          simp only [heq, Relay.startConsumer, hclosed, Bool.false_eq_true, if_false]
          rfl

lemma Accounts.finishJoin (h : x.Accounts routed taken book) (n : Nat) (queue : String)
    (hhired : ∀ i, (x.finishJoin (.relay n) queue).2.Live n i → hired n i) :
    Leads hired routed taken book x (x.finishJoin (.relay n) queue).2 := by
  rcases finishJoin_cases x n queue with heq | ⟨m, stream, b, hm, hconsume, heq⟩
  · rw [heq]; exact h.leads_self
  · obtain ⟨owner, ho⟩ := h.orderly
    rw [heq] at hhired ⊢
    rw [(ho.fit hm).manual] at hconsume
    refine h.start hm hconsume (hhired stream ?_)
    exact (live_put_self hm).2 ⟨_, List.mem_append_right _ (List.mem_singleton.2 rfl), rfl⟩

/-- A relay that joins a queue which it has not joined gets one more consumer. -/
lemma Accounts.join (h : x.Accounts routed taken book) (n : Nat) (queue : String)
    (hhired : ∀ s, x.station? (.relay n) = some s → s.relay.hasJoined queue = false →
      ∀ i, (x.join (.relay n) queue).2.Live n i → hired n i) :
    Leads hired routed taken book x (x.join (.relay n) queue).2 := by
  unfold Exchange.join at hhired ⊢
  cases hs : x.station? (.relay n) with
  | none => exact h.leads_self
  | some s =>
    have hbegin : Leads hired routed taken book x _ := h.beginJoin s.relay queue
    specialize hhired s hs
    simp only [hs] at hhired ⊢
    split at hhired
    · next heq => rw [heq] at hbegin; exact hbegin
    · next heq =>
      rw [heq] at hbegin
      cases hjoined : s.relay.hasJoined queue with
      | true => exact hbegin
      | false =>
        rw [hjoined] at hhired
        refine (hbegin.trans fun _ h₁ => h₁.pass x.link.consumeMs).trans fun _ h₂ => ?_
        exact h₂.finishJoin n queue (hhired rfl)

/-! ## Connecting -/

/-- A try to connect, whatever comes of it: there is at most a new session. -/
structure Connects (b : Broker) (result : Except RelayError Nat) (b' : Broker) : Prop where
  inOrder : ∀ {owner : Nat → Nat} {live : Nat → Prop}, b.InOrder owner live → b'.InOrder owner live
  onward : b.Onward b'
  stock : ∀ name, b'.stock name = b.stock name
  sessions : ((∃ e, result = .error e) ∧ b'.sessions = b.sessions) ∨
    (result = .ok b.sessions.length ∧ b'.sessions = b.sessions ++ [true])

lemma connects_error (b : Broker) (e : RelayError) : Connects b (.error e) b :=
  ⟨id, .refl b, fun _ => rfl, Or.inl ⟨⟨e, rfl⟩, rfl⟩⟩

lemma connects_connect (b : Broker) : Connects b b.connect.1 b.connect.2 where
  inOrder h := h.connect
  onward := Broker.onward_connect b
  stock name := by rw [Broker.stock, Broker.connect_queue?]; rfl
  sessions := Broker.connect_cases b

/-- After a try that failed, another one. -/
lemma Connects.trans {b₁ b₂ : Broker} {e : RelayError} {result : Except RelayError Nat}
    (h : Connects b (.error e) b₁) (h' : Connects b₁ result b₂) : Connects b result b₂ where
  inOrder hb := h'.inOrder (h.inOrder hb)
  onward := h.onward.trans h'.onward
  stock name := (h'.stock name).trans (h.stock name)
  sessions := by
    rcases h.sessions with ⟨-, hs⟩ | ⟨hok, -⟩
    · rw [← hs]; exact h'.sessions
    · cases hok

lemma attempt_connects {link : Link} {timeouts : Timeouts} {a : Attempt} {ms : Nat} {b' : Broker}
    (h : link.attempt timeouts b = (a, ms, b')) :
    (∃ session, a = .connected session ∧ Connects b (.ok session) b') ∨
      ((∀ session, a ≠ .connected session) ∧ ∀ e, Connects b (.error e) b') := by
  unfold Link.attempt at h
  simp only at h
  split at h
  · cases h
    exact Or.inr ⟨by simp, connects_error b⟩
  · have hconnect := connects_connect b
    split at h
    · next session b'' heq =>
      rw [heq] at hconnect
      cases h
      exact Or.inl ⟨session, rfl, hconnect⟩
    · next e b'' heq =>
      rw [heq] at hconnect
      -- why the try failed does not matter for the broker
      have hfailed : ∀ e', Connects b (.error e') b'' := by
        intro e'
        refine { hconnect with sessions := Or.inl ⟨⟨e', rfl⟩, ?_⟩ }
        rcases hconnect.sessions with ⟨-, hs⟩ | ⟨hok, -⟩
        · exact hs
        · cases hok
      split at h <;>
      · cases h
        exact Or.inr ⟨by simp, hfailed⟩

lemma connects_retry (link : Link) (config : QueueConfig) (left : Nat) (last : String)
    (spent : Nat) (b : Broker) :
    Connects b (link.retry config left last spent b).1 (link.retry config left last spent b).2.2 := by
  induction left generalizing last spent b with
  | zero => exact connects_error b _
  | succ left ih =>
    unfold Link.retry
    split
    · next session ms b' heq =>
      rcases attempt_connects heq with ⟨session', hsame, hok⟩ | ⟨hne, -⟩
      · cases hsame; exact hok
      · exact absurd rfl (hne session)
    · next e ms b' heq =>
      rcases attempt_connects heq with ⟨session', hsame, -⟩ | ⟨-, hfailed⟩
      · cases hsame
      · exact hfailed e
    · next reason ms b' heq =>
      rcases attempt_connects heq with ⟨session', hsame, -⟩ | ⟨-, hfailed⟩
      · cases hsame
      · exact (hfailed ⟨.brokerUnavailable, reason⟩).trans (ih _ _ _)

lemma connects_link (link : Link) (config : QueueConfig) (b : Broker) :
    Connects b (link.connect config b).1 (link.connect config b).2.2 := by
  unfold Link.connect
  split
  · exact connects_error b _
  · exact connects_retry link config _ _ _ b

lemma Connects.isOpen {result : Except RelayError Nat} {b' : Broker} (h : Connects b result b')
    {session : Nat} (hopen : b.isOpen session = true) : b'.isOpen session = true := by
  unfold Broker.isOpen
  rcases h.sessions with ⟨-, hs⟩ | ⟨-, hs⟩
  · rw [hs]; exact hopen
  · rw [hs, List.getElem?_append_left (Broker.lt_of_isOpen hopen)]; exact hopen

/-- A relay that has just been connected. -/
def newcomer (session : Nat) (config : QueueConfig) (capacity : Nat) : Member where
  station := { relay := { session, config }, mailbox := { capacity } }

/-- The exchange in which there is one more relay. -/
def enroll (x : Exchange) (new : Member) : Exchange :=
  { x with relays := x.relays ++ [new] }

lemma enroll_of_some {new : Member} (hm : x.relays[n]? = some m) :
    (x.enroll new).relays[n]? = some m := by
  rw [enroll, List.getElem?_append_left (List.getElem?_eq_some_iff.1 hm).1, hm]

lemma enroll_cases {new : Member} (hm : (x.enroll new).relays[n]? = some m) :
    x.relays[n]? = some m ∨ (x.relays[n]? = none ∧ n = x.relays.length ∧ m = new) := by
  rw [enroll, List.getElem?_append] at hm
  split at hm
  · exact Or.inl hm
  · next hge =>
    obtain ⟨hlt, heq⟩ := List.getElem?_eq_some_iff.1 hm
    rw [List.length_singleton] at hlt
    have hn : n = x.relays.length := by omega
    subst hn
    exact Or.inr ⟨List.getElem?_eq_none (Nat.le_refl _), rfl, by simpa using heq.symm⟩

/-- What a new relay does not have is as it was. -/
lemma enroll_elim {α : Type} {new : Member} {f : Member → List α} (hnew : f new = []) (n : Nat) :
    (x.enroll new).relays[n]?.elim [] f = x.relays[n]?.elim [] f := by
  cases hm : (x.enroll new).relays[n]? with
  | none =>
    cases hm' : x.relays[n]? with
    | none => rfl
    | some m => rw [enroll_of_some hm'] at hm; cases hm
  | some m =>
    rcases enroll_cases hm with hm' | ⟨hnone, -, rfl⟩
    · rw [hm']
    · rw [hnone]; exact hnew

lemma live_enroll {new : Member} (hnew : new.station.relay.consumers = []) :
    (x.enroll new).Live n i ↔ x.Live n i := by
  constructor
  · rintro ⟨m, hm, c, hc, heq⟩
    rcases enroll_cases hm with hm | ⟨-, -, rfl⟩
    · exact ⟨m, hm, c, hc, heq⟩
    · rw [hnew] at hc; cases hc
  · rintro ⟨m, hm, hc⟩
    exact ⟨m, enroll_of_some hm, hc⟩

/-- A relay comes up on a session that no other relay has. -/
lemma Accounts.enroll (h : x.Accounts routed taken book) {config : QueueConfig} {session : Nat}
    (capacity : Nat) (hmanual : config.ackMode = .manual)
    (hopen : x.broker.isOpen session = true)
    (hnew : ∀ {n : Nat} {m : Member}, x.relays[n]? = some m → m.station.relay.session ≠ session) :
    Leads hired routed taken book x (x.enroll (newcomer session config capacity)) := by
  obtain ⟨owner, ho⟩ := h.orderly
  refine ⟨book, ⟨⟨owner, ho.nodes, ho.broker.mono ?_, ?_, ?_⟩, ?_⟩, .refl _, ?_, ?_, fun _ => Or.inl⟩
  · rintro i ⟨n, hn⟩
    exact ⟨n, (live_enroll rfl).2 hn⟩
  · intro n m hm
    rcases enroll_cases hm with hm | ⟨-, -, rfl⟩
    · exact ho.fit hm
    · exact
        { session_lt := Broker.lt_of_isOpen hopen
          isOpen := fun _ => hopen
          manual := hmanual
          crew := fun _ hc => by cases hc
          nodup := List.nodup_nil
          senders := fun _ he => by cases he
          full := fun hw => absurd rfl hw
          deserted := fun _ => ⟨rfl, rfl⟩ }
  · -- nobody else has the session of the new relay
    intro n k m m' hm hm' hne
    rcases enroll_cases hm with hm | ⟨-, rfl, rfl⟩
    · rcases enroll_cases hm' with hm' | ⟨-, -, rfl⟩
      · exact ho.apart hm hm' hne
      · exact hnew hm
    · rcases enroll_cases hm' with hm' | ⟨-, rfl, rfl⟩
      · exact (hnew hm').symm
      · exact absurd rfl hne
  · exact h.books.congr (fun _ => rfl) (enroll_elim rfl) (enroll_elim rfl) id
      fun hl => Or.inl ((live_enroll rfl).1 hl)
  · intro n m hm
    exact ⟨m, enroll_of_some hm, rfl, id, id⟩
  · intro n i hl
    exact Or.inl ((live_enroll rfl).1 hl)

/-- A connection is made, and the time passes that this takes. -/
lemma openSession_eq (x : Exchange) (config : QueueConfig) :
    x.openSession config = ((x.link.connect config x.broker).1,
      ({ x with broker := (x.link.connect config x.broker).2.2 } : Exchange).pass
        (x.link.connect config x.broker).2.1) := by
  unfold openSession
  generalize x.link.connect config x.broker = made
  obtain ⟨result, ms, broker⟩ := made
  rfl

/-- A new session has the number of no relay's session. -/
lemma Accounts.connect (h : x.Accounts routed taken book) {config : QueueConfig} (capacity : Nat)
    (hmanual : config.ackMode = .manual) :
    Leads hired routed taken book x (x.connect config capacity).2 := by
  obtain ⟨owner, ho⟩ := h.orderly
  have hc := connects_link x.link config x.broker
  have hopened : Leads hired routed taken book x (x.openSession config).2 := by
    rw [openSession_eq]
    exact (h.withBroker hc.inOrder hc.onward (fun _ => hc.isOpen) hc.stock).trans fun _ h₁ => h₁.pass _
  unfold Exchange.connect
  split
  · next e x' heq => rw [heq] at hopened; exact hopened
  · next session x' heq =>
    rw [heq] at hopened
    rw [openSession_eq, Prod.mk.injEq] at heq
    obtain ⟨hresult, hx'⟩ := heq
    refine hopened.trans fun book' h' => ?_
    rcases hc.sessions with ⟨⟨e, herr⟩, -⟩ | ⟨hok, hsessions⟩
    · rw [herr] at hresult; cases hresult
    · rw [hok] at hresult
      cases hresult
      -- no session is opened or closed while the time for connecting passes
      have hsteady := (pass_turns (x := { x with broker := (x.link.connect config x.broker).2.2 })
        ho.nodes ho.crewed (x.link.connect config x.broker).2.1).steady
      rw [hx'] at hsteady
      refine h'.enroll capacity hmanual ?_ ?_
      · rw [Broker.isOpen, hsteady.sessions_eq, hsessions, List.getElem?_concat_length]
        rfl
      · intro n m hm
        obtain ⟨m₀, hm₀, -, hs₀⟩ := hsteady.member' hm
        rw [hs₀.session_eq]
        exact Nat.ne_of_lt (ho.fit hm₀).session_lt

/-! ## Broken streams -/

/-- One relay finds a stream broken. -/
lemma Accounts.breakAt (h : x.Accounts routed taken book) (n i : Nat) :
    (x.onStation (.relay n) fun s b => (s.breakStream i, b)).Accounts routed taken book ∧
      Onward hired x (x.onStation (.relay n) fun s b => (s.breakStream i, b)) book book := by
  cases hm : x.relays[n]? with
  | none => rw [onStation_of_none hm]; exact ⟨h, .refl x book⟩
  | some m =>
    obtain ⟨owner, ho⟩ := h.orderly
    have hsame := Station.breakStream_streams m.station i
    rw [onStation_relay hm]
    refine ⟨⟨⟨owner, ?_⟩, ?_⟩, onward_put_of_consumers hm (.refl _) rfl id id hsame rfl⟩
    · refine ho.put_of_sessions_eq hm (ho.broker.mono ?_) ((ho.fit hm).breakStream i) rfl rfl
        (Nat.le_refl _)
      rintro j ⟨k, hk⟩
      exact ⟨k, (live_put_iff hm hsame).2 hk⟩
    · refine h.books.put hm rfl ?_ (fun _ => rfl) (.refl _)
      intro c hc
      obtain ⟨c₀, hc₀, rfl⟩ := List.mem_map.1 hc
      rw [apply_ite Consumer.stream, ite_self]
      exact live_of_mem hm c₀ hc₀

lemma breakStream_eq (hnodes : x.nodes = []) (i : Nat) :
    x.breakStream i = (List.range x.relays.length).foldl
      (fun x n => x.onStation (.relay n) fun s b => (s.breakStream i, b)) x := by
  simp [Exchange.breakStream, seats, hnodes, List.foldl_map]

/-- Consumers find out later that their stream is broken, so the book stays as it is. -/
lemma Accounts.breakStream (h : x.Accounts routed taken book) (i : Nat) :
    (x.breakStream i).Accounts routed taken book ∧ Onward hired x (x.breakStream i) book book := by
  rw [breakStream_eq h.nodes]
  generalize List.range x.relays.length = ns
  induction ns generalizing x with
  | nil => exact ⟨h, .refl x book⟩
  | cons n rest ih =>
    obtain ⟨h₁, honward₁⟩ := h.breakAt n i
    obtain ⟨h₂, honward₂⟩ := ih h₁
    exact ⟨h₂, honward₁.trans honward₂⟩

/-- A broken stream does not mend, and breaking one touches no other. -/
lemma Whole.of_breakAt {j : Nat}
    (h : (x.onStation (.relay n) fun s b => (s.breakStream i, b)).Whole k j) :
    x.Whole k j ∧ (k = n → j ≠ i) := by
  cases hm : x.relays[n]? with
  | none =>
    rw [onStation_of_none hm] at h
    refine ⟨h, ?_⟩
    rintro rfl
    obtain ⟨m, hm', -⟩ := h
    rw [hm] at hm'
    cases hm'
  | some m =>
    rw [onStation_relay hm] at h
    obtain ⟨m', hm', c, hc, hj, hwhole⟩ := h
    obtain ⟨m₀, hm₀, ⟨rfl, rfl⟩ | ⟨hk, rfl⟩⟩ := put_relays_cases hm'
    · rw [hm, Option.some.injEq] at hm₀
      obtain ⟨c₀, hc₀, rfl⟩ := List.mem_map.1 hc
      by_cases hi : c₀.stream = i
      · rw [if_pos hi] at hwhole; cases hwhole
      · rw [if_neg hi] at hwhole hj
        exact ⟨⟨m, hm, c₀, hc₀, hj, hwhole⟩, fun _ => hj ▸ hi⟩
    · exact ⟨⟨m', hm₀, c, hc, hj, hwhole⟩, fun heq => absurd heq hk⟩

lemma not_whole_breakStream (hnodes : x.nodes = []) (n i : Nat) :
    ¬ (x.breakStream i).Whole n i := by
  -- after the relays `ns` have found out, none of them has a consumer with a whole stream `i`
  have hfold : ∀ (ns : List Nat) (x : Exchange), (ns.foldl
      (fun x n => x.onStation (.relay n) fun s b => (s.breakStream i, b)) x).Whole n i →
      x.Whole n i ∧ n ∉ ns := by
    intro ns
    induction ns with
    | nil => exact fun x h => ⟨h, List.not_mem_nil⟩
    | cons k rest ih =>
      intro x h
      obtain ⟨h₁, hrest⟩ := ih _ h
      obtain ⟨h₀, hk⟩ := h₁.of_breakAt
      refine ⟨h₀, ?_⟩
      intro hmem
      rcases List.mem_cons.1 hmem with rfl | hmem
      · exact hk rfl rfl
      · exact hrest hmem
  rw [breakStream_eq hnodes]
  intro h
  obtain ⟨⟨m, hm, -⟩, hnot⟩ := hfold _ x h
  exact hnot (List.mem_range.2 (List.getElem?_eq_some_iff.1 hm).1)

/-! ## Mailboxes -/

/-- The events of one relay are taken; what the others' users have taken is as before. -/
def takenWith (taken : Nat → List Event) (n : Nat) (events : List Event) : Nat → List Event :=
  fun k => taken k ++ if k = n then events else []

lemma Accounts.takeEvents (h : x.Accounts routed taken book) (n : Nat) (limit : Option Nat) :
    Leads hired routed (takenWith taken n (x.takeEvents (.relay n) limit).1) book x
      (x.takeEvents (.relay n) limit).2 := by
  unfold Exchange.takeEvents
  cases hm : x.relays[n]? with
  | none =>
    simp only [station?, hm, Option.map_none]
    have hsame : takenWith taken n [] = taken := by
      funext k
      simp [takenWith]
    rw [hsame]
    exact h.leads_self
  | some m =>
    obtain ⟨owner, ho⟩ := h.orderly
    simp only [station?, hm, Option.map_some]
    -- what is taken was posted before, and places go from those who wait to those who may post
    have hput : ∀ mailbox, x.setStation (.relay n) { m.station with mailbox } =
        x.put n { m.station with mailbox } x.broker := fun _ => rfl
    rw [hput]
    refine ⟨book, ⟨⟨owner, ho.withMailbox hm ((ho.fit hm).take limit)⟩, ?_⟩,
      onward_put_of_consumers hm (.refl _) rfl id id rfl rfl⟩
    refine
      { h.books with
        posted := ?_
        held := ?_
        lost_stopped := h.books.lost_put hm (by rfl)
        origin := h.books.origin }
    · intro k
      rw [postedAt_put hm, h.books.posted k, takenWith]
      by_cases hk : k = n
      · subst hk
        simp [postedAt_of_some hm, Mailbox.take, Mailbox.grant]
      · simp [hk]
    · intro k
      rw [waitingAt_put hm, h.books.held k]
      by_cases hk : k = n
      · subst hk
        simp [waitingAt_of_some hm, Mailbox.take, Mailbox.grant]
      · simp [hk]

lemma Accounts.discardMailbox (h : x.Accounts routed taken book) (hcalm : x.Calm) (n : Nat) :
    Leads hired routed (takenWith taken n (x.postedAt n)) book x (x.discardMailbox (.relay n)) := by
  unfold Exchange.discardMailbox
  cases hm : x.relays[n]? with
  | none =>
    have hsame : takenWith taken n (x.postedAt n) = taken := by
      funext k
      simp [takenWith, postedAt, hm]
    rw [onStation_of_none hm, hsame]
    exact h.leads_self
  | some m =>
    obtain ⟨owner, ho⟩ := h.orderly
    rw [onStation_relay hm, Station.discardMailbox_eq]
    obtain ⟨ho₁, book₁, h₁, hlost₁⟩ :=
      h.books.stopAll ho hm (hcalm hm) m.station.waitingStreams
    obtain ⟨honward, -⟩ := Broker.foldl_dropStream m.station.waitingStreams x.broker
    obtain ⟨hgranted, hwaiting⟩ := Station.stopped_waitingStreams m.station fun e he => by
      obtain ⟨c, -, heq⟩ := (ho.fit hm).senders e he
      exact ⟨c.stream, heq⟩
    have hm₁ := put_relays_self hm (m.station.stopped m.station.waitingStreams)
      (m.station.waitingStreams.foldl Broker.dropStream x.broker)
    -- after the consumers have stopped, the mailbox is emptied
    have hfit : ({ m.station.stopped m.station.waitingStreams with
        mailbox := m.station.discarded.mailbox } : Station).Fit owner
          (m.station.waitingStreams.foldl Broker.dropStream x.broker) :=
      (ho₁.fit hm₁).withMailbox (fun e he => by cases he) (fun hw => absurd rfl hw)
        fun _ => ⟨rfl, rfl⟩
    have ho₂ := ho₁.withMailbox hm₁ hfit
    have h₂ : ((x.put n (m.station.stopped m.station.waitingStreams)
        (m.station.waitingStreams.foldl Broker.dropStream x.broker)).put n m.station.discarded
          (m.station.waitingStreams.foldl Broker.dropStream x.broker)).Books routed
        (takenWith taken n (x.postedAt n)) book₁ := by
      refine
        { h₁ with
          posted := ?_
          held := ?_
          lost_stopped := h₁.lost_put hm₁ (by rfl)
          origin := h₁.origin }
      · intro k
        rw [h₁.posted k, postedAt_put hm₁, postedAt_put hm, takenWith]
        by_cases hk : k = n
        · subst hk
          simp [postedAt_of_some hm, Station.stopped, Station.discarded]
        · simp [hk]
      · intro k
        rw [h₁.held k, waitingAt_put hm₁, waitingAt_put hm]
        by_cases hk : k = n
        · subst hk
          simp [hgranted, hwaiting, Station.discarded]
        · simp [hk]
    rw [put_put] at ho₂ h₂
    exact ⟨book₁, ⟨⟨owner, ho₂⟩, h₂⟩,
      onward_stopped hm honward rfl rfl id (fun _ => rfl) (Or.inr rfl) (fun _ => h₂.origin_lost)
        hlost₁⟩

/-! ## From outside -/

lemma Accounts.stats (h : x.Accounts routed taken book) (queue : String) :
    Leads hired routed taken book x { x with broker := (x.broker.stats queue).2 } := by
  cases hq : x.broker.queue? queue with
  | none =>
    have heq : (x.broker.stats queue).2 = x.broker := by simp [Broker.stats, hq]
    rw [heq]
    exact h.leads_self
  | some q =>
    have heq : (x.broker.stats queue).2 =
        x.broker.setQueue queue (q.prune x.broker.isListening) := by
      simp [Broker.stats, hq]
    rw [heq]
    refine h.withBroker (fun hb => hb.pruned hq) ?_ (fun _ ho => ho)
      (Broker.stock_setQueue_of_eq hq rfl)
    exact .of_sessions_eq id rfl fun hl => hl.setQueue hq fun _ hu => hu

lemma Accounts.arrange (h : x.Accounts routed taken book) (hq : b.queue? = x.broker.queue?)
    (hs : b.streams = x.broker.streams) (he : b.sessions = x.broker.sessions) :
    Leads hired routed taken book x { x with broker := b } := by
  refine h.withBroker (fun hb => hb.congr hq hs he) ?_ ?_ ?_
  · exact .of_sessions_eq (Broker.Fed.of_streams_eq hs).given he fun hl => hl.congr hq hs
  · intro session hopen
    rwa [Broker.isOpen, he]
  · intro name
    rw [Broker.stock, hq]
    rfl

end Exchange

end MessageRelay
