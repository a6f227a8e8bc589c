import MessageRelay.Exchange.Command
import MessageRelay.Proofs.Exchange.Retention

/-!
# Runs of relays, in the books

The commands that have to do with relays only, what they bring to a queue, and what they take from a
mailbox, as it can be seen from outside.  Every such command can be entered in the book
(`Accounts.act`).  Between commands every open session is that of a relay that was not closed
(`Staffed`), so closing a relay is the only way in which a session ends.
-/

namespace MessageRelay.Exchange

/-- Whether a command has to do with relays that settle by hand, or with the broker, and not with
nodes. -/
def Command.forRelays : Command → Bool
  | .connect config _ => config.ackMode == .manual
  | .join .. | .publish .. | .close .. | .joinThenClose .. | .drop .. | .breakStream .. => true
  | .takeEvents (.relay _) _ | .discardMailbox (.relay _) | .control .. => true
  | _ => false

/-! ## What commands bring and take -/

/-- What a relay brings to a queue when it publishes a text. -/
def sentBy (name : String) (n : Nat) (queue user text : String) (x : Exchange) : List Bytes :=
  match x.station? (.relay n) with
  | none => []
  | some s =>
    match s.relay.payloadOf user text, x.publish n queue user text with
    | .ok payload, (.ok (), x') =>
      if queue = name ∧ (x'.broker.queue? name).isSome then [payload] else []
    | _, _ => []

/-- What a relay brings to a queue when it publishes texts one after the other. -/
def sentAllBy (name : String) (n : Nat) (queue user : String) : List String → Exchange → List Bytes
  | [], _ => []
  | text :: rest, x =>
    sentBy name n queue user text x ++
      sentAllBy name n queue user rest (x.publish n queue user text).2

/-- What a command brings to a queue, which has to be declared by then: successful publications, and
what comes from outside. -/
def routedBy (name : String) (x : Exchange) : Command → List Bytes
  | .publish n queue user texts => sentAllBy name n queue user texts x
  | .control (.inject queue payload) =>
    if queue = name ∧ (x.broker.queue? name).isSome then [payload] else []
  | _ => []

/-- The events of a relay that a command takes out of its mailbox.  When a mailbox is thrown away, what
is in it goes with it. -/
def takenBy (n : Nat) (x : Exchange) : Command → List Event
  | .takeEvents (.relay k) limit => if n = k then (x.takeEvents (.relay k) limit).1 else []
  | .discardMailbox (.relay k) => if n = k then x.postedAt k else []
  | _ => []

/-- Whether a command lets a relay start a consumer on the given stream.  A relay that is closed while it
joins gets its consumer first if subscribing takes no time. -/
def Hires (x : Exchange) (c : Command) (n i : Nat) : Prop :=
  match c with
  | .join k queue => n = k ∧ (x.join (.relay k) queue).2.Live k i
  | .joinThenClose k queue => n = k ∧ x.link.consumeMs = 0 ∧ (x.join (.relay k) queue).2.Live k i
  | _ => False

/-- What all commands of a run contribute. -/
def history {α : Type} (f : Exchange → Command → List α) (x : Exchange) : List Command → List α
  | [] => []
  | c :: rest => f x c ++ history f (x.step c).2.2 rest

variable {x x' y : Exchange} {n k i : Nat} {m : Member} {b : Broker} {book : Book}
  {routed : String → Multiset Bytes} {taken : Nat → List Event} {exempt exempt' : Nat → Prop}
  {hired : Nat → Nat → Prop}

/-! ## Open sessions -/

/-- Every open session, but perhaps for some, is that of a relay that was not closed. -/
def Staffed (exempt : Nat → Prop) (x : Exchange) : Prop :=
  ∀ ⦃session : Nat⦄, x.broker.isOpen session = true → ¬ exempt session →
    ∃ (n : Nat) (m : Member), x.relays[n]? = some m ∧ m.station.relay.session = session ∧
      m.station.relay.closed = false

/-- Sessions and relays are open as they were. -/
structure Loyal (x x' : Exchange) : Prop where
  sessions_eq : x'.broker.sessions = x.broker.sessions
  member : ∀ {n : Nat} {m : Member}, x.relays[n]? = some m → ∃ m', x'.relays[n]? = some m' ∧
    m'.station.relay.session = m.station.relay.session ∧
    m'.station.relay.closed = m.station.relay.closed

lemma Loyal.refl (x : Exchange) : Loyal x x :=
  ⟨rfl, fun {_ m} hm => ⟨m, hm, rfl, rfl⟩⟩

lemma Loyal.trans (h : Loyal x x') (h' : Loyal x' y) : Loyal x y where
  sessions_eq := h'.sessions_eq.trans h.sessions_eq
  member hm := by
    obtain ⟨m₁, hm₁, hs₁, hc₁⟩ := h.member hm
    obtain ⟨m₂, hm₂, hs₂, hc₂⟩ := h'.member hm₁
    exact ⟨m₂, hm₂, hs₂.trans hs₁, hc₂.trans hc₁⟩

lemma Steady.loyal (h : x.Steady x') : Loyal x x' where
  sessions_eq := h.sessions_eq
  member hm := by
    obtain ⟨m', hm', -, hs⟩ := h.member hm
    exact ⟨m', hm', hs.session_eq, hs.closed_eq⟩

lemma loyal_withBroker (h : b.sessions = x.broker.sessions) : Loyal x { x with broker := b } :=
  ⟨h, fun {_ m} hm => ⟨m, hm, rfl, rfl⟩⟩

lemma loyal_put {s : Station} (hm : x.relays[n]? = some m) (hb : b.sessions = x.broker.sessions)
    (hs : s.relay.session = m.station.relay.session)
    (hc : s.relay.closed = m.station.relay.closed) : Loyal x (x.put n s b) where
  sessions_eq := hb
  member {k m₀} hm₀ := by
    by_cases hk : k = n
    · subst hk
      rw [hm, Option.some.injEq] at hm₀
      subst hm₀
      exact ⟨_, put_relays_self hm _ _, hs, hc⟩
    · exact ⟨m₀, by rwa [put_relays_of_ne x n s b hk], rfl, rfl⟩

lemma Staffed.loyal (h : x.Staffed exempt) (hl : Loyal x x') : x'.Staffed exempt := by
  intro session hopen hno
  rw [Broker.isOpen, hl.sessions_eq] at hopen
  obtain ⟨n, m, hm, hsession, hclosed⟩ := h hopen hno
  obtain ⟨m', hm', hs, hc⟩ := hl.member hm
  exact ⟨n, m', hm', hs.trans hsession, hc.trans hclosed⟩

/-! ## Joining -/

lemma declare_sessions (b : Broker) (session : Nat) (queue : String) :
    (b.declare session queue).2.sessions = b.sessions := by
  rcases Broker.declare_cases b session queue with h | ⟨-, -, h⟩ <;> rw [h]
  rfl

lemma beginJoin_sessions (link : Link) (r : Relay) (queue : String) (b : Broker) :
    (r.beginJoin link queue b).2.sessions = b.sessions := by
  unfold Relay.beginJoin
  split
  · rfl
  · split
    · rfl
    · unfold Link.declare
      split
      · rfl
      · exact declare_sessions ..

lemma consume_sessions {session stream : Nat} {queue : String} {mode : AckMode} {b' : Broker}
    (h : b.consume session queue mode = (.ok stream, b')) : b'.sessions = b.sessions := by
  rcases Broker.consume_cases b session queue mode with ⟨e, herr⟩ | ⟨q, -, -, hok⟩
  · rw [herr] at h; cases h
  · rw [hok] at h
    cases h
    rw [Broker.routeAll_sessions]
    rfl

lemma loyal_finishJoin (x : Exchange) (n : Nat) (queue : String) :
    Loyal x (x.finishJoin (.relay n) queue).2 := by
  rcases finishJoin_cases x n queue with heq | ⟨m, stream, b, hm, hconsume, heq⟩
  · rw [heq]; exact .refl x
  · rw [heq]; exact loyal_put hm (consume_sessions hconsume) rfl rfl

lemma loyal_join (hnodes : x.nodes = []) (hc : x.Crewed) (n : Nat) (queue : String) :
    Loyal x (x.join (.relay n) queue).2 := by
  unfold Exchange.join
  split
  · exact .refl x
  · next s _ =>
    have hbegin : Loyal x { x with broker := (s.relay.beginJoin x.link queue x.broker).2 } :=
      loyal_withBroker (beginJoin_sessions ..)
    split
    · next heq => rw [heq] at hbegin; exact hbegin
    · next heq =>
      rw [heq] at hbegin
      split
      · exact hbegin
      · refine hbegin.trans (.trans ?_ (loyal_finishJoin _ n queue))
        exact (pass_turns (by exact hnodes) (by exact hc) x.link.consumeMs).steady.loyal

/-! ## Closing -/

/-- A relay is being closed: from `x` on it has gone on to `y`, where the relay `n` counts as closed but
its session has not ended.  What remains to be done is `y.conclude`. -/
structure Closing (hired : Nat → Nat → Prop) (routed : String → Multiset Bytes) (taken : Nat → List Event) (book : Book)
    (x : Exchange) (n : Nat) (y : Exchange) (m : Member) : Prop where
  leads : Leads hired routed taken book x y
  member : y.relays[n]? = some m
  calm : m.station.mailbox.granted = []
  closed : m.station.relay.closed = true
  isOpen : y.broker.isOpen m.station.relay.session = true
  staffed : y.Staffed (· = m.station.relay.session)
  /-- Meanwhile nobody has taken what those who wait cannot take. -/
  pinned : ∀ {name : String} {u : Unsettled}, x.Pinned name u → y.Pinned name u

lemma Closing.conclude (h : Closing hired routed taken book x n y m) :
    Leads hired routed taken book x (y.conclude n m.station) :=
  h.leads.trans fun _ h' => h'.conclude h.member h.calm h.closed

/-- The end of a session moves messages around, and leaves none with it. -/
lemma Closing.broker (h : Closing hired routed taken book x n y m) (name : String) :
    (y.conclude n m.station).broker.stock name = y.broker.stock name ∧
      (y.conclude n m.station).broker.Within (· ≠ m.station.relay.session) name := by
  obtain ⟨book', ha, -⟩ := h.leads
  obtain ⟨owner, ho⟩ := ha.orderly
  obtain ⟨ho₁, -⟩ := ha.books.stopAll ho h.member h.calm m.station.streams
  obtain ⟨-, hsessions, hstock⟩ := Broker.foldl_dropStream m.station.streams y.broker
  refine ⟨?_, Broker.within_close ?_ name⟩
  · rw [← hstock name]
    exact ho₁.broker.stock_close m.station.relay.session name
  · rw [Broker.isOpen, hsessions]
    exact h.isOpen

lemma Closing.staffed_conclude (h : Closing hired routed taken book x n y m) :
    (y.conclude n m.station).Staffed fun _ => False := by
  intro session hopen _
  obtain ⟨-, hsessions, -⟩ := Broker.foldl_dropStream m.station.streams y.broker
  obtain ⟨hne, hopen⟩ := (Broker.isOpen_close _ _ _).1 hopen
  rw [Broker.isOpen, hsessions] at hopen
  obtain ⟨k, m', hm', hsession, hclosed⟩ := h.staffed hopen hne
  have hk : k ≠ n := by
    rintro rfl
    rw [h.member, Option.some.injEq] at hm'
    subst hm'
    exact hne hsession.symm
  exact ⟨k, m', by rwa [Exchange.conclude, put_relays_of_ne y n _ _ hk], hsession, hclosed⟩

lemma Staffed.mark (h : x.Staffed fun _ => False) (hm : x.relays[n]? = some m) :
    (x.mark n m.station).Staffed (· = m.station.relay.session) := by
  intro session hopen hne
  obtain ⟨k, m', hm', hsession, hclosed⟩ := h hopen id
  have hk : k ≠ n := by
    rintro rfl
    rw [hm, Option.some.injEq] at hm'
    subst hm'
    exact hne hsession.symm
  exact ⟨k, m', by rwa [Exchange.mark, put_relays_of_ne x n _ _ hk], hsession, hclosed⟩

/-- A relay that was just marked. -/
lemma Accounts.closing (h : x.Accounts routed taken book) (hcalm : x.Calm)
    (hstaffed : x.Staffed fun _ => False) (hm : x.relays[n]? = some m)
    (hclosed : m.station.relay.closed = false) :
    Closing hired routed taken book x n (x.mark n m.station)
      { m with station := m.station.markClosed } where
  leads := h.mark hm
  member := put_relays_self hm _ _
  calm := (hcalm hm : m.station.mailbox.granted = [])
  closed := rfl
  isOpen := h.orderly.elim fun _ ho => (ho.fit hm).isOpen hclosed
  staffed := (hstaffed.mark hm : (x.mark n m.station).Staffed (· = m.station.relay.session))
  pinned := pinned_mark hm

/-- While a relay is being closed, other things go on. -/
lemma Closing.onward (h : Closing hired routed taken book x n y m) {m' : Member} {y' : Exchange}
    (hleads : ∀ book', y.Accounts routed taken book' → Leads hired routed taken book' y y')
    (hloyal : Loyal y y')
    (hpinned : ∀ {name : String} {u : Unsettled}, y.Pinned name u → y'.Pinned name u)
    (hm' : y'.relays[n]? = some m') (hcalm : m'.station.mailbox.granted = []) :
    Closing hired routed taken book x n y' m' := by
  obtain ⟨m₁, hm₁, hs₁, hc₁⟩ := hloyal.member h.member
  rw [hm', Option.some.injEq] at hm₁
  subst hm₁
  refine ⟨h.leads.trans hleads, hm', hcalm, hc₁.trans h.closed, ?_, ?_, fun hp => hpinned (h.pinned hp)⟩
  · rw [Broker.isOpen, hloyal.sessions_eq, hs₁]
    exact h.isOpen
  · rw [hs₁]
    exact h.staffed.loyal hloyal

/-- The broker after it gave a stream, if it did, to a relay that was closed meanwhile. -/
def visited (r : Relay) (queue : String) (b : Broker) : Broker :=
  match b.consume r.session queue r.config.ackMode with
  | (.error _, b') => b'
  | (.ok stream, b') => b'.dropStream stream

lemma closeWhileJoining_eq (hm : x.relays[n]? = some m) {queue : String}
    (hy : y = (x.mark n m.station).pass x.link.consumeMs) {m' : Member}
    (hm' : y.relays[n]? = some m') (hclosed : m'.station.relay.closed = true) :
    (x.closeWhileJoining n queue).2.2 =
      (y.put n m'.station (visited m'.station.relay queue y.broker)).conclude n m'.station := by
  have hmark : x.onStation (.relay n) (fun s b => (s.markClosed, b)) = x.mark n m.station := by
    rw [onStation_relay hm]
    rfl
  have hstation : y.station? (.relay n) = some m'.station := by
    rw [station?, hm']
    rfl
  rw [conclude, put_put]
  simp only [Exchange.closeWhileJoining, hmark, ← hy, hstation, visited]
  rcases y.broker.consume m'.station.relay.session queue m'.station.relay.config.ackMode
    with ⟨_ | stream, b⟩
  · simp only [Station.finishClose_eq]
    rfl
  · simp only [Relay.startConsumer, hclosed, if_true, Station.finishClose_eq]
    rfl

lemma visited_sessions (r : Relay) (queue : String) (b : Broker) :
    (visited r queue b).sessions = b.sessions := by
  unfold visited
  rcases Broker.consume_cases b r.session queue r.config.ackMode with ⟨e, heq⟩ | ⟨q, -, -, heq⟩
  · rw [heq]
  · have hsessions := consume_sessions heq
    rw [heq]
    exact hsessions

lemma Accounts.visited (h : x.Accounts routed taken book) (hm : x.relays[n]? = some m)
    (queue : String) :
    Leads hired routed taken book x
      (x.put n m.station (visited m.station.relay queue x.broker)) := by
  obtain ⟨owner, ho⟩ := h.orderly
  rcases Broker.consume_cases x.broker m.station.relay.session queue
    m.station.relay.config.ackMode with ⟨e, heq⟩ | ⟨q, -, -, heq⟩
  · simp only [Exchange.visited, heq, put_self hm]
    exact h.leads_self
  · have hconsume := heq
    rw [(ho.fit hm).manual] at hconsume
    simp only [Exchange.visited, heq]
    rw [(ho.fit hm).manual]
    exact h.visit hm hconsume

lemma Accounts.pinned_visited (h : x.Accounts routed taken book) (hm : x.relays[n]? = some m)
    (queue : String) {name : String} {u : Unsettled} (hp : x.Pinned name u) :
    (x.put n m.station (Exchange.visited m.station.relay queue x.broker)).Pinned name u := by
  obtain ⟨owner, ho⟩ := h.orderly
  rcases hconsume : x.broker.consume m.station.relay.session queue m.station.relay.config.ackMode
    with ⟨e | stream, b⟩
  · rcases Broker.consume_cases x.broker m.station.relay.session queue
      m.station.relay.config.ackMode with ⟨e', heq⟩ | ⟨q, -, -, heq⟩
    · rw [hconsume] at heq
      cases heq
      simpa only [Exchange.visited, hconsume, put_self hm] using hp
    · rw [hconsume] at heq
      cases heq
  · simp only [Exchange.visited, hconsume]
    -- the stream is dropped at once
    have hmade := pinned_consume (s := m.station) hm ho.broker.sound rfl hconsume hp
    exact hmade.modifyStream stream (fun _ => rfl) fun _ => List.nil_subset _

/-- A relay is closed while it waits for a stream.  The stream comes, or does not come, and then the
session ends. -/
lemma Accounts.closeWhileJoining (h : x.Accounts routed taken book) (hcalm : x.Calm)
    (hstaffed : x.Staffed fun _ => False) (hm : x.relays[n]? = some m)
    (hclosed : m.station.relay.closed = false) (queue : String) :
    ∃ y m', Closing hired routed taken book x n y m' ∧
      (x.closeWhileJoining n queue).2.2 = y.conclude n m'.station := by
  have hclosing : Closing hired routed taken book x n _ _ := h.closing hcalm hstaffed hm hclosed
  obtain ⟨book₁, h₁, -⟩ := hclosing.leads
  have hturns := pass_turns h₁.nodes h₁.crewed x.link.consumeMs
  generalize hy : (x.mark n m.station).pass x.link.consumeMs = y at hturns
  obtain ⟨m', hm', -, hs'⟩ := hturns.steady.member hclosing.member
  have hgranted : m'.station.mailbox.granted = [] := by
    have hle := hs'.granted_le
    rw [hclosing.calm] at hle
    exact List.eq_nil_of_length_eq_zero (Nat.le_zero.1 hle)
  -- everything goes on, and then the stream comes
  have hpassed := hclosing.onward (fun _ h' => h'.turns hturns) hturns.steady.loyal
    (h₁.pinned_turns hturns) hm' hgranted
  obtain ⟨book₂, h₂, -⟩ := hpassed.leads
  have hvisited := hpassed.onward (fun _ h' => h'.visited hm' queue)
    (loyal_put hm' (visited_sessions ..) rfl rfl) (h₂.pinned_visited hm' queue)
    (put_relays_self hm' m'.station _) hgranted
  exact ⟨_, _, hvisited, closeWhileJoining_eq hm hy.symm hm' hpassed.closed⟩

/-- A relay of `x` was closed, which leads to `z`; or there is no such relay, or it was closed before. -/
def EndsIn (hired : Nat → Nat → Prop) (routed : String → Multiset Bytes) (taken : Nat → List Event) (book : Book)
    (x : Exchange) (n : Nat) (z : Exchange) : Prop :=
  (∃ y m, Closing hired routed taken book x n y m ∧ z = y.conclude n m.station) ∨
    ((∀ m, x.relays[n]? = some m → m.station.relay.closed = true) ∧
      Leads hired routed taken book x z ∧ z.Staffed fun _ => False)

lemma EndsIn.leads {z : Exchange} (h : EndsIn hired routed taken book x n z) :
    Leads hired routed taken book x z := by
  rcases h with ⟨y, m, hclosing, rfl⟩ | ⟨-, hleads, -⟩
  · exact hclosing.conclude
  · exact hleads

lemma EndsIn.staffed {z : Exchange} (h : EndsIn hired routed taken book x n z) :
    z.Staffed fun _ => False := by
  rcases h with ⟨y, m, hclosing, rfl⟩ | ⟨-, -, hstaffed⟩
  · exact hclosing.staffed_conclude
  · exact hstaffed

/-- Something else happens before the relay is closed. -/
lemma EndsIn.of_leads {z : Exchange} (hleads : Leads hired routed taken book x x') (hloyal : Loyal x x')
    (hpinned : ∀ {name : String} {u : Unsettled}, x.Pinned name u → x'.Pinned name u)
    (h : ∀ book', x'.Accounts routed taken book' → EndsIn hired routed taken book' x' n z) :
    EndsIn hired routed taken book x n z := by
  obtain ⟨book', h', honward⟩ := hleads
  rcases h book' h' with ⟨y, m, hclosing, rfl⟩ | ⟨hclosed, ⟨book'', h'', honward'⟩, hstaffed⟩
  · obtain ⟨book'', h'', honward'⟩ := hclosing.leads
    exact Or.inl ⟨y, m,
      { hclosing with
        leads := ⟨book'', h'', honward.trans honward'⟩
        pinned := fun hp => hclosing.pinned (hpinned hp) }, rfl⟩
  · refine Or.inr ⟨?_, ⟨book'', h'', honward.trans honward'⟩, hstaffed⟩
    intro m hm
    obtain ⟨m', hm', -, hc'⟩ := hloyal.member hm
    exact hc' ▸ hclosed m' hm'

lemma Accounts.close_endsIn (h : x.Accounts routed taken book) (hcalm : x.Calm)
    (hstaffed : x.Staffed fun _ => False) (n : Nat) :
    EndsIn hired routed taken book x n (x.close n).2 := by
  rcases close_cases x n with ⟨heq, hclosed⟩ | ⟨m, hm, hclosed, heq⟩
  · rw [heq]
    exact Or.inr ⟨hclosed, h.leads_self, hstaffed⟩
  · exact Or.inl ⟨_, _, h.closing hcalm hstaffed hm hclosed, heq⟩

lemma Accounts.joinThenClose_endsIn (h : x.Accounts routed taken book) (hcalm : x.Calm)
    (hstaffed : x.Staffed fun _ => False) (n : Nat) (queue : String)
    (hhired : ∀ i, x.Hires (.joinThenClose n queue) n i → hired n i) :
    EndsIn hired routed taken book x n (x.joinThenClose n queue).2.2 := by
  unfold Exchange.joinThenClose
  cases hm : x.relays[n]? with
  | none =>
    simp only [station?, hm, Option.map_none]
    exact Or.inr ⟨by simp [hm], h.leads_self, hstaffed⟩
  | some m =>
    simp only [station?, hm, Option.map_some]
    split
    · next htime =>
      -- the consumer starts at once and has run when the relay is closed
      have hjoin : Leads hired routed taken book x _ := h.join n queue fun s hs hnot i hl => by
        rw [station?, hm, Option.map_some, Option.some.injEq] at hs
        subst hs
        exact hhired i ⟨rfl, by simpa [hnot] using htime, hl⟩
      have hloyal := loyal_join h.nodes h.crewed n queue
      have hpinned := fun {name : String} {u : Unsettled} (hp : x.Pinned name u) =>
        h.pinned_join hp n queue
      generalize x.join (.relay n) queue = joined at hjoin hloyal hpinned ⊢
      refine .of_leads hjoin hloyal hpinned fun _ h₁ => ?_
      have hturns := quiesce_turns h₁.nodes h₁.crewed
      refine .of_leads (h₁.turns hturns) hturns.steady.loyal (h₁.pinned_turns hturns) fun _ h₂ => ?_
      have hclose : EndsIn hired _ _ _ _ n _ := h₂.close_endsIn (quiesce_calm h₁.nodes h₁.crewed)
        ((hstaffed.loyal hloyal).loyal hturns.steady.loyal) n
      generalize joined.2.quiesce.close n = closed at hclose ⊢
      exact hclose
    · have hbegin : Leads hired routed taken book x _ := h.beginJoin m.station.relay queue
      have hloyal : Loyal x
          { x with broker := (m.station.relay.beginJoin x.link queue x.broker).2 } :=
        loyal_withBroker (beginJoin_sessions ..)
      have hpinned := fun {name : String} {u : Unsettled} (hp : x.Pinned name u) =>
        pinned_beginJoin queue m.station.relay hp
      split
      · next e broker heq =>
        rw [heq] at hbegin hloyal hpinned
        refine .of_leads hbegin hloyal hpinned fun _ h₁ => ?_
        have hclose : EndsIn hired _ _ _ _ n _ := h₁.close_endsIn hcalm (hstaffed.loyal hloyal) n
        generalize ({ x with broker } : Exchange).close n = closed at hclose ⊢
        exact hclose
      · next broker heq =>
        -- a closed relay would not have begun to join
        have hopen : m.station.relay.closed = false := by
          cases hclosed : m.station.relay.closed with
          | false => rfl
          | true => simp [Relay.beginJoin, hclosed] at heq
        rw [heq] at hbegin hloyal hpinned
        refine .of_leads hbegin hloyal hpinned fun _ h₁ => Or.inl ?_
        exact h₁.closeWhileJoining hcalm (hstaffed.loyal hloyal) hm hopen queue

/-! ## Publishing -/

lemma route_isSome_iff (b : Broker) (queue : String) (payload : Bytes) (name : String) :
    ((b.route queue payload).queue? name).isSome ↔ (b.queue? name).isSome := by
  cases hq : b.queue? name with
  | none => rw [Broker.route_queue?_eq_none hq]
  | some q =>
    have hsome : (b.queue? name).isSome := by rw [hq]; rfl
    exact iff_of_true (Broker.route_queue?_isSome hsome) rfl

/-- A message arrives and is routed, or something fails and nothing happens. -/
lemma arrive_cases (link : Link) (r : Relay) (queue : String) (payload : Bytes) (b : Broker) :
    (∃ e, r.arrive link queue payload b = (.error e, b)) ∨
      r.arrive link queue payload b = (.ok (), b.route queue payload) := by
  unfold Relay.arrive Broker.publish
  split
  · exact Or.inl ⟨_, rfl⟩
  · split
    · exact Or.inl ⟨_, rfl⟩
    · exact Or.inr rfl

/-- What a relay publishes is routed, unless it cannot be. -/
lemma Accounts.publish (h : x.Accounts routed taken book) (n : Nat) (queue user text : String) :
    Leads hired (fun name => routed name + (sentBy name n queue user text x : List Bytes)) taken book x
        (x.publish n queue user text).2 ∧
      Loyal x (x.publish n queue user text).2 := by
  -- where nothing was sent, nothing has to be added to what was routed
  have hnone : ∀ x', Leads hired routed taken book x x' →
      (∀ name, sentBy name n queue user text x = []) →
      Leads hired (fun name => routed name + (sentBy name n queue user text x : List Bytes)) taken book
        x x' := by
    intro x' hleads hsent
    simpa [hsent] using hleads
  cases hm : x.relays[n]? with
  | none =>
    have hsame : (x.publish n queue user text).2 = x := by simp [Exchange.publish, station?, hm]
    rw [hsame]
    exact ⟨hnone x h.leads_self fun name => by simp [sentBy, station?, hm], .refl x⟩
  | some m =>
    cases hpayload : m.station.relay.payloadOf user text with
    | error e =>
      have hsame : (x.publish n queue user text).2 = x := by
        simp [Exchange.publish, station?, hm, hpayload]
      rw [hsame]
      exact ⟨hnone x h.leads_self fun name => by simp [sentBy, station?, hm, hpayload], .refl x⟩
    | ok payload =>
      -- others run while the message is on its way, so it arrives at a later broker
      have hturns := pass_turns h.nodes h.crewed (m.station.relay.publishDelay x.link)
      generalize hy : x.pass (m.station.relay.publishDelay x.link) = y at hturns
      have hpublish : x.publish n queue user text =
          ((m.station.relay.arrive x.link queue payload y.broker).1,
            { y with broker := (m.station.relay.arrive x.link queue payload y.broker).2 }) := by
        simp only [Exchange.publish, station?, hm, Option.map_some, hpayload, hy]
      rcases arrive_cases x.link m.station.relay queue payload y.broker with ⟨e, heq⟩ | heq
      · rw [heq] at hpublish
        rw [hpublish]
        refine ⟨hnone _ (h.turns hturns) fun name => ?_, hturns.steady.loyal⟩
        simp [sentBy, station?, hm, hpayload, hpublish]
      · rw [heq] at hpublish
        rw [hpublish]
        have hsent : ∀ name, sentBy name n queue user text x =
            if queue = name ∧ (y.broker.queue? name).isSome then [payload] else [] := by
          intro name
          simp only [sentBy, station?, hm, Option.map_some, hpayload, hpublish, route_isSome_iff]
        simp only [hsent]
        refine ⟨(h.turns hturns).trans fun _ h' => h'.route queue payload, ?_⟩
        exact hturns.steady.loyal.trans (loyal_withBroker (Broker.route_sessions _ _ _))

lemma Accounts.publishAll (h : x.Accounts routed taken book) (n : Nat) (queue user : String)
    (texts : List String) (last : Option (Except RelayError Unit)) :
    Leads hired (fun name => routed name + (sentAllBy name n queue user texts x : List Bytes)) taken book x
        (publishAll n queue user texts last x).2 ∧
      Loyal x (publishAll n queue user texts last x).2 := by
  induction texts generalizing x book routed last with
  | nil =>
    simp only [sentAllBy, Exchange.publishAll, Multiset.coe_nil, add_zero]
    exact ⟨h.leads_self, .refl x⟩
  | cons text rest ih =>
    obtain ⟨⟨book₁, h₁, honward₁⟩, hloyal₁⟩ := h.publish n queue user text
    obtain ⟨⟨book₂, h₂, honward₂⟩, hloyal₂⟩ := ih h₁ (some (x.publish n queue user text).1)
    simp only [sentAllBy, Exchange.publishAll, ← Multiset.coe_add, ← add_assoc]
    exact ⟨⟨book₂, h₂, honward₁.trans honward₂⟩, hloyal₁.trans hloyal₂⟩

/-! ## Connecting -/

lemma Accounts.staffed_connect (h : x.Accounts routed taken book)
    (hstaffed : x.Staffed fun _ => False) (config : QueueConfig) (capacity : Nat) :
    (x.connect config capacity).2.Staffed fun _ => False := by
  have hc := connects_link x.link config x.broker
  have hturns := pass_turns (x := { x with broker := (x.link.connect config x.broker).2.2 })
    h.nodes h.crewed (x.link.connect config x.broker).2.1
  have hopened := openSession_eq x config
  generalize ({ x with broker := (x.link.connect config x.broker).2.2 } : Exchange).pass
    (x.link.connect config x.broker).2.1 = y at hturns hopened
  simp only [Exchange.connect, hopened]
  -- a session that was open has its relay still
  have hold : ∀ {session : Nat}, x.broker.isOpen session = true → ∃ (n : Nat) (m : Member),
      y.relays[n]? = some m ∧ m.station.relay.session = session ∧
        m.station.relay.closed = false := by
    intro session hopen
    obtain ⟨n, m, hm, hsession, hclosed⟩ := hstaffed hopen id
    obtain ⟨m', hm', hs, hc'⟩ := hturns.steady.loyal.member hm
    exact ⟨n, m', hm', hs.trans hsession, hc'.trans hclosed⟩
  rcases hc.sessions with ⟨⟨e, herr⟩, hsessions⟩ | ⟨hok, hsessions⟩
  · rw [herr]
    intro session hopen _
    rw [Broker.isOpen, hturns.steady.sessions_eq, hsessions] at hopen
    exact hold hopen
  · rw [hok]
    intro session hopen _
    change y.broker.isOpen session = true at hopen
    rw [Broker.isOpen, hturns.steady.sessions_eq, hsessions, List.getElem?_append] at hopen
    split at hopen
    · obtain ⟨n, m, hm, hrest⟩ := hold hopen
      exact ⟨n, m, enroll_of_some hm, hrest⟩
    · -- the new session is that of the new relay
      next hge =>
      have hlen : session = x.broker.sessions.length := by
        by_contra hne
        rw [List.getElem?_eq_none (by simp; omega)] at hopen
        cases hopen
      refine ⟨y.relays.length, newcomer session config capacity, ?_, rfl, rfl⟩
      rw [hlen]
      exact List.getElem?_concat_length

/-! ## The flag of a dropped relay -/

/-- The exchange in which a relay is noted as dropped. -/
def noteDropped (x : Exchange) (n : Nat) : Exchange :=
  { x with relays := x.relays.modify n fun m => { m with dropped := true } }

lemma noteDropped_relays (x : Exchange) (n k : Nat) :
    (x.noteDropped n).relays[k]? =
      x.relays[k]?.map fun m => if n = k then { m with dropped := true } else m := by
  rw [noteDropped, List.getElem?_modify]
  rfl

lemma noteDropped_of_some (n : Nat) (hm : x.relays[k]? = some m) :
    ∃ m', (x.noteDropped n).relays[k]? = some m' ∧ m'.station = m.station := by
  rw [noteDropped_relays, hm]
  refine ⟨_, rfl, ?_⟩
  split <;> rfl

lemma noteDropped_cases {m' : Member} (h : (x.noteDropped n).relays[k]? = some m') :
    ∃ m, x.relays[k]? = some m ∧ m'.station = m.station := by
  rw [noteDropped_relays] at h
  obtain ⟨m, hm, rfl⟩ := Option.map_eq_some_iff.1 h
  refine ⟨m, hm, ?_⟩
  split <;> rfl

lemma noteDropped_elim {α : Type} (f : Station → List α) (n k : Nat) :
    (x.noteDropped n).relays[k]?.elim [] (fun m => f m.station) =
      x.relays[k]?.elim [] fun m => f m.station := by
  rw [noteDropped_relays]
  cases x.relays[k]? with
  | none => rfl
  | some m => by_cases hk : n = k <;> simp [hk]

lemma live_noteDropped : (x.noteDropped n).Live k i ↔ x.Live k i := by
  constructor
  · rintro ⟨m', hm', hc⟩
    obtain ⟨m, hm, heq⟩ := noteDropped_cases hm'
    exact ⟨m, hm, heq ▸ hc⟩
  · rintro ⟨m, hm, hc⟩
    obtain ⟨m', hm', heq⟩ := noteDropped_of_some n hm
    exact ⟨m', hm', by rwa [heq]⟩

lemma Accounts.noteDropped (h : x.Accounts routed taken book) (n : Nat) :
    Leads hired routed taken book x (x.noteDropped n) := by
  obtain ⟨owner, ho⟩ := h.orderly
  refine ⟨book, ⟨⟨owner, ho.nodes, ho.broker.mono ?_, ?_, ?_⟩, ?_⟩, .refl _, ?_, ?_, fun _ => Or.inl⟩
  · rintro i ⟨k, hk⟩
    exact ⟨k, live_noteDropped.2 hk⟩
  · intro k m' hm'
    obtain ⟨m, hm, heq⟩ := noteDropped_cases hm'
    rw [heq]
    exact ho.fit hm
  · intro k l m₁' m₂' hm₁' hm₂' hne
    obtain ⟨m₁, hm₁, heq₁⟩ := noteDropped_cases hm₁'
    obtain ⟨m₂, hm₂, heq₂⟩ := noteDropped_cases hm₂'
    rw [heq₁, heq₂]
    exact ho.apart hm₁ hm₂ hne
  · exact h.books.congr (fun _ => rfl) (noteDropped_elim (·.mailbox.posted) n)
      (noteDropped_elim (fun s => s.mailbox.granted ++ s.mailbox.waiting) n) id
      fun hl => Or.inl (live_noteDropped.1 hl)
  · intro k m hm
    obtain ⟨m', hm', heq⟩ := noteDropped_of_some n hm
    exact ⟨m', hm', by rw [heq], by rw [heq]; exact id, by rw [heq]; exact id⟩
  · intro k i hl
    exact Or.inl (live_noteDropped.1 hl)

lemma loyal_noteDropped (x : Exchange) (n : Nat) : Loyal x (x.noteDropped n) where
  sessions_eq := rfl
  member hm := by
    obtain ⟨m', hm', heq⟩ := noteDropped_of_some n hm
    exact ⟨m', hm', by rw [heq], by rw [heq]⟩

/-! ## All commands -/

lemma loyal_onStation {f : Station → Broker → Station × Broker}
    (hsession : ∀ s b, (f s b).1.relay.session = s.relay.session)
    (hclosed : ∀ s b, (f s b).1.relay.closed = s.relay.closed)
    (hsessions : ∀ s b, (f s b).2.sessions = b.sessions) (x : Exchange) (n : Nat) :
    Loyal x (x.onStation (.relay n) f) := by
  cases hm : x.relays[n]? with
  | none => rw [onStation_of_none hm]; exact .refl x
  | some m =>
    rw [onStation_relay hm]
    exact loyal_put hm (hsessions _ _) (hsession _ _) (hclosed _ _)

lemma loyal_breakStream (hnodes : x.nodes = []) (i : Nat) : Loyal x (x.breakStream i) := by
  rw [breakStream_eq hnodes]
  generalize List.range x.relays.length = ns
  clear hnodes
  induction ns generalizing x with
  | nil => exact .refl x
  | cons n rest ih =>
    rw [List.foldl_cons]
    exact (loyal_onStation (f := fun s b => (s.breakStream i, b)) (fun _ _ => rfl)
      (fun _ _ => rfl) (fun _ _ => rfl) x n).trans ih

lemma loyal_takeEvents (x : Exchange) (n : Nat) (limit : Option Nat) :
    Loyal x (x.takeEvents (.relay n) limit).2 := by
  unfold Exchange.takeEvents
  cases hm : x.relays[n]? with
  | none => simp only [station?, hm, Option.map_none]; exact .refl x
  | some m =>
    simp only [station?, hm, Option.map_some]
    exact loyal_put (s := { m.station with mailbox := (m.station.mailbox.take limit).2 }) hm rfl rfl rfl

lemma loyal_discardMailbox (x : Exchange) (n : Nat) : Loyal x (x.discardMailbox (.relay n)) := by
  refine loyal_onStation ?_ ?_ ?_ x n
  · intro s b
    rw [Station.discardMailbox_eq]
    rfl
  · intro s b
    rw [Station.discardMailbox_eq]
    rfl
  · intro s b
    rw [Station.discardMailbox_eq]
    exact (Broker.foldl_dropStream _ b).2.1

lemma control_sessions (b : Broker) (c : Broker.Control) : (b.control c).2.sessions = b.sessions := by
  cases c with
  | inject queue payload => exact Broker.route_sessions b queue payload
  | stats queue =>
    simp only [Broker.control, Broker.stats]
    split <;> rfl
  | openSessions => rfl
  | refuseConnects => rfl
  | refuseChannel => rfl

lemma Accounts.control (h : x.Accounts routed taken book) (c : Broker.Control) :
    Leads hired (fun name => routed name + (routedBy name x (.control c) : List Bytes)) taken book x
      { x with broker := (x.broker.control c).2 } := by
  cases c with
  | inject queue payload => exact h.route queue payload
  | stats queue => exact (h.stats queue).congr (by simp [routedBy]) fun _ => rfl
  | openSessions => exact h.leads_self.congr (by simp [routedBy]) fun _ => rfl
  | refuseConnects n =>
    exact (h.arrange (b := x.broker.refuseConnects n) rfl rfl rfl).congr (by simp [routedBy])
      fun _ => rfl
  | refuseChannel =>
    exact (h.arrange (b := x.broker.refuseChannel) rfl rfl rfl).congr (by simp [routedBy])
      fun _ => rfl

/-- **Every command that has to do with relays can be entered in the book.** -/
lemma Accounts.act (h : x.Accounts routed taken book) (hcalm : x.Calm)
    (hstaffed : x.Staffed fun _ => False) {c : Command} (hc : c.forRelays = true) :
    Leads (x.Hires c) (fun name => routed name + (routedBy name x c : List Bytes))
        (fun n => taken n ++ takenBy n x c) book x (x.act c).2 ∧
      (x.act c).2.Staffed fun _ => False := by
  cases c with
  | connect config capacity =>
    have hmanual : config.ackMode = .manual := by simpa [Command.forRelays] using hc
    have hconnect : Leads (x.Hires (.connect config capacity)) routed taken book x _ :=
      h.connect capacity hmanual
    have hstaffed' := h.staffed_connect hstaffed config capacity
    have hact : (x.act (.connect config capacity)).2 = (x.connect config capacity).2 := by
      simp only [Exchange.act]
      split <;> simp_all
    rw [hact]
    exact ⟨hconnect.congr (by simp [routedBy]) (by simp [takenBy]), hstaffed'⟩
  | join n queue =>
    exact ⟨(h.join n queue fun _ _ _ i hl => ⟨rfl, hl⟩).congr (by simp [routedBy]) (by simp [takenBy]),
      hstaffed.loyal (loyal_join h.nodes h.crewed n queue)⟩
  | publish n queue user texts =>
    obtain ⟨hleads, hloyal⟩ := h.publishAll n queue user texts none
    exact ⟨hleads.congr (by simp [routedBy]) (by simp [takenBy]), hstaffed.loyal hloyal⟩
  | close n =>
    have hends : EndsIn (x.Hires (.close n)) _ _ _ _ n _ := h.close_endsIn hcalm hstaffed n
    exact ⟨hends.leads.congr (by simp [routedBy]) (by simp [takenBy]), hends.staffed⟩
  | joinThenClose n queue =>
    have hends := h.joinThenClose_endsIn hcalm hstaffed n queue fun _ => id
    exact ⟨hends.leads.congr (by simp [routedBy]) (by simp [takenBy]), hends.staffed⟩
  | drop n =>
    have hends : EndsIn (x.Hires (.drop n)) _ _ _ _ n _ := h.close_endsIn hcalm hstaffed n
    have hleads := hends.leads.trans fun _ h' => h'.noteDropped n
    exact ⟨hleads.congr (by simp [routedBy]) (by simp [takenBy]),
      hends.staffed.loyal (loyal_noteDropped _ n)⟩
  | breakStream i =>
    obtain ⟨h', honward⟩ := h.breakStream i
    exact ⟨Leads.congr ⟨book, h', honward⟩ (by simp [routedBy]) (by simp [takenBy]),
      hstaffed.loyal (loyal_breakStream h.nodes i)⟩
  | takeEvents seat limit =>
    cases seat with
    | node => cases hc
    | relay n =>
      exact ⟨(h.takeEvents n limit).congr (by simp [routedBy]) (by simp [takenBy, takenWith]),
        hstaffed.loyal (loyal_takeEvents x n limit)⟩
  | discardMailbox seat =>
    cases seat with
    | node => cases hc
    | relay n =>
      exact ⟨(h.discardMailbox hcalm n).congr (by simp [routedBy]) (by simp [takenBy, takenWith]),
        hstaffed.loyal (loyal_discardMailbox x n)⟩
  | control c =>
    exact ⟨(h.control c).congr (fun _ => rfl) (by simp [takenBy]),
      hstaffed.loyal (loyal_withBroker (control_sessions _ c))⟩
  | newNode | takeReceiver | start | burst | status | request | submit | shutdown | dropNode | peerCalls
  | peerAnswers => cases hc

end MessageRelay.Exchange
