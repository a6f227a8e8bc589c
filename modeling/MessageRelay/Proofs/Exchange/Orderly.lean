import MessageRelay.Proofs.Broker.Upkeep
import MessageRelay.Proofs.Exchange.Turn

/-!
# Relays and their broker fit together

`Orderly` says what holds of an exchange of relays whenever one of them, or the broker, has finished
something: the broker is in order, every consumer listens to a stream of its relay's session, whoever
waits for a place in a mailbox is a consumer of its relay, and relays have sessions of their own.  Every
turn keeps it (`Orderly.turn`), and so does everything that can be asked of a relay.
-/

namespace MessageRelay

/-! ## One relay -/

/-- A relay and its mailbox fit to a broker, when `owner` says which session a stream belongs to. -/
structure Station.Fit (owner : Nat → Nat) (b : Broker) (s : Station) : Prop where
  session_lt : s.relay.session < b.sessions.length
  /-- The session of a relay is open until the relay is closed. -/
  isOpen : s.relay.closed = false → b.isOpen s.relay.session = true
  manual : s.relay.config.ackMode = .manual
  /-- Consumers listen to streams of the session, which is open. -/
  crew : ∀ c ∈ s.relay.consumers, owner c.stream = s.relay.session ∧
    c.stream < b.streams.length ∧ b.isOpen s.relay.session = true
  nodup : (s.relay.consumers.map (·.stream)).Nodup
  /-- Those who wait for a place, or were given one, are consumers. -/
  senders : ∀ e ∈ s.mailbox.granted ++ s.mailbox.waiting, ∃ c ∈ s.relay.consumers,
    e.1 = .consumer c.stream
  /-- Who waits does so because the mailbox is full. -/
  full : s.mailbox.waiting ≠ [] → s.mailbox.room = 0
  /-- Nobody waits at a mailbox that was thrown away. -/
  deserted : s.mailbox.kept = false → s.mailbox.granted = [] ∧ s.mailbox.waiting = []

namespace Station.Fit

variable {s : Station} {b b' : Broker} {owner owner' : Nat → Nat} {c : Consumer} {event : Event}

/-- A relay fits to a later state of its broker in which its session is still open. -/
lemma later (h : s.Fit owner b) (hs : b.sessions.length ≤ b'.sessions.length)
    (hl : b.streams.length ≤ b'.streams.length)
    (ho : b.isOpen s.relay.session = true → b'.isOpen s.relay.session = true)
    (howner : ∀ i < b.streams.length, owner' i = owner i) : s.Fit owner' b' :=
  { h with
    session_lt := Nat.lt_of_lt_of_le h.session_lt hs
    isOpen := fun hc => ho (h.isOpen hc)
    crew := fun c hc => by
      obtain ⟨hown, hlt, hopen⟩ := h.crew c hc
      exact ⟨by rw [howner _ hlt, hown], Nat.lt_of_lt_of_le hlt hl, ho hopen⟩ }

lemma congr_broker (h : s.Fit owner b) (hs : b'.sessions = b.sessions)
    (hl : b.streams.length ≤ b'.streams.length) : s.Fit owner b' :=
  h.later (Nat.le_of_eq (by rw [hs])) hl (fun ho => by rwa [Broker.isOpen, hs]) fun _ _ => rfl

/-- A mailbox in which nobody else waits, and no room was made. -/
lemma withMailbox {m : Mailbox} (h : s.Fit owner b)
    (hsenders : ∀ e ∈ m.granted ++ m.waiting, ∃ c ∈ s.relay.consumers, e.1 = .consumer c.stream)
    (hfull : m.waiting ≠ [] → m.room = 0)
    (hdeserted : m.kept = false → m.granted = [] ∧ m.waiting = []) :
    ({ s with mailbox := m } : Station).Fit owner b :=
  { h with senders := hsenders, full := hfull, deserted := hdeserted }

lemma post (h : s.Fit owner b) : ({ s with mailbox := s.mailbox.put event } : Station).Fit owner b := by
  refine h.withMailbox h.senders ?_ h.deserted
  intro hw
  have hroom := h.full hw
  simp only [Mailbox.room, Mailbox.put, List.length_append] at hroom ⊢
  omega

lemma wait (h : s.Fit owner b) (hc : c ∈ s.relay.consumers) (hkept : s.mailbox.kept = true)
    (hroom : s.mailbox.room = 0) :
    ({ s with mailbox :=
        { s.mailbox with waiting := s.mailbox.waiting ++ [(.consumer c.stream, event)] } } :
      Station).Fit owner b := by
  refine h.withMailbox ?_ (fun _ => hroom) ?_
  · intro e he
    rw [← List.append_assoc, List.mem_append, List.mem_singleton] at he
    rcases he with he | rfl
    · exact h.senders e he
    · exact ⟨c, hc, rfl⟩
  · intro hgone
    cases hkept.symm.trans hgone

lemma grant (h : s.Fit owner b) {sender : Sender} {m : Mailbox}
    (hg : s.mailbox.useGrant = some (sender, m)) :
    ({ s with mailbox := m } : Station).Fit owner b := by
  obtain ⟨event, rest, hgranted, rfl⟩ := Mailbox.useGrant_eq_some hg
  refine h.withMailbox ?_ ?_ ?_
  · intro e he
    refine h.senders e ?_
    rw [hgranted, List.cons_append]
    exact List.mem_cons_of_mem _ he
  · -- the place that was given is now taken, so there is as much room as before
    intro hw
    have hroom := h.full hw
    simp only [Mailbox.room, Mailbox.put, List.length_append, hgranted, List.length_cons] at hroom ⊢
    simp only [List.length_nil]
    omega
  · intro hgone
    cases hgranted.symm.trans (h.deserted hgone).1

lemma take (h : s.Fit owner b) (limit : Option Nat) :
    ({ s with mailbox := (s.mailbox.take limit).2 } : Station).Fit owner b := by
  refine h.withMailbox ?_ ?_ ?_
  · intro e he
    refine h.senders e ?_
    simpa only [Mailbox.take, Mailbox.grant, List.append_assoc, List.take_append_drop] using he
  · -- if somebody still waits, all the room that there was has been given away
    intro hw
    simp only [Mailbox.take, Mailbox.grant, Mailbox.room, ne_eq, List.drop_eq_nil_iff, Nat.not_le]
      at hw
    simp only [Mailbox.take, Mailbox.grant, Mailbox.room, List.length_append, List.length_take]
    omega
  · intro hgone
    obtain ⟨hg, hw⟩ := h.deserted hgone
    simp [Mailbox.take, Mailbox.grant, hg, hw]

/-- A consumer may stop when nobody has a place that he has not used, or when it has nothing in
hand. -/
lemma stop (h : s.Fit owner b) {i : Nat}
    (hfree : s.mailbox.granted = [] ∨ s.mailbox.holds (.consumer i) = false) :
    (s.without i).Fit owner b where
  session_lt := h.session_lt
  isOpen := h.isOpen
  manual := h.manual
  crew c hc := h.crew c (List.mem_filter.1 hc).1
  nodup := h.nodup.sublist (List.filter_sublist.map _)
  senders e he := by
    simp only [without, Mailbox.forget, ← List.filter_append, List.mem_filter] at he
    obtain ⟨c, hc, heq⟩ := h.senders e he.1
    refine ⟨c, List.mem_filter.2 ⟨hc, ?_⟩, heq⟩
    simpa [heq] using he.2
  full hw := by
    have hne : s.mailbox.waiting ≠ [] := by
      intro hnil
      simp [without, Mailbox.forget, hnil] at hw
    -- no place is set free, or the others that wait would have to get it
    have hgranted : (s.mailbox.granted.filter (·.1 != .consumer i)) = s.mailbox.granted := by
      rcases hfree with hnil | hfree
      · rw [hnil]; rfl
      · apply List.filter_eq_self.2
        intro e he
        simp only [Mailbox.holds, List.any_append, Bool.or_eq_false_iff, List.any_eq_false] at hfree
        simpa using hfree.2 e he
    have hroom := h.full hne
    simpa [without, Mailbox.forget, Mailbox.room, hgranted] using hroom
  deserted hgone := by
    obtain ⟨hg, hw⟩ := h.deserted hgone
    simp [without, Mailbox.forget, hg, hw]

end Station.Fit

/-! ## The exchange -/

namespace Exchange

variable {x x' : Exchange} {owner owner' : Nat → Nat} {n k i j : Nat} {m : Member}
  {s : Station} {b : Broker} {c : Consumer}

/-- A relay has a consumer of the given stream that has not stopped. -/
def Live (x : Exchange) (n i : Nat) : Prop :=
  ∃ m, x.relays[n]? = some m ∧ ∃ c ∈ m.station.relay.consumers, c.stream = i

/-- The relays of an exchange and its broker fit together, when `owner` says which session a stream
belongs to. -/
structure Orderly (owner : Nat → Nat) (x : Exchange) : Prop where
  nodes : x.nodes = []
  broker : x.broker.InOrder owner fun i => ∃ n, x.Live n i
  fit : ∀ {n : Nat} {m : Member}, x.relays[n]? = some m → m.station.Fit owner x.broker
  /-- No two relays have the same session. -/
  apart : ∀ {n k : Nat} {m m' : Member}, x.relays[n]? = some m → x.relays[k]? = some m' → n ≠ k →
    m.station.relay.session ≠ m'.station.relay.session

lemma Orderly.crewed (h : x.Orderly owner) : x.Crewed :=
  fun _ _ hm => (h.fit hm).nodup

lemma live_put_self (hm : x.relays[n]? = some m) :
    (x.put n s b).Live n i ↔ ∃ c ∈ s.relay.consumers, c.stream = i := by
  unfold Live
  rw [put_relays_self hm]
  constructor
  · rintro ⟨m', heq, hc⟩
    cases heq
    exact hc
  · intro hc
    exact ⟨_, rfl, hc⟩

lemma live_put_of_ne (h : k ≠ n) : (x.put n s b).Live k i ↔ x.Live k i := by
  unfold Live
  rw [put_relays_of_ne x n s b h]

/-- A relay that keeps its consumers. -/
lemma live_put_iff (hm : x.relays[n]? = some m)
    (hsame : s.relay.consumers.map (·.stream) = m.station.relay.consumers.map (·.stream)) :
    (x.put n s b).Live k i ↔ x.Live k i := by
  by_cases hk : k = n
  · subst hk
    have hmap : ∀ l : List Consumer, (∃ c ∈ l, c.stream = i) ↔ i ∈ l.map (·.stream) := by
      intro l
      rw [List.mem_map]
    have hself := live_put_self (s := m.station) (b := x.broker) (i := i) hm
    rw [put_self hm] at hself
    rw [live_put_self hm, hself, hmap, hmap, hsame]
  · exact live_put_of_ne hk

/-- A relay that loses one consumer. -/
lemma live_put_without (hm : x.relays[n]? = some m) :
    (x.put n (m.station.without i) b).Live k j ↔ x.Live k j ∧ ¬ (k = n ∧ j = i) := by
  by_cases hk : k = n
  · subst hk
    rw [live_put_self hm]
    constructor
    · rintro ⟨c, hc, rfl⟩
      obtain ⟨hc, hne⟩ := List.mem_filter.1 hc
      exact ⟨⟨m, hm, c, hc, rfl⟩, by simpa using hne⟩
    · rintro ⟨⟨m', hm', c, hc, rfl⟩, hne⟩
      rw [hm, Option.some.injEq] at hm'
      subst hm'
      exact ⟨c, List.mem_filter.2 ⟨hc, by simpa using hne⟩, rfl⟩
  · rw [live_put_of_ne hk]
    simp [hk]

/-- One relay and the broker change, and the others fit to the new broker. -/
lemma Orderly.put (h : x.Orderly owner) (hm : x.relays[n]? = some m)
    (hb : b.InOrder owner' fun i => ∃ k, (x.put n s b).Live k i) (hs : s.Fit owner' b)
    (hsame : s.relay.session = m.station.relay.session)
    (hother : ∀ {s₀ : Station}, s₀.Fit owner x.broker →
      s₀.relay.session ≠ m.station.relay.session → s₀.Fit owner' b) :
    (x.put n s b).Orderly owner' where
  nodes := h.nodes
  broker := hb
  fit {k m'} hm' := by
    obtain ⟨m₀, hm₀, ⟨rfl, rfl⟩ | ⟨hk, rfl⟩⟩ := put_relays_cases hm'
    · exact hs
    · exact hother (h.fit hm₀) (h.apart hm₀ hm hk)
  apart {k l m₁ m₂} h₁ h₂ hkl := by
    obtain ⟨m₁', hm₁, hcase₁⟩ := put_relays_cases h₁
    obtain ⟨m₂', hm₂, hcase₂⟩ := put_relays_cases h₂
    have hold := h.apart hm₁ hm₂ hkl
    -- neither relay has changed its session
    have hsession : ∀ {k : Nat} {m' m₀ : Member}, x.relays[k]? = some m₀ →
        (k = n ∧ m' = { m₀ with station := s } ∨ k ≠ n ∧ m' = m₀) →
        m'.station.relay.session = m₀.station.relay.session := by
      rintro k m' m₀ hm₀ (⟨rfl, rfl⟩ | ⟨-, rfl⟩)
      · rw [hm, Option.some.injEq] at hm₀
        rw [← hm₀]
        exact hsame
      · rfl
    rwa [hsession hm₁ hcase₁, hsession hm₂ hcase₂]

/-- The same, when the broker keeps its sessions. -/
lemma Orderly.put_of_sessions_eq (h : x.Orderly owner) (hm : x.relays[n]? = some m)
    (hb : b.InOrder owner fun i => ∃ k, (x.put n s b).Live k i) (hs : s.Fit owner b)
    (hsame : s.relay.session = m.station.relay.session) (hsessions : b.sessions = x.broker.sessions)
    (hlen : x.broker.streams.length ≤ b.streams.length) : (x.put n s b).Orderly owner :=
  h.put hm hb hs hsame fun hfit _ => hfit.congr_broker hsessions hlen

/-- Only the broker changes. -/
lemma Orderly.withBroker (h : x.Orderly owner)
    (hb : b.InOrder owner fun i => ∃ n, x.Live n i)
    (hother : ∀ {s : Station}, s.Fit owner x.broker → s.Fit owner b) :
    ({ x with broker := b } : Exchange).Orderly owner where
  nodes := h.nodes
  broker := hb
  fit hm := hother (h.fit hm)
  apart hm hm' hne := h.apart hm hm' hne

/-! ## Turns -/

/-- Only a mailbox changes. -/
lemma Orderly.withMailbox (h : x.Orderly owner) (hm : x.relays[n]? = some m) {mailbox : Mailbox}
    (hfit : ({ m.station with mailbox } : Station).Fit owner x.broker) :
    (x.put n { m.station with mailbox } x.broker).Orderly owner := by
  refine h.put_of_sessions_eq hm (h.broker.mono ?_) hfit rfl rfl (Nat.le_refl _)
  rintro i ⟨k, hk⟩
  exact ⟨k, (live_put_iff hm (by rfl)).2 hk⟩

/-- A consumer takes a message and settles it. -/
lemma Orderly.serve (h : x.Orderly owner) (hm : x.relays[n]? = some m)
    (hc : c ∈ m.station.relay.consumers) {d : Delivery} {b' : Broker}
    (hpoll : x.broker.poll c.stream = (.delivery d, b')) :
    (x.put n m.station (Relay.settle b' d).2).Orderly owner ∧
      x.broker.Onward (Relay.settle b' d).2 ∧ x.broker.GivenFor c.stream d.queue ∧
      ∀ name, (Relay.settle b' d).2.stock name + (if name = d.queue then {d.payload} else 0) =
        x.broker.stock name := by
  obtain ⟨hown, -, hopen⟩ := (h.fit hm).crew c hc
  obtain ⟨hin, honward, hsessions, hstock⟩ :=
    h.broker.serve (by rwa [hown]) hpoll (Relay.eventOf d.payload).2
  refine ⟨?_, honward, Broker.given_of_poll hpoll, hstock⟩
  refine h.put_of_sessions_eq hm (hin.mono ?_) ((h.fit hm).congr_broker hsessions honward.streams_le)
    rfl hsessions honward.streams_le
  rintro i ⟨k, hk⟩
  exact ⟨k, (live_put_iff hm rfl).2 hk⟩

/-- A consumer stops. -/
lemma Orderly.stop (h : x.Orderly owner) (hm : x.relays[n]? = some m)
    (hfree : m.station.mailbox.granted = [] ∨ m.station.mailbox.holds (.consumer i) = false) :
    (x.put n (m.station.without i) (x.broker.dropStream i)).Orderly owner := by
  refine h.put_of_sessions_eq hm ((h.broker.dropStream i).mono ?_) ?_ rfl rfl
    (Broker.onward_dropStream _ i).streams_le
  · rintro j ⟨⟨k, hk⟩, hne⟩
    exact ⟨k, (live_put_without hm).2 ⟨hk, fun heq => hne heq.2⟩⟩
  · exact ((h.fit hm).stop hfree).congr_broker rfl (Broker.onward_dropStream _ i).streams_le

/-- **Turns keep relays and broker in order.** -/
lemma Orderly.turn (h : x.Orderly owner) (ht : Turn x x') : x'.Orderly owner := by
  cases ht with
  | @station n m _ _ hm hturn =>
    cases hturn with
    | @post _ _ b' c d _ hc _ _ hpoll hoffer =>
      obtain ⟨-, -, rfl⟩ := Mailbox.offer_eq_posted hoffer
      have hserved := (h.serve hm hc hpoll).1
      have hm' := put_relays_self hm m.station (Relay.settle b' d).2
      rw [← put_put x n m.station (Relay.settle b' d).2]
      exact hserved.withMailbox hm' (hserved.fit hm').post
    | @wait _ _ b' c d _ hc _ _ hpoll hoffer =>
      obtain ⟨hkept, hroom, rfl⟩ := Mailbox.offer_eq_waits hoffer
      have hserved := (h.serve hm hc hpoll).1
      have hm' := put_relays_self hm m.station (Relay.settle b' d).2
      rw [← put_put x n m.station (Relay.settle b' d).2]
      exact hserved.withMailbox hm' ((hserved.fit hm').wait hc hkept hroom)
    | @refuse _ _ b' c d hc _ hfree hpoll _ =>
      have hserved := (h.serve hm hc hpoll).1
      have hm' := put_relays_self hm m.station (Relay.settle b' d).2
      rw [← put_put x n m.station (Relay.settle b' d).2]
      exact hserved.stop hm' (Or.inr hfree)
    | stop hc hfree => exact h.stop hm (Or.inr hfree)
  | grant hm hg => exact h.withMailbox hm ((h.fit hm).grant hg)
  | tick time => exact ⟨h.nodes, h.broker, h.fit, h.apart⟩

/-! ## What can be asked of a relay -/

/-- A relay counts as closed; its consumers have not stopped yet. -/
lemma Orderly.markClosed (h : x.Orderly owner) (hm : x.relays[n]? = some m) :
    (x.put n m.station.markClosed x.broker).Orderly owner := by
  have hfit := h.fit hm
  refine h.put_of_sessions_eq hm (h.broker.mono ?_) ?_ rfl rfl (Nat.le_refl _)
  · rintro i ⟨k, hk⟩
    exact ⟨k, (live_put_iff hm (by rfl)).2 hk⟩
  · exact { hfit with isOpen := fun hc => by cases hc }

/-- The session of a relay without consumers ends. -/
lemma Orderly.endSession (h : x.Orderly owner) (hm : x.relays[n]? = some m)
    (hclosed : m.station.relay.closed = true) (hnone : m.station.relay.consumers = []) :
    (x.put n m.station (x.broker.close m.station.relay.session)).Orderly owner := by
  have hfit := h.fit hm
  have hlen := Broker.length_close_sessions x.broker m.station.relay.session
  have honward := h.broker.onward_close m.station.relay.session
  refine h.put hm ((h.broker.close _).mono ?_) ?_ rfl ?_
  · rintro i ⟨k, hk⟩
    exact ⟨k, (live_put_iff hm rfl).2 hk⟩
  · exact
      { hfit with
        session_lt := by rw [hlen]; exact hfit.session_lt
        isOpen := fun hc => by cases hclosed.symm.trans hc
        crew := fun c hc => by rw [hnone] at hc; cases hc }
  · intro s₀ hfit₀ hne
    exact hfit₀.later honward.sessions_le honward.streams_le
      (fun ho => (Broker.isOpen_close _ _ _).2 ⟨hne, ho⟩) fun _ _ => rfl

/-- A consumer starts on a new stream. -/
lemma Orderly.start (h : x.Orderly owner) (hm : x.relays[n]? = some m) {queue : String} {stream : Nat}
    (hconsume : x.broker.consume m.station.relay.session queue .manual = (.ok stream, b)) :
    (x.put n { m.station with relay := { m.station.relay with
        consumers := m.station.relay.consumers ++ [{ queue, stream }] } } b).Orderly
      (Function.update owner stream m.station.relay.session) := by
  obtain ⟨rfl, hopen, hlen, hsessions, honward, hin, -⟩ := h.broker.consume hconsume
  have hold : ∀ i < x.broker.streams.length,
      Function.update owner x.broker.streams.length m.station.relay.session i = owner i :=
    fun i hi => Function.update_of_ne (Nat.ne_of_lt hi) _ _
  have hkeep : ∀ {s₀ : Station}, s₀.Fit owner x.broker →
      s₀.Fit (Function.update owner x.broker.streams.length m.station.relay.session) b :=
    fun hfit₀ => hfit₀.later honward.sessions_le honward.streams_le
      (fun ho => by rwa [Broker.isOpen, hsessions]) hold
  have hfit := hkeep (h.fit hm)
  refine h.put hm (hin.mono ?_) ?_ rfl fun hfit₀ _ => hkeep hfit₀
  · rintro i (⟨k, hk⟩ | rfl)
    · by_cases hkn : k = n
      · subst hkn
        obtain ⟨m', hm', c, hc, rfl⟩ := hk
        rw [hm, Option.some.injEq] at hm'
        subst hm'
        exact ⟨k, (live_put_self hm).2 ⟨c, List.mem_append_left _ hc, rfl⟩⟩
      · exact ⟨k, (live_put_of_ne hkn).2 hk⟩
    · exact ⟨n, (live_put_self hm).2 ⟨_, List.mem_append_right _ (List.mem_singleton.2 rfl), rfl⟩⟩
  · exact
      { hfit with
        crew := by
          intro c hc
          rcases List.mem_append.1 hc with hc | hc
          · exact hfit.crew c hc
          · rw [List.mem_singleton.1 hc]
            refine ⟨by simp, by rw [hlen]; exact Nat.lt_succ_self _, ?_⟩
            rw [Broker.isOpen, hsessions]
            exact hopen
        nodup := by
          -- the stream is new
          rw [List.map_append, List.map_cons, List.map_nil, ← List.concat_eq_append,
            List.nodup_concat]
          refine ⟨?_, hfit.nodup⟩
          intro hmem
          obtain ⟨c, hc, heq⟩ := List.mem_map.1 hmem
          exact Nat.ne_of_lt ((h.fit hm).crew c hc).2.1 heq
        senders := fun e he => by
          obtain ⟨c, hc, heq⟩ := hfit.senders e he
          exact ⟨c, List.mem_append_left _ hc, heq⟩ }

end Exchange

end MessageRelay
