import MessageRelay.Proofs.Exchange.Accounting
import MessageRelay.Proofs.Exchange.Rest

/-!
# Relays account for every message

Several relays share one broker; they are connected, join queues, publish, are closed or dropped, their
streams break, and their users take events, take none for a while, or throw the mailbox away.  Whatever
is done and in whatever order, each message that was brought to a queue is in exactly one place: with the
queue, or posted once to one relay, or in the hand of a consumer that waits for a place in a full mailbox,
or lost with a consumer that was let go.  The last two concern one message for each consumer at most.

A consumer settles a message before it posts it, so what it has in hand when it is stopped cannot come
back.  But all that it has not yet taken can: it stays unsettled until the relay is closed, and is then
brought to the queue again.  The main result is `relays_accountable`.
-/

namespace MessageRelay.Exchange

/-! ## What the main result says -/

/-- A message is handed over and not settled, and no consumer that has not stopped has it in its
stream. -/
structure LeftBehind (x : Exchange) (name : String) (u : Unsettled) : Prop where
  waits : ∃ q, x.broker.queue? name = some q ∧ u ∈ q.unacked
  absent : ∀ {n i : Nat} {s : Stream} {e : Nat × Bytes}, x.Live n i → x.broker.streams[i]? = some s →
    s.queue = name → e ∈ s.buffer → e.1 ≠ u.tag

variable {x y : Exchange} {n i : Nat} {m : Member} {book : Book} {c : Command}
  {routed : String → Multiset Bytes} {taken : Nat → List Event} {name : String} {u : Unsettled}
  {hired : Nat → Nat → Prop}

/-! ## What is left behind -/

/-- Only consumers that have not stopped have something in their streams. -/
lemma Accounts.leftBehind_iff (h : x.Accounts routed taken book) :
    x.LeftBehind name u ↔ x.broker.Left name u := by
  obtain ⟨owner, ho⟩ := h.orderly
  constructor
  · rintro ⟨hwaits, habsent⟩
    refine ⟨hwaits, ?_⟩
    intro i s e hs hqueue he
    cases hlisten : s.listening with
    | false => rw [ho.broker.tended.empty hs hlisten] at he; cases he
    | true =>
      obtain ⟨n, hlive⟩ := ho.broker.tended.listener hs hlisten
      exact habsent hlive hs hqueue he
  · rintro ⟨hwaits, habsent⟩
    exact ⟨hwaits, fun _ hs hqueue he => habsent hs hqueue he⟩

/-- The session of an unsettled message is open. -/
lemma Accounts.isOpen_of_left (h : x.Accounts routed taken book) (hl : x.broker.Left name u) :
    x.broker.isOpen u.session = true := by
  obtain ⟨owner, ho⟩ := h.orderly
  obtain ⟨q, hq, hu⟩ := hl.waits
  exact (ho.broker.attended name hq).unacked u hu

/-- A relay that was closed has no session any more. -/
lemma AtRest.isOpen_eq_false (h : AtRest routed taken book x) (hm : x.relays[n]? = some m)
    (hclosed : m.station.relay.closed = true) :
    x.broker.isOpen m.station.relay.session = false := by
  obtain ⟨owner, ho⟩ := h.accounts.orderly
  rw [← Bool.not_eq_true]
  intro hopen
  obtain ⟨k, m', hm', hsession, hnot⟩ := h.staffed hopen id
  by_cases hk : k = n
  · subst hk
    rw [hm, Option.some.injEq] at hm'
    rw [← hm', hclosed] at hnot
    cases hnot
  · exact ho.apart hm' hm hk hsession

/-- **What is left behind stays until its relay is closed.** -/
lemma AtRest.leftBehind (h : AtRest routed taken book x) (hl : x.LeftBehind name u) :
    ∃ (n : Nat) (m : Member), x.relays[n]? = some m ∧ m.station.relay.session = u.session ∧
      m.station.relay.closed = false ∧
      ∀ more : List Command, (∀ c ∈ more, c.forRelays = true) →
        (¬ (x.run more).2.IsClosed n → (x.run more).2.LeftBehind name u) ∧
        ((x.run more).2.IsClosed n → ∀ other q v,
          (x.run more).2.broker.queue? other = some q → v ∈ q.unacked → v.session ≠ u.session) := by
  rw [h.accounts.leftBehind_iff] at hl
  have hopen := h.accounts.isOpen_of_left hl
  obtain ⟨n, m, hm, hsession, hclosed⟩ := h.staffed hopen id
  refine ⟨n, m, hm, hsession, hclosed, ?_⟩
  intro more hmore
  obtain ⟨book', h', honward, -⟩ := h.run hmore
  obtain ⟨m', hm', hsession', -⟩ := honward.member hm
  obtain ⟨owner, ho'⟩ := h'.accounts.orderly
  rw [hsession] at hsession'
  refine ⟨?_, ?_⟩
  · intro hnot
    have hclosed' : m'.station.relay.closed = false := by
      rw [← Bool.not_eq_true]
      exact fun hc => hnot ⟨m', hm', hc⟩
    have hopen' := (ho'.fit hm').isOpen hclosed'
    rw [hsession'] at hopen'
    rw [h'.accounts.leftBehind_iff]
    exact honward.broker.left hl hopen hopen'
  · rintro ⟨m'', hm'', hclosed''⟩ other q v hq hv heq
    rw [hm', Option.some.injEq] at hm''
    subst hm''
    -- the session of a closed relay is not open, and what is unsettled belongs to an open one
    have hgone := h'.isOpen_eq_false hm' hclosed''
    have hv' := (ho'.broker.attended other hq).unacked v hv
    rw [heq, ← hsession', hgone] at hv'
    cases hv'

/-! ## What is not settled between commands -/

/-- **Between commands nobody takes what is not settled**: who has it in his stream waits for a place. -/
lemma Rested.pinned (hrested : x.Rested) (h : x.Accounts routed taken book) {q : Queue}
    (hq : x.broker.queue? name = some q) (hu : u ∈ q.unacked) : x.Pinned name u := by
  obtain ⟨owner, ho⟩ := h.orderly
  refine ⟨⟨q, hq, hu⟩, ?_⟩
  intro i s e hfree hs hqueue he htag
  cases hlisten : s.listening with
  | false => rw [ho.broker.tended.empty hs hlisten] at he; cases he
  | true =>
    obtain ⟨n, m, hm, c, hc, rfl⟩ := ho.broker.tended.listener hs hlisten
    have hstation : x.station? (.relay n) = some m.station := by rw [station?, hm]; rfl
    rcases (hrested.consumers hstation hc).1 with hholds | ⟨-, s', hs', hempty⟩
    · exact hfree ⟨n, m, hm, hrested.granted hstation, hholds⟩
    · rw [hs, Option.some.injEq] at hs'
      rw [hs', hempty] at he
      cases he

/-- Only consumers of the relay that it was handed to have a message in their streams. -/
lemma Accounts.pinned_waiting (h : x.Accounts routed taken book) (hp : x.Pinned name u)
    (hm : x.relays[n]? = some m) (hu : u.session = m.station.relay.session) :
    x.broker.LeftBut (· ∈ m.station.waitingStreams) name u := by
  obtain ⟨owner, ho⟩ := h.orderly
  refine ⟨hp.waits, ?_⟩
  intro i s e hnot hs hqueue he htag
  by_cases hblocked : x.Blocked i
  · obtain ⟨k, m', hm', -, hholds⟩ := hblocked
    obtain ⟨e', he', hsender⟩ := List.any_eq_true.1 hholds
    have hmem : e' ∈ m'.station.mailbox.granted ++ m'.station.mailbox.waiting := by
      rw [List.mem_append] at he' ⊢
      exact he'.symm
    obtain ⟨c, hc, heq⟩ := (ho.fit hm').senders e' hmem
    have hi : c.stream = i := by
      rw [heq] at hsender
      exact Sender.consumer.inj (eq_of_beq hsender)
    obtain ⟨hown, -, hopen⟩ := (ho.fit hm').crew c hc
    rw [hi] at hown
    -- the message in the stream is this one, so it was handed to the relay of the stream
    obtain ⟨q, hq, humem⟩ := hp.waits
    have hunsettled := ho.broker.owned.unsettled hs (ho.broker.manual hs) (by rwa [hown]) he
      (by rwa [hqueue])
    have hsame : (⟨e.1, owner i, e.2⟩ : Unsettled) = u :=
      (ho.broker.sound.tagged hq).eq_of_tag hunsettled humem htag
    have hk : k = n := by
      by_contra hk
      refine ho.apart hm' hm hk ?_
      rw [← hown, ← hu, ← hsame]
    subst hk
    rw [hm, Option.some.injEq] at hm'
    subst hm'
    refine hnot (List.mem_filterMap.2 ⟨e', hmem, ?_⟩)
    rw [heq, hi]
  · exact hp.absent hblocked hs hqueue he htag

lemma leftBut_dropStreams {b : Broker} {held : Nat → Prop} (h : b.LeftBut held name u) (l : List Nat) :
    (l.foldl Broker.dropStream b).LeftBut (fun i => held i ∧ i ∉ l) name u := by
  induction l generalizing b held with
  | nil => exact h.mono fun i hi => ⟨hi, List.not_mem_nil⟩
  | cons j rest ih =>
    have hdropped : (b.dropStream j).LeftBut (fun i => held i ∧ i ≠ j) name u := by
      have hkept : (b.dropStream j).LeftBut held name u :=
        h.modifyStream j (fun _ => rfl) fun _ => List.nil_subset _
      refine ⟨hkept.waits, ?_⟩
      intro i s e hnot hs hqueue he
      by_cases hi : i = j
      · subst hi
        rw [Broker.dropStream_eq, Broker.modifyStream_streams] at hs
        obtain ⟨s₀, -, rfl⟩ := Option.map_eq_some_iff.1 hs
        rw [if_pos rfl] at he
        cases he
      · exact hkept.absent (fun hheld => hnot ⟨hheld, hi⟩) hs hqueue he
    refine (ih hdropped).mono ?_
    rintro i ⟨⟨hheld, hi⟩, hrest⟩
    exact ⟨hheld, by simpa using ⟨hi, hrest⟩⟩

/-- **When a mailbox is thrown away, all that was unsettled with its relay is left behind.** -/
lemma AtRest.discarded (h : AtRest routed taken book x) (hrested : x.Rested)
    (hm : x.relays[n]? = some m) {q : Queue} (hq : x.broker.queue? name = some q)
    (hu : u ∈ q.unacked) (hsession : u.session = m.station.relay.session) :
    (x.step (.discardMailbox (.relay n))).2.2.LeftBehind name u := by
  have hwaiting := h.accounts.pinned_waiting (hrested.pinned h.accounts hq hu) hm hsession
  obtain ⟨⟨book₁, h₁, -⟩, -⟩ :=
    h.accounts.act h.calm h.staffed (c := .discardMailbox (.relay n)) rfl
  have hturns := quiesce_turns h₁.nodes h₁.crewed
  obtain ⟨book₂, h₂, honward⟩ : Leads (fun _ _ => False) _ _ book₁ _ _ := h₁.turns hturns
  -- the consumers that have it in their streams have stopped
  have hbroker : (x.act (.discardMailbox (.relay n))).2.broker =
      m.station.waitingStreams.foldl Broker.dropStream x.broker := by
    change (x.discardMailbox (.relay n)).broker = _
    rw [Exchange.discardMailbox, onStation_relay hm, Station.discardMailbox_eq]
    rfl
  have hleft : (x.act (.discardMailbox (.relay n))).2.broker.Left name u := by
    rw [hbroker]
    refine ((leftBut_dropStreams hwaiting m.station.waitingStreams).mono ?_).left
    rintro i ⟨hin, hnot⟩
    exact hnot hin
  have hopen := h₁.isOpen_of_left hleft
  rw [step_eq, h₂.leftBehind_iff]
  refine honward.broker.left hleft hopen ?_
  rwa [Broker.isOpen, hturns.steady.sessions_eq]

end MessageRelay.Exchange
