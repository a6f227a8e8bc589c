import MessageRelay.Proofs.Exchange.Operations

/-!
# What nobody takes

A consumer that waits for a place in a mailbox takes nothing from its stream until it has posted what it
holds, and it cannot do that before places are given out.  So what is in its stream stays unsettled:
`Pinned` says that a message is unsettled and in no stream but those of such consumers.  Nothing that goes
on by itself settles a pinned message (`Turns.pinned`), nor does a relay that joins a queue.
-/

namespace MessageRelay.Exchange

variable {x x' : Exchange} {owner : Nat → Nat} {n i : Nat} {m : Member} {b : Broker} {book : Book}
  {routed : String → Multiset Bytes} {taken : Nat → List Event} {name : String} {u : Unsettled}

/-- The consumer of a stream waits at a mailbox in which nobody was given a place. -/
def Blocked (x : Exchange) (i : Nat) : Prop :=
  ∃ (n : Nat) (m : Member), x.relays[n]? = some m ∧ m.station.mailbox.granted = [] ∧
    m.station.mailbox.holds (.consumer i) = true

/-- A message is unsettled, and only consumers that cannot take it have it in their streams. -/
def Pinned (x : Exchange) (name : String) (u : Unsettled) : Prop :=
  x.broker.LeftBut x.Blocked name u

/-- A consumer that has nothing in hand is not blocked, and nobody else is in its name. -/
lemma not_blocked (ho : x.Orderly owner) (hm : x.relays[n]? = some m) {c : Consumer}
    (hc : c ∈ m.station.relay.consumers)
    (hfree : m.station.mailbox.holds (.consumer c.stream) = false) : ¬ x.Blocked c.stream := by
  rintro ⟨k, m', hm', -, hholds⟩
  by_cases hk : k = n
  · subst hk
    rw [hm, Option.some.injEq] at hm'
    rw [← hm', hfree] at hholds
    cases hholds
  · -- whoever waits at a mailbox is a consumer of its relay, and streams belong to one relay only
    obtain ⟨e, he, hsender⟩ := List.any_eq_true.1 hholds
    have hmem : e ∈ m'.station.mailbox.granted ++ m'.station.mailbox.waiting := by
      rw [List.mem_append] at he ⊢
      exact he.symm
    obtain ⟨c', hc', heq⟩ := (ho.fit hm').senders e hmem
    have hsame : c'.stream = c.stream := by
      rw [heq] at hsender
      exact Sender.consumer.inj (eq_of_beq hsender)
    have hown := ((ho.fit hm').crew c' hc').1
    rw [hsame, ((ho.fit hm).crew c hc).1] at hown
    exact ho.apart hm hm' (Ne.symm hk) hown

/-- One relay is put in a state in which those wait who waited before, but perhaps for some that were not
blocked. -/
lemma blocked_put {s : Station} (hm : x.relays[n]? = some m)
    (hs : m.station.mailbox.granted = [] → m.station.mailbox.holds (.consumer i) = true →
      s.mailbox.granted = [] ∧ s.mailbox.holds (.consumer i) = true)
    (h : x.Blocked i) : (x.put n s b).Blocked i := by
  obtain ⟨k, m', hm', hgranted, hholds⟩ := h
  by_cases hk : k = n
  · subst hk
    rw [hm, Option.some.injEq] at hm'
    subst hm'
    obtain ⟨hgranted', hholds'⟩ := hs hgranted hholds
    exact ⟨k, _, put_relays_self hm _ _, hgranted', hholds'⟩
  · exact ⟨k, m', by rwa [put_relays_of_ne x n s b hk], hgranted, hholds⟩

/-- A consumer that is blocked is so still when another one has stopped. -/
lemma blocked_without (hm : x.relays[n]? = some m) {j : Nat} (hij : i ≠ j) (h : x.Blocked i) :
    (x.put n (m.station.without j) b).Blocked i := by
  refine blocked_put hm (fun hgranted hholds => ⟨?_, ?_⟩) h
  · simp [Station.without, Mailbox.forget, hgranted]
  · simp only [Mailbox.holds, hgranted, List.append_nil, List.any_eq_true] at hholds
    obtain ⟨e, he, hsender⟩ := hholds
    have hne : (e.1 != .consumer j) = true := by
      rw [eq_of_beq hsender]
      simpa using hij
    refine List.any_eq_true.2 ⟨e, List.mem_append_left _ (List.mem_filter.2 ⟨he, hne⟩), hsender⟩

/-! ## Turns -/

/-- Who is blocked remains blocked. -/
lemma Turn.blocked (ho : x.Orderly owner) (ht : Turn x x') (h : x.Blocked i) : x'.Blocked i := by
  cases ht with
  | station hm hturn =>
    cases hturn with
    | post _ _ _ _ hoffer =>
      obtain ⟨-, -, rfl⟩ := Mailbox.offer_eq_posted hoffer
      exact blocked_put hm (fun hgranted hholds => ⟨hgranted, hholds⟩) h
    | wait _ _ _ _ hoffer =>
      obtain ⟨-, -, rfl⟩ := Mailbox.offer_eq_waits hoffer
      refine blocked_put hm (fun hgranted hholds => ⟨hgranted, ?_⟩) h
      simp only [Mailbox.holds, List.any_append, Bool.or_eq_true] at hholds ⊢
      exact hholds.imp_left Or.inl
    | refuse hc _ hfree _ _ | stop hc hfree =>
      exact blocked_without hm (fun heq => not_blocked ho hm hc hfree (heq ▸ h)) h
  | grant hm hg =>
    obtain ⟨event, rest, hgranted, -⟩ := Mailbox.useGrant_eq_some hg
    refine blocked_put hm (fun hnone => ?_) h
    rw [hgranted] at hnone
    cases hnone
  | tick => exact h

/-- **What is pinned is not taken.** -/
lemma Turn.pinned (ho : x.Orderly owner) (ht : Turn x x') (h : x.Pinned name u) : x'.Pinned name u := by
  refine Broker.LeftBut.mono ?_ fun i => ht.blocked ho
  cases ht with
  | station hm hturn =>
    cases hturn with
    | post hc _ hfree hpoll _ | wait hc _ hfree hpoll _ =>
      exact h.serve (not_blocked ho hm hc hfree) hpoll _
    | refuse hc _ hfree hpoll _ =>
      exact (h.serve (not_blocked ho hm hc hfree) hpoll _).modifyStream _ (fun _ => rfl)
        fun _ => List.nil_subset _
    | stop => exact h.modifyStream _ (fun _ => rfl) fun _ => List.nil_subset _
  | grant => exact h
  | tick => exact h

lemma Turns.pinned (ho : x.Orderly owner) (ht : Turns x x') (h : x.Pinned name u) :
    x'.Pinned name u := by
  have hboth : x'.Orderly owner ∧ x'.Pinned name u := by
    induction ht with
    | refl => exact ⟨ho, h⟩
    | tail _ hlast ih => exact ⟨ih.1.turn hlast, hlast.pinned ih.1 ih.2⟩
  exact hboth.2

lemma Accounts.pinned_turns (h : x.Accounts routed taken book) (ht : Turns x x')
    (hp : x.Pinned name u) : x'.Pinned name u :=
  h.orderly.elim fun _ ho => Turns.pinned ho ht hp

/-! ## Joining and closing -/

lemma pinned_declare (session : Nat) (queue : String) (hp : x.Pinned name u) :
    ({ x with broker := (x.link.declare session queue x.broker).2 } : Exchange).Pinned name u := by
  unfold Link.declare
  split
  · exact hp
  · rcases Broker.declare_cases x.broker session queue with heq | ⟨-, hnone, heq⟩
    · rw [heq]; exact hp
    · rw [heq]; exact Broker.LeftBut.declared hp hnone

lemma pinned_beginJoin (queue : String) (r : Relay) (hp : x.Pinned name u) :
    ({ x with broker := (r.beginJoin x.link queue x.broker).2 } : Exchange).Pinned name u := by
  unfold Relay.beginJoin
  split
  · exact hp
  · split
    · exact hp
    · exact pinned_declare r.session queue hp

/-- The broker makes a stream for a relay whose mailbox stays as it is. -/
lemma pinned_consume {s : Station} {queue : String} {stream : Nat} (hm : x.relays[n]? = some m)
    (hb : x.broker.Sound) (hs : s.mailbox = m.station.mailbox) {session : Nat} {mode : AckMode}
    (hconsume : x.broker.consume session queue mode = (.ok stream, b)) (hp : x.Pinned name u) :
    (x.put n s b).Pinned name u := by
  refine Broker.LeftBut.mono ?_ fun i =>
    blocked_put hm fun hgranted hholds => by rw [hs]; exact ⟨hgranted, hholds⟩
  rcases Broker.consume_cases x.broker session queue mode with ⟨e, herr⟩ | ⟨q, -, hq, hok⟩
  · rw [herr] at hconsume; cases hconsume
  · rw [hok] at hconsume
    cases hconsume
    exact (Broker.LeftBut.enlist hp hq session mode).routeAll (hb.enlist hq session mode) queue q.ready

lemma Accounts.pinned_finishJoin (h : x.Accounts routed taken book) (hp : x.Pinned name u) (n : Nat)
    (queue : String) : (x.finishJoin (.relay n) queue).2.Pinned name u := by
  obtain ⟨owner, ho⟩ := h.orderly
  rcases finishJoin_cases x n queue with heq | ⟨m, stream, b, hm, hconsume, heq⟩
  · rwa [heq]
  · rw [heq]
    exact pinned_consume hm ho.broker.sound rfl hconsume hp

lemma Accounts.pinned_join (h : x.Accounts routed taken book) (hp : x.Pinned name u) (n : Nat)
    (queue : String) : (x.join (.relay n) queue).2.Pinned name u := by
  unfold Exchange.join
  split
  · exact hp
  · next s _ =>
    have hbegin : Leads (fun _ _ => False) routed taken book x _ := h.beginJoin s.relay queue
    have hbegun := pinned_beginJoin queue s.relay hp
    split
    · next heq => rw [heq] at hbegun; exact hbegun
    · next heq =>
      rw [heq] at hbegin hbegun
      obtain ⟨book₁, h₁, -⟩ := hbegin
      split
      · exact hbegun
      · have hturns := pass_turns h₁.nodes h₁.crewed x.link.consumeMs
        obtain ⟨book₂, h₂, -⟩ : Leads (fun _ _ => False) routed taken book₁ _ _ := h₁.turns hturns
        exact h₂.pinned_finishJoin (h₁.pinned_turns hturns hbegun) n queue

lemma pinned_mark (hm : x.relays[n]? = some m) (hp : x.Pinned name u) :
    (x.mark n m.station).Pinned name u :=
  Broker.LeftBut.mono hp fun _ => blocked_put hm fun hgranted hholds => ⟨hgranted, hholds⟩

end MessageRelay.Exchange
