import MessageRelay.Proofs.Exchange.Orderly

/-!
# Keeping book of messages

What becomes of a message after a consumer has settled it is not recorded by the broker.  A `Book`
records it from outside: which messages were posted, which are held by a consumer that waits for a place,
and which were lost because their consumer stopped.  `Books` says that a book is right: together with
what the queues have in stock it accounts for everything that was routed, and it agrees with the
mailboxes.  Every turn can be entered in the book (`Books.turn`).
-/

namespace MessageRelay

/-- A message that a consumer has taken and settled. -/
structure Handled where
  /-- The relay of the consumer. -/
  relay : Nat
  /-- The stream of the consumer. -/
  stream : Nat
  /-- The queue that the message comes from. -/
  queue : String
  /-- The message. -/
  payload : Bytes
  deriving DecidableEq

namespace Handled

/-- The event that says what the message was. -/
def event (h : Handled) : Event :=
  (Relay.eventOf h.payload).1

/-- The consumer, by its relay and its stream. -/
def task (h : Handled) : Nat × Nat :=
  (h.relay, h.stream)

/-- How the message stands in a mailbox as long as it waits for a place. -/
def ticket (h : Handled) : Sender × Event :=
  (.consumer h.stream, h.event)

/-- The messages among these that come from a queue. -/
def ofQueue (name : String) (hs : Multiset Handled) : Multiset Bytes :=
  (hs.filter (·.queue = name)).map (·.payload)

@[simp] lemma ofQueue_zero (name : String) : ofQueue name 0 = 0 := rfl

@[simp] lemma ofQueue_add (name : String) (hs hs' : Multiset Handled) :
    ofQueue name (hs + hs') = ofQueue name hs + ofQueue name hs' := by
  simp [ofQueue]

@[simp] lemma ofQueue_singleton (name : String) (h : Handled) :
    ofQueue name {h} = if name = h.queue then {h.payload} else 0 := by
  by_cases heq : name = h.queue
  · simp [ofQueue, Multiset.filter_singleton, heq]
  · simp [ofQueue, Multiset.filter_singleton, heq, Ne.symm heq]

@[simp] lemma ofQueue_cons (name : String) (h : Handled) (hs : Multiset Handled) :
    ofQueue name (h ::ₘ hs) = (if name = h.queue then {h.payload} else 0) + ofQueue name hs := by
  rw [← Multiset.singleton_add, ofQueue_add, ofQueue_singleton]

end Handled

/-- What has become of the messages that consumers have settled. -/
structure Book where
  /-- Those that were posted, in this order. -/
  posted : List Handled := []
  /-- Those that are held by a consumer that waits for a place. -/
  held : Multiset Handled := 0
  /-- Those that were lost. -/
  lost : Multiset Handled := 0

/-- All messages in a book. -/
def Book.all (book : Book) : Multiset Handled :=
  book.posted + (book.held + book.lost)

/-- A consumer has stopped: what it held, and what else it had in hand, is lost. -/
def Book.lose (book : Book) (task : Nat × Nat) (inHand : Multiset Handled) : Book :=
  { book with
    held := book.held.filter (·.task ≠ task)
    lost := book.lost + (book.held.filter (·.task = task) + inHand) }

/-- What else a consumer can have in hand: nothing, or one message, and then it holds no other. -/
def Book.InHand (book : Book) (task : Nat × Nat) (inHand : Multiset Handled) : Prop :=
  inHand = 0 ∨ ∃ hd, inHand = {hd} ∧ hd.task = task ∧ ∀ other ∈ book.held, other.task ≠ task

namespace Book

variable {book : Book} {task : Nat × Nat} {inHand : Multiset Handled} {hd : Handled}

lemma InHand.task_eq (h : book.InHand task inHand) (hmem : hd ∈ inHand) : hd.task = task := by
  rcases h with rfl | ⟨hd', rfl, htask, -⟩
  · cases hmem
  · rw [Multiset.mem_singleton.1 hmem, htask]

lemma mem_all : hd ∈ book.all ↔ hd ∈ book.posted ∨ hd ∈ book.held ∨ hd ∈ book.lost := by
  simp [all]

/-- A consumer that stops adds nothing to the book but what it had in hand. -/
lemma mem_all_lose (hmem : hd ∈ (book.lose task inHand).all) : hd ∈ book.all ∨ hd ∈ inHand := by
  simp only [mem_all, lose, Multiset.mem_add, Multiset.mem_filter] at hmem ⊢
  tauto

/-- A consumer that holds nothing loses what it has in hand. -/
lemma lost_lose_of_none (h : ∀ hd ∈ book.held, hd.task ≠ task) :
    (book.lose task inHand).lost = book.lost + inHand := by
  rw [lose, Multiset.filter_eq_nil.2 h, zero_add]

/-- What is lost was lost before, or is what the consumer had. -/
lemma mem_lost_lose (h : book.InHand task inHand) (hmem : hd ∈ (book.lose task inHand).lost) :
    hd ∈ book.lost ∨ hd.task = task := by
  rcases Multiset.mem_add.1 hmem with hmem | hmem
  · exact Or.inl hmem
  · rcases Multiset.mem_add.1 hmem with hmem | hmem
    · exact Or.inr (Multiset.mem_filter.1 hmem).2
    · exact Or.inr (h.task_eq hmem)

/-- A consumer loses one message at most, if it has lost none before. -/
lemma nodup_lost_lose (h : book.InHand task inHand) (hheld : (book.held.map Handled.task).Nodup)
    (hlost : (book.lost.map Handled.task).Nodup) (hfresh : ∀ hd ∈ book.lost, hd.task ≠ task) :
    ((book.lose task inHand).lost.map Handled.task).Nodup := by
  have hone : ((book.held.filter (·.task = task) + inHand).map Handled.task).Nodup := by
    rcases h with rfl | ⟨hd', rfl, htask, hnone⟩
    · rw [add_zero]
      exact Multiset.nodup_of_le (Multiset.map_le_map (Multiset.filter_le _ _)) hheld
    · rw [Multiset.filter_eq_nil.2 hnone, zero_add, Multiset.map_singleton]
      exact Multiset.nodup_singleton _
  rw [lose, Multiset.map_add, Multiset.nodup_add]
  refine ⟨hlost, hone, ?_⟩
  rw [Multiset.disjoint_left]
  intro t hold hnew
  obtain ⟨hd, hmem, rfl⟩ := Multiset.mem_map.1 hold
  obtain ⟨hd', hmem', heq⟩ := Multiset.mem_map.1 hnew
  have htask : hd'.task = task := by
    rcases Multiset.mem_add.1 hmem' with hmem' | hmem'
    · exact (Multiset.mem_filter.1 hmem').2
    · exact h.task_eq hmem'
  exact hfresh hd hmem (heq.symm.trans htask)

end Book

namespace Exchange

variable {x x' x'' : Exchange} {owner : Nat → Nat} {n k i : Nat} {m : Member} {s : Station}
  {b : Broker} {book book' book'' : Book}

/-- The events in the mailbox of a relay. -/
def postedAt (x : Exchange) (n : Nat) : List Event :=
  x.relays[n]?.elim [] (·.station.mailbox.posted)

/-- Those who wait at the mailbox of a relay, or were given a place. -/
def waitingAt (x : Exchange) (n : Nat) : List (Sender × Event) :=
  x.relays[n]?.elim [] fun m => m.station.mailbox.granted ++ m.station.mailbox.waiting

lemma postedAt_of_some (hm : x.relays[n]? = some m) :
    x.postedAt n = m.station.mailbox.posted := by
  simp [postedAt, hm]

lemma waitingAt_of_some (hm : x.relays[n]? = some m) :
    x.waitingAt n = m.station.mailbox.granted ++ m.station.mailbox.waiting := by
  simp [waitingAt, hm]

lemma postedAt_put (hm : x.relays[n]? = some m) (s : Station) (b : Broker) (k : Nat) :
    (x.put n s b).postedAt k = if k = n then s.mailbox.posted else x.postedAt k := by
  by_cases hk : k = n
  · subst hk; simp [postedAt, put_relays_self hm]
  · simp [postedAt, put_relays_of_ne x n s b hk, hk]

lemma waitingAt_put (hm : x.relays[n]? = some m) (s : Station) (b : Broker) (k : Nat) :
    (x.put n s b).waitingAt k =
      if k = n then s.mailbox.granted ++ s.mailbox.waiting else x.waitingAt k := by
  by_cases hk : k = n
  · subst hk; simp [waitingAt, put_relays_self hm]
  · simp [waitingAt, put_relays_of_ne x n s b hk, hk]

/-- A book is right, when `routed` says what was brought to a queue and `taken` which events were
taken from a mailbox. -/
structure Books (routed : String → Multiset Bytes) (taken : Nat → List Event) (book : Book)
    (x : Exchange) : Prop where
  balance : ∀ name, x.broker.stock name + Handled.ofQueue name book.posted +
    Handled.ofQueue name book.held + Handled.ofQueue name book.lost = routed name
  posted : ∀ n, (book.posted.filter (·.relay = n)).map Handled.event = taken n ++ x.postedAt n
  held : ∀ n, (book.held.filter (·.relay = n)).map Handled.ticket =
    (x.waitingAt n : Multiset (Sender × Event))
  held_nodup : (book.held.map Handled.task).Nodup
  lost_nodup : (book.lost.map Handled.task).Nodup
  lost_stopped : ∀ h ∈ book.lost, ¬ x.Live h.relay h.stream
  /-- What consumers have settled has come on streams of its queue. -/
  origin : ∀ h ∈ book.all, x.broker.GivenFor h.stream h.queue

variable {routed : String → Multiset Bytes} {taken : Nat → List Event}

lemma Books.origin_lost (h : x.Books routed taken book) {hd : Handled} (hmem : hd ∈ book.lost) :
    x.broker.GivenFor hd.stream hd.queue :=
  h.origin hd (Book.mem_all.2 (Or.inr (Or.inr hmem)))

/-- The messages are where they were, and no consumer was started but on a new stream. -/
lemma Books.congr (h : x.Books routed taken book)
    (hstock : ∀ name, x'.broker.stock name = x.broker.stock name)
    (hposted : ∀ n, x'.postedAt n = x.postedAt n) (hwaiting : ∀ n, x'.waitingAt n = x.waitingAt n)
    (hgiven : ∀ {i : Nat} {name : String}, x.broker.GivenFor i name → x'.broker.GivenFor i name)
    (hlive : ∀ {n i : Nat}, x'.Live n i → x.Live n i ∨ x.broker.streams.length ≤ i) :
    x'.Books routed taken book where
  balance name := by rw [hstock]; exact h.balance name
  posted n := by rw [hposted]; exact h.posted n
  held n := by rw [hwaiting]; exact h.held n
  held_nodup := h.held_nodup
  lost_nodup := h.lost_nodup
  lost_stopped hd hmem hl := by
    rcases hlive hl with hl | hge
    · exact h.lost_stopped hd hmem hl
    · exact Nat.not_le_of_lt (h.origin_lost hmem).lt hge
  origin hd hmem := hgiven (h.origin hd hmem)

/-- What is held is in a mailbox. -/
lemma Books.ticket_mem (h : x.Books routed taken book) {hd : Handled} (hmem : hd ∈ book.held) :
    hd.ticket ∈ x.waitingAt hd.relay := by
  rw [← Multiset.mem_coe, ← h.held]
  exact Multiset.mem_map_of_mem _ (Multiset.mem_filter.2 ⟨hmem, rfl⟩)

/-- A consumer that does not wait holds nothing. -/
lemma Books.task_ne (h : x.Books routed taken book) (hm : x.relays[n]? = some m)
    (hfree : m.station.mailbox.holds (.consumer i) = false) : ∀ hd ∈ book.held, hd.task ≠ (n, i) := by
  intro hd hmem heq
  obtain ⟨rfl, rfl⟩ := Prod.mk.inj heq
  have hticket := h.ticket_mem hmem
  rw [waitingAt_of_some hm] at hticket
  simp only [Mailbox.holds, List.any_eq_false] at hfree
  refine hfree hd.ticket ?_ (by simp [Handled.ticket])
  rw [List.mem_append] at hticket ⊢
  exact hticket.symm

/-! ## Entries -/

/-- A relay that keeps its consumers leaves the lost messages as they are. -/
lemma Books.lost_put (h : x.Books routed taken book) (hm : x.relays[n]? = some m)
    (hsame : s.relay.consumers.map (·.stream) = m.station.relay.consumers.map (·.stream)) :
    ∀ hd ∈ book.lost, ¬ (x.put n s b).Live hd.relay hd.stream :=
  fun hd hmem hl => h.lost_stopped hd hmem ((live_put_iff hm hsame).1 hl)

/-- A message leaves its queue and is posted. -/
lemma Books.post (h : x.Books routed taken book) (hm : x.relays[n]? = some m) (hd : Handled)
    (hn : hd.relay = n) (hfrom : x.broker.GivenFor hd.stream hd.queue)
    (hstock : ∀ name, b.stock name + Handled.ofQueue name {hd} = x.broker.stock name)
    (honward : x.broker.Onward b) :
    (x.put n { m.station with mailbox := m.station.mailbox.put hd.event } b).Books routed taken
      { book with posted := book.posted ++ [hd] } where
  balance name := by
    rw [← h.balance name, ← hstock name, put_broker, ← Multiset.coe_add, Handled.ofQueue_add,
      Multiset.coe_singleton]
    abel
  posted k := by
    rw [postedAt_put hm, List.filter_append, List.map_append, h.posted k]
    by_cases hk : k = n
    · subst hk
      simp [hn, Mailbox.put, postedAt_of_some hm]
    · simp [hn, hk, Ne.symm hk]
  held k := by
    rw [waitingAt_put hm, h.held k]
    split
    · next hk => rw [hk, waitingAt_of_some hm]; rfl
    · rfl
  held_nodup := h.held_nodup
  lost_nodup := h.lost_nodup
  lost_stopped := h.lost_put hm (by rfl)
  origin other hmem := by
    refine honward.given ?_
    simp only [Book.mem_all, List.mem_append, List.mem_singleton] at hmem
    rcases hmem with (hmem | rfl) | hmem
    · exact h.origin other (Book.mem_all.2 (Or.inl hmem))
    · exact hfrom
    · exact h.origin other (Book.mem_all.2 (Or.inr hmem))

/-- A message leaves its queue and is held by a consumer that has held nothing. -/
lemma Books.wait (h : x.Books routed taken book) (hm : x.relays[n]? = some m) (hd : Handled)
    (hn : hd.relay = n) (hfrom : x.broker.GivenFor hd.stream hd.queue)
    (hfree : ∀ other ∈ book.held, other.task ≠ hd.task)
    (hstock : ∀ name, b.stock name + Handled.ofQueue name {hd} = x.broker.stock name)
    (honward : x.broker.Onward b) :
    (x.put n { m.station with mailbox := { m.station.mailbox with
        waiting := m.station.mailbox.waiting ++ [hd.ticket] } } b).Books routed taken
      { book with held := hd ::ₘ book.held } where
  balance name := by
    rw [← h.balance name, ← hstock name, put_broker, Handled.ofQueue_cons,
      Handled.ofQueue_singleton]
    abel
  posted k := by
    rw [postedAt_put hm, h.posted k]
    split
    · next hk => rw [hk, postedAt_of_some hm]
    · rfl
  held k := by
    rw [waitingAt_put hm, Multiset.filter_cons, Multiset.map_add, h.held k]
    by_cases hk : k = n
    · subst hk
      rw [if_pos hn, if_pos rfl, waitingAt_of_some hm, ← List.append_assoc, ← Multiset.coe_add,
        add_comm]
      rfl
    · rw [if_neg (hn ▸ Ne.symm hk), if_neg hk, Multiset.map_zero, zero_add]
  held_nodup := by
    rw [Multiset.map_cons, Multiset.nodup_cons]
    refine ⟨?_, h.held_nodup⟩
    intro hmem
    obtain ⟨other, hother, heq⟩ := Multiset.mem_map.1 hmem
    exact hfree other hother heq
  lost_nodup := h.lost_nodup
  lost_stopped := h.lost_put hm (by rfl)
  origin other hmem := by
    refine honward.given ?_
    simp only [Book.mem_all, Multiset.mem_cons] at hmem
    rcases hmem with hmem | (rfl | hmem) | hmem
    · exact h.origin other (Book.mem_all.2 (Or.inl hmem))
    · exact hfrom
    · exact h.origin other (Book.mem_all.2 (Or.inr (Or.inl hmem)))
    · exact h.origin other (Book.mem_all.2 (Or.inr (Or.inr hmem)))

/-- Somebody who was given a place posts what he held. -/
lemma Books.grant (h : x.Books routed taken book) (hm : x.relays[n]? = some m) {sender : Sender}
    {mailbox : Mailbox}
    (hg : m.station.mailbox.useGrant = some (sender, mailbox)) :
    ∃ hd held, book.held = hd ::ₘ held ∧
      (x.put n { m.station with mailbox } x.broker).Books routed taken
        { book with posted := book.posted ++ [hd], held } := by
  obtain ⟨event, rest, hgranted, rfl⟩ := Mailbox.useGrant_eq_some hg
  have hwaiting : x.waitingAt n = (sender, event) :: (rest ++ m.station.mailbox.waiting) := by
    rw [waitingAt_of_some hm, hgranted, List.cons_append]
  -- the book knows who has the place
  have hmem : (sender, event) ∈ (book.held.filter (·.relay = n)).map Handled.ticket := by
    rw [h.held n, hwaiting, Multiset.mem_coe]
    exact List.mem_cons_self
  obtain ⟨hd, hhd, hticket⟩ := Multiset.mem_map.1 hmem
  obtain ⟨hheld, hn⟩ := Multiset.mem_filter.1 hhd
  obtain ⟨held, hsplit⟩ := Multiset.exists_cons_of_mem hheld
  obtain ⟨hsender, rfl⟩ := Prod.mk.inj hticket
  refine ⟨hd, held, hsplit, ?_, ?_, ?_, ?_, h.lost_nodup, h.lost_put hm (by rfl), ?_⟩
  · intro name
    rw [← h.balance name, hsplit, put_broker, ← Multiset.coe_add, Handled.ofQueue_add,
      Multiset.coe_singleton, Handled.ofQueue_cons, Handled.ofQueue_singleton]
    abel
  · intro k
    rw [postedAt_put hm, List.filter_append, List.map_append, h.posted k]
    by_cases hk : k = n
    · subst hk
      simp [hn, Mailbox.put, postedAt_of_some hm]
    · simp [hn, hk, Ne.symm hk]
  · intro k
    have hbefore := h.held k
    rw [hsplit, Multiset.filter_cons, Multiset.map_add] at hbefore
    rw [waitingAt_put hm]
    by_cases hk : k = n
    · subst hk
      rw [if_pos hn, hwaiting, Multiset.map_singleton, ← Multiset.cons_coe, hticket,
        Multiset.singleton_add] at hbefore
      rw [if_pos rfl]
      exact (Multiset.cons_inj_right _).1 hbefore
    · rw [if_neg (hn ▸ Ne.symm hk), Multiset.map_zero, zero_add] at hbefore
      rw [if_neg hk, hbefore]
  · have hnodup := h.held_nodup
    rw [hsplit, Multiset.map_cons, Multiset.nodup_cons] at hnodup
    exact hnodup.2
  · intro other hmem
    refine h.origin other (Book.mem_all.2 ?_)
    simp only [Book.mem_all, List.mem_append, List.mem_singleton] at hmem
    rw [hsplit, Multiset.mem_cons]
    tauto

lemma Handled.ticket_ne_iff {hd : Handled} (hn : hd.relay = n) :
    hd.ticket.1 ≠ .consumer i ↔ hd.task ≠ (n, i) := by
  simp [Handled.ticket, Handled.task, hn]

/-- Who still waits at a mailbox when a consumer has stopped. -/
lemma Books.held_lose (h : x.Books routed taken book) (hm : x.relays[n]? = some m) (k : Nat) :
    ((book.held.filter (·.task ≠ (n, i))).filter (·.relay = k)).map Handled.ticket =
      ((x.put n (m.station.without i) b).waitingAt k : Multiset (Sender × Event)) := by
  rw [waitingAt_put hm, Multiset.filter_filter]
  by_cases hk : k = n
  · subst hk
    -- the book and the mailbox forget the same tickets
    have hbefore := congrArg (Multiset.filter fun e => e.1 ≠ Sender.consumer i) (h.held k)
    rw [Multiset.filter_map, Multiset.filter_filter, Multiset.filter_coe, waitingAt_of_some hm,
      List.filter_append] at hbefore
    rw [if_pos rfl]
    refine Eq.trans ?_ (hbefore.trans ?_)
    · congr 1
      refine Multiset.filter_congr fun hd _ => ?_
      constructor
      · rintro ⟨hn, hne⟩
        exact ⟨(Handled.ticket_ne_iff hn).2 hne, hn⟩
      · rintro ⟨hne, hn⟩
        exact ⟨hn, (Handled.ticket_ne_iff hn).1 hne⟩
    · have hsame : (fun e : Sender × Event => decide (e.1 ≠ .consumer i)) =
          fun e => e.1 != .consumer i := by
        funext e
        exact Bool.eq_iff_iff.2 (by simp)
      rw [hsame]
      rfl
  · rw [if_neg hk, ← h.held k]
    congr 1
    refine Multiset.filter_congr fun hd _ => ⟨And.left, fun hrelay => ⟨hrelay, ?_⟩⟩
    rintro heq
    exact hk (hrelay ▸ (Prod.mk.inj heq).1)

/-- A consumer stops, and what it held is lost.  It may have had one more message in hand, which has just
left its queue. -/
lemma Books.lose (h : x.Books routed taken book) (hm : x.relays[n]? = some m) (hlive : x.Live n i)
    {inHand : Multiset Handled} (hhand : book.InHand (n, i) inHand)
    (hfrom : ∀ hd ∈ inHand, x.broker.GivenFor hd.stream hd.queue)
    (hstock : ∀ name, b.stock name + Handled.ofQueue name inHand = x.broker.stock name)
    (honward : x.broker.Onward b) :
    (x.put n (m.station.without i) b).Books routed taken (book.lose (n, i) inHand) where
  balance name := by
    have hheld := congrArg (Handled.ofQueue name)
      (Multiset.filter_add_not (fun hd : Handled => hd.task = (n, i)) book.held)
    rw [Handled.ofQueue_add] at hheld
    rw [← h.balance name, ← hstock name, ← hheld]
    simp only [Book.lose, put_broker, Handled.ofQueue_add, ne_eq]
    abel
  posted k := by
    rw [postedAt_put hm]
    split
    · next hk => rw [hk]; exact (h.posted n).trans (by rw [postedAt_of_some hm]; rfl)
    · exact h.posted k
  held := h.held_lose hm
  held_nodup := Multiset.nodup_of_le (Multiset.map_le_map (Multiset.filter_le _ _)) h.held_nodup
  lost_nodup := by
    -- the consumer has not stopped before, so nothing of it is among the lost messages
    refine Book.nodup_lost_lose hhand h.held_nodup h.lost_nodup ?_
    rintro hd hmem heq
    obtain ⟨rfl, rfl⟩ := Prod.mk.inj heq
    exact h.lost_stopped hd hmem hlive
  lost_stopped hd hmem := by
    rw [live_put_without hm]
    rcases Book.mem_lost_lose hhand hmem with hmem | htask
    · exact fun hl => h.lost_stopped hd hmem hl.1
    · obtain ⟨rfl, rfl⟩ := Prod.mk.inj htask
      exact fun hl => hl.2 ⟨rfl, rfl⟩
  origin hd hmem := by
    refine honward.given ?_
    rcases Book.mem_all_lose hmem with hmem | hmem
    · exact h.origin hd hmem
    · exact hfrom hd hmem

/-! ## Later moments -/

/-- A relay was closed. -/
def IsClosed (x : Exchange) (n : Nat) : Prop :=
  ∃ m, x.relays[n]? = some m ∧ m.station.relay.closed = true

/-- The mailbox of a relay was thrown away. -/
def IsDiscarded (x : Exchange) (n : Nat) : Prop :=
  ∃ m, x.relays[n]? = some m ∧ m.station.mailbox.kept = false

/-- Between two moments the consumer of a message has stopped because its relay was closed or because
nobody takes its events.  It was a consumer of that relay at the first moment, or was started in between,
and its stream is one that was given out for the queue of the message; `hired` says which consumers were
started. -/
structure LetGo (hired : Nat → Nat → Prop) (x x' : Exchange) (h : Handled) : Prop where
  employed : x.Live h.relay h.stream ∨ hired h.relay h.stream
  given : x'.broker.GivenFor h.stream h.queue
  stopped : ¬ x'.Live h.relay h.stream
  reason : x'.IsClosed h.relay ∨ x'.IsDiscarded h.relay

/-- `x'` is `x` at a later moment, and `book'` the book at that moment; `hired` says which consumers were
started in between. -/
structure Onward (hired : Nat → Nat → Prop) (x x' : Exchange) (book book' : Book) : Prop where
  broker : x.broker.Onward x'.broker
  /-- Relays keep their sessions, and neither they nor their mailboxes come back. -/
  member : ∀ {n : Nat} {m : Member}, x.relays[n]? = some m → ∃ m', x'.relays[n]? = some m' ∧
    m'.station.relay.session = m.station.relay.session ∧
    (m.station.relay.closed = true → m'.station.relay.closed = true) ∧
    (m.station.mailbox.kept = false → m'.station.mailbox.kept = false)
  /-- Consumers start on new streams only. -/
  live : ∀ {n i : Nat}, x'.Live n i → x.Live n i ∨ hired n i ∧ x.broker.streams.length ≤ i
  /-- A message is lost only when its consumer is let go. -/
  lost : ∀ hd ∈ book'.lost, hd ∈ book.lost ∨ LetGo hired x x' hd

variable {hired : Nat → Nat → Prop}

lemma Onward.refl (x : Exchange) (book : Book) : Onward hired x x book book :=
  ⟨.refl _, fun {_ m} hm => ⟨m, hm, rfl, id, id⟩, Or.inl, fun _ => Or.inl⟩

lemma Onward.isClosed (h : Onward hired x x' book book') (hc : x.IsClosed n) : x'.IsClosed n := by
  obtain ⟨m, hm, hclosed⟩ := hc
  obtain ⟨m', hm', -, hmono, -⟩ := h.member hm
  exact ⟨m', hm', hmono hclosed⟩

lemma Onward.isDiscarded (h : Onward hired x x' book book') (hd : x.IsDiscarded n) :
    x'.IsDiscarded n := by
  obtain ⟨m, hm, hgone⟩ := hd
  obtain ⟨m', hm', -, -, hmono⟩ := h.member hm
  exact ⟨m', hm', hmono hgone⟩

lemma Onward.trans (h : Onward hired x x' book book') (h' : Onward hired x' x'' book' book'') :
    Onward hired x x'' book book'' where
  broker := h.broker.trans h'.broker
  member hm := by
    obtain ⟨m₁, hm₁, hs₁, hc₁, hk₁⟩ := h.member hm
    obtain ⟨m₂, hm₂, hs₂, hc₂, hk₂⟩ := h'.member hm₁
    exact ⟨m₂, hm₂, hs₂.trans hs₁, hc₂ ∘ hc₁, hk₂ ∘ hk₁⟩
  live hl := by
    rcases h'.live hl with hl | ⟨hnew, hge⟩
    · exact h.live hl
    · exact Or.inr ⟨hnew, Nat.le_trans h.broker.streams_le hge⟩
  lost hd hmem := by
    rcases h'.lost hd hmem with hmem | hgone
    · refine (h.lost hd hmem).imp_right fun hgone => ?_
      -- lost at the first of the two, and what has stopped does not start again
      refine ⟨hgone.employed, h'.broker.given hgone.given, ?_,
        hgone.reason.imp h'.isClosed h'.isDiscarded⟩
      intro hl
      rcases h'.live hl with hl | ⟨-, hge⟩
      · exact hgone.stopped hl
      · exact Nat.not_le_of_lt hgone.given.lt hge
    · refine Or.inr { hgone with employed := ?_ }
      rcases hgone.employed with hl | hnew
      · exact (h.live hl).imp_right And.left
      · exact Or.inr hnew

/-- The same, said with less about which consumers were started. -/
lemma Onward.mono {hired' : Nat → Nat → Prop} (h : Onward hired x x' book book')
    (hle : ∀ n i, hired n i → hired' n i) : Onward hired' x x' book book' where
  broker := h.broker
  member := h.member
  live hl := (h.live hl).imp_right (And.imp_left (hle _ _))
  lost hd hmem := (h.lost hd hmem).imp_right fun hgone =>
    { hgone with employed := hgone.employed.imp_right (hle _ _) }

/-- One relay and the broker have gone on. -/
lemma onward_put (hm : x.relays[n]? = some m) (hb : x.broker.Onward b)
    (hsame : s.relay.session = m.station.relay.session)
    (hclosed : m.station.relay.closed = true → s.relay.closed = true)
    (hkept : m.station.mailbox.kept = false → s.mailbox.kept = false)
    (hlive : ∀ c ∈ s.relay.consumers,
      x.Live n c.stream ∨ hired n c.stream ∧ x.broker.streams.length ≤ c.stream)
    (hlost : ∀ hd ∈ book'.lost, hd ∈ book.lost ∨ LetGo hired x (x.put n s b) hd) :
    Onward hired x (x.put n s b) book book' where
  broker := hb
  member {k m₀} hm₀ := by
    by_cases hk : k = n
    · subst hk
      rw [hm, Option.some.injEq] at hm₀
      subst hm₀
      exact ⟨_, put_relays_self hm _ _, hsame, hclosed, hkept⟩
    · exact ⟨m₀, by rwa [put_relays_of_ne x n s b hk], rfl, id, id⟩
  live {k i} hl := by
    by_cases hk : k = n
    · subst hk
      obtain ⟨c, hc, rfl⟩ := (live_put_self hm).1 hl
      exact hlive c hc
    · exact Or.inl ((live_put_of_ne hk).1 hl)
  lost := hlost

/-- Nothing is lost when no consumer stops. -/
lemma onward_put_of_consumers (hm : x.relays[n]? = some m) (hb : x.broker.Onward b)
    (hsame : s.relay.session = m.station.relay.session)
    (hclosed : m.station.relay.closed = true → s.relay.closed = true)
    (hkept : m.station.mailbox.kept = false → s.mailbox.kept = false)
    (hconsumers : s.relay.consumers.map (·.stream) = m.station.relay.consumers.map (·.stream))
    (hlost : book'.lost = book.lost) : Onward hired x (x.put n s b) book book' := by
  refine onward_put hm hb hsame hclosed hkept ?_ fun hd hmem => Or.inl (hlost ▸ hmem)
  intro c hc
  have hmem : c.stream ∈ m.station.relay.consumers.map (·.stream) := by
    rw [← hconsumers]
    exact List.mem_map_of_mem hc
  obtain ⟨c', hc', heq⟩ := List.mem_map.1 hmem
  exact Or.inl ⟨m, hm, c', hc', heq⟩

/-- A consumer stops, and if it loses something then for a reason. -/
lemma onward_stop {inHand : Multiset Handled} (hm : x.relays[n]? = some m)
    (hb : x.broker.Onward b) (hlive : x.Live n i) (hhand : book.InHand (n, i) inHand)
    (hgiven : ∀ hd ∈ (book.lose (n, i) inHand).lost, b.GivenFor hd.stream hd.queue)
    (hwhy : (∀ hd ∈ book.held, hd.task ≠ (n, i)) ∧ inHand = 0 ∨
      m.station.relay.closed = true ∨ m.station.mailbox.kept = false) :
    Onward hired x (x.put n (m.station.without i) b) book (book.lose (n, i) inHand) := by
  refine onward_put hm hb rfl id id ?_ ?_
  · intro c hc
    exact Or.inl ⟨m, hm, c, (List.mem_filter.1 hc).1, rfl⟩
  · intro hd hmem
    rcases hwhy with ⟨hnone, rfl⟩ | hwhy
    · rw [Book.lost_lose_of_none hnone, add_zero] at hmem
      exact Or.inl hmem
    · refine (Book.mem_lost_lose hhand hmem).imp_right fun hgone => ?_
      have hfrom := hgiven hd hmem
      obtain ⟨hn, hi⟩ := Prod.mk.inj hgone
      subst hn hi
      refine ⟨Or.inl hlive, hfrom, fun hl => ((live_put_without hm).1 hl).2 ⟨rfl, rfl⟩, ?_⟩
      rcases hwhy with hclosed | hkept
      · exact Or.inl ⟨_, put_relays_self hm _ _, hclosed⟩
      · exact Or.inr ⟨_, put_relays_self hm _ _, hkept⟩

/-! ## Turns -/

/-- A relay has a consumer of the given stream that has not stopped, and the stream is not broken. -/
def Whole (x : Exchange) (n i : Nat) : Prop :=
  ∃ m, x.relays[n]? = some m ∧ ∃ c ∈ m.station.relay.consumers, c.stream = i ∧ c.broken = false

/-- **A turn can be entered in the book.**  It loses a message only if its consumer, whose stream is not
broken, finds that nobody takes its events. -/
lemma Books.turn (ho : x.Orderly owner) (h : x.Books routed taken book) (ht : Turn x x') :
    ∃ book', x'.Books routed taken book' ∧ Onward hired x x' book book' ∧
      ∀ hd ∈ book'.lost, hd ∈ book.lost ∨ x.Whole hd.relay hd.stream := by
  cases ht with
  | @station n m _ _ hm hturn =>
    cases hturn with
    | @post _ _ b' c d _ hc _ _ hpoll hoffer =>
      obtain ⟨-, -, rfl⟩ := Mailbox.offer_eq_posted hoffer
      obtain ⟨-, honward, hfrom, hstock⟩ := ho.serve hm hc hpoll
      refine ⟨_, h.post hm ⟨n, c.stream, d.queue, d.payload⟩ rfl hfrom ?_ honward,
        onward_put_of_consumers hm honward rfl id id rfl rfl, fun _ => Or.inl⟩
      simpa using hstock
    | @wait _ _ b' c d _ hc _ hfree hpoll hoffer =>
      obtain ⟨-, -, rfl⟩ := Mailbox.offer_eq_waits hoffer
      obtain ⟨-, honward, hfrom, hstock⟩ := ho.serve hm hc hpoll
      refine ⟨_, h.wait hm ⟨n, c.stream, d.queue, d.payload⟩ rfl hfrom (h.task_ne hm hfree) ?_ honward,
        onward_put_of_consumers hm honward rfl id id rfl rfl, fun _ => Or.inl⟩
      simpa using hstock
    | @refuse _ _ b' c d hc hwhole hfree hpoll hoffer =>
      obtain ⟨-, honward, hfrom, hstock⟩ := ho.serve hm hc hpoll
      have hlive : x.Live n c.stream := ⟨m, hm, c, hc, rfl⟩
      have honward' := honward.trans (Broker.onward_dropStream _ c.stream)
      have hnone := h.task_ne hm hfree
      -- the message is settled before it is offered, and nobody takes it
      have hhand : book.InHand (n, c.stream) {⟨n, c.stream, d.queue, d.payload⟩} :=
        Or.inr ⟨_, rfl, rfl, hnone⟩
      have hbooks := h.lose hm hlive hhand (fun hd hmem => Multiset.mem_singleton.1 hmem ▸ hfrom)
        (by simpa using hstock) honward'
      refine ⟨_, hbooks, onward_stop hm honward' hlive hhand (fun _ => hbooks.origin_lost)
        (Or.inr (Or.inr (Mailbox.offer_eq_refused hoffer))), ?_⟩
      · intro hd hmem
        rw [Book.lost_lose_of_none hnone, Multiset.mem_add] at hmem
        refine hmem.imp_right fun hmem => ?_
        rw [Multiset.mem_singleton.1 hmem]
        exact ⟨m, hm, c, hc, rfl, hwhole⟩
    | @stop _ _ c hc hfree =>
      have hlive : x.Live n c.stream := ⟨m, hm, c, hc, rfl⟩
      have honward := Broker.onward_dropStream x.broker c.stream
      have hnone := h.task_ne hm hfree
      -- the consumer has found out that its stream ends, with nothing in hand
      have hhand : book.InHand (n, c.stream) 0 := Or.inl rfl
      have hbooks := h.lose hm hlive hhand (fun _ hmem => by cases hmem) (fun name => by simp) honward
      refine ⟨_, hbooks, onward_stop hm honward hlive hhand (fun _ => hbooks.origin_lost)
        (Or.inl ⟨hnone, rfl⟩), ?_⟩
      intro hd hmem
      rw [Book.lost_lose_of_none hnone, add_zero] at hmem
      exact Or.inl hmem
  | grant hm hg =>
    obtain ⟨hd, held, hsplit, hbooks⟩ := h.grant hm hg
    obtain ⟨event, rest, -, rfl⟩ := Mailbox.useGrant_eq_some hg
    exact ⟨_, hbooks, onward_put_of_consumers hm (.refl _) rfl id id rfl rfl, fun _ => Or.inl⟩
  | tick time =>
    exact ⟨book, h.congr (fun _ => rfl) (fun _ => rfl) (fun _ => rfl) id Or.inl,
      ⟨.refl _, fun {_ m} hm => ⟨m, hm, rfl, id, id⟩, Or.inl, fun _ => Or.inl⟩, fun _ => Or.inl⟩

lemma Whole.of_steady (hs : x.Steady x') (h : x'.Whole n i) : x.Whole n i := by
  obtain ⟨m', hm', c, hc, hrest⟩ := h
  obtain ⟨m, hm, -, hsteady⟩ := hs.member' hm'
  exact ⟨m, hm, c, hsteady.consumers.subset hc, hrest⟩

/-- What holds of one turn holds of all that goes on. -/
lemma Books.turns (ho : x.Orderly owner) (h : x.Books routed taken book) (ht : Turns x x') :
    x'.Orderly owner ∧ ∃ book', x'.Books routed taken book' ∧ Onward hired x x' book book' ∧
      ∀ hd ∈ book'.lost, hd ∈ book.lost ∨ x.Whole hd.relay hd.stream := by
  induction ht with
  | refl => exact ⟨ho, book, h, .refl x book, fun _ => Or.inl⟩
  | tail hturns hlast ih =>
    obtain ⟨ho₁, book₁, h₁, honward₁, hlost₁⟩ := ih
    obtain ⟨book₂, h₂, honward₂, hlost₂⟩ := h₁.turn ho₁ hlast
    refine ⟨ho₁.turn hlast, book₂, h₂, honward₁.trans honward₂, ?_⟩
    intro hd hmem
    rcases hlost₂ hd hmem with hmem | hwhole
    · exact hlost₁ hd hmem
    · exact Or.inr (hwhole.of_steady (Turns.steady hturns))

end Exchange

end MessageRelay
