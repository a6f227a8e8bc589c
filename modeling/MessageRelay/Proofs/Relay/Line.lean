import MessageRelay.Proofs.Broker.Lane
import MessageRelay.Proofs.Exchange.Turn

/-!
# A relay with one consumer

What a relay does that is the only consumer of one queue and of no other.  All that has ever come to the queue
stands in one line: what the user has taken, what is in the mailbox, what the consumer has in hand while it waits
for a place, and what is in the stream (`Station.InLine`).  The consumer settles a message before it posts it, so
one message at most is settled and not posted.
-/

namespace MessageRelay

/-- The event that says what a message was. -/
def Relay.eventFor (payload : Bytes) : Event :=
  (Relay.eventOf payload).1

namespace Mailbox

variable {m m' : Mailbox} {stream : Nat} {event : Event}

/-- A mailbox to which one consumer posts. -/
structure Single (stream : Nat) (m : Mailbox) : Prop where
  kept : m.kept = true
  fits : m.posted.length + m.granted.length ≤ m.capacity
  senders : ∀ e ∈ m.granted ++ m.waiting, e.1 = .consumer stream
  /-- The consumer has one event in hand at most. -/
  one : (m.granted ++ m.waiting).length ≤ 1
  /-- It waits because the mailbox is full. -/
  full : m.waiting ≠ [] → m.room = 0

/-- The events of those who wait for a place or have not used theirs. -/
def inHand (m : Mailbox) : List Event :=
  (m.granted ++ m.waiting).map (·.2)

lemma single_new (stream capacity : Nat) : ({ capacity } : Mailbox).Single stream :=
  ⟨rfl, Nat.zero_le _, fun _ he => by simp at he, Nat.zero_le _, fun h => absurd rfl h⟩

/-- A consumer that has nothing in hand does not wait. -/
lemma Single.free (h : m.Single stream) (hfree : m.holds (.consumer stream) = false) :
    m.granted = [] ∧ m.waiting = [] := by
  have hnone : m.granted ++ m.waiting = [] := by
    refine List.eq_nil_iff_forall_not_mem.2 fun e he => ?_
    rw [holds, List.any_eq_false] at hfree
    have hmem : e ∈ m.waiting ++ m.granted := List.mem_append.2 (List.mem_append.1 he).symm
    exact hfree e hmem (beq_iff_eq.2 (h.senders e he))
  exact List.append_eq_nil_iff.1 hnone

lemma Single.offer (h : m.Single stream) (hfree : m.holds (.consumer stream) = false) (event : Event) :
    (∃ m', m.offer (.consumer stream) event = .posted m' ∧ m'.Single stream ∧ m'.capacity = m.capacity ∧
        m'.posted = m.posted ++ [event] ∧ m'.inHand = [] ∧ m'.holds (.consumer stream) = false) ∨
      ∃ m', m.offer (.consumer stream) event = .waits m' ∧ m'.Single stream ∧ m'.capacity = m.capacity ∧
        m'.posted = m.posted ∧ m'.inHand = [event] := by
  obtain ⟨hgranted, hwaiting⟩ := h.free hfree
  have hfits := h.fits
  rw [hgranted] at hfits
  by_cases hroom : 0 < m.room
  · refine Or.inl ⟨m.put event, by simp [Mailbox.offer, h.kept, hroom], ?_, rfl, rfl, ?_, ?_⟩
    · refine ⟨h.kept, ?_, h.senders, h.one, fun hne => absurd hwaiting hne⟩
      simp only [room, hgranted, List.length_nil] at hroom hfits
      simp only [put, hgranted, List.length_append, List.length_singleton, List.length_nil]
      omega
    · simp [put, inHand, hgranted, hwaiting]
    · simp [put, holds, hgranted, hwaiting]
  · refine Or.inr ⟨{ m with waiting := m.waiting ++ [(.consumer stream, event)] },
      by simp [Mailbox.offer, h.kept, hroom], ?_, rfl, rfl, by simp [inHand, hgranted, hwaiting]⟩
    refine ⟨h.kept, h.fits, ?_, by simp [hgranted, hwaiting], fun _ => ?_⟩
    · simp [hgranted, hwaiting]
    · show m.room = 0
      omega

/-- The consumer uses the place that it was given. -/
lemma Single.grant {sender : Sender} {rest : List (Sender × Event)} (h : m.Single stream)
    (hg : m.granted = (sender, event) :: rest) :
    (({ m with granted := rest } : Mailbox).put event).Single stream ∧
      ({ m with granted := rest } : Mailbox).posted ++ [event] ++
          (({ m with granted := rest } : Mailbox).put event).inHand = m.posted ++ m.inHand ∧
      (({ m with granted := rest } : Mailbox).put event).holds (.consumer stream) = false := by
  have hone := h.one
  rw [hg, List.cons_append, List.length_cons] at hone
  have hnil : rest ++ m.waiting = [] := List.eq_nil_of_length_eq_zero (by omega)
  obtain ⟨rfl, hwaiting⟩ := List.append_eq_nil_iff.1 hnil
  have hfits := h.fits
  rw [hg, List.length_singleton] at hfits
  refine ⟨⟨h.kept, ?_, ?_, ?_, fun hne => absurd hwaiting hne⟩, ?_, ?_⟩
  · simpa [put] using hfits
  · simp [put, hwaiting]
  · simp [put, hwaiting]
  · simp [put, inHand, hg, hwaiting]
  · simp [put, holds, hwaiting]

/-- The user takes events, and the consumer may be given a place. -/
lemma Single.take (h : m.Single stream) (limit : Option Nat) :
    (m.take limit).2.Single stream ∧ (m.take limit).2.capacity = m.capacity ∧
      (m.take limit).1 ++ (m.take limit).2.posted ++ (m.take limit).2.inHand = m.posted ++ m.inHand := by
  have hfits := h.fits
  refine ⟨⟨h.kept, ?_, ?_, ?_, fun hne => ?_⟩, rfl, ?_⟩
  · simp only [Mailbox.take, Mailbox.grant, room, List.length_append, List.length_take, List.length_drop]
    omega
  · intro e he
    refine h.senders e ?_
    simpa only [Mailbox.take, Mailbox.grant, List.append_assoc, List.take_append_drop] using he
  · simpa only [Mailbox.take, Mailbox.grant, List.append_assoc, List.take_append_drop] using h.one
  · simp only [Mailbox.take, Mailbox.grant, room, ne_eq, List.drop_eq_nil_iff, Nat.not_le] at hne
    simp only [Mailbox.take, Mailbox.grant, room, List.length_append, List.length_take]
    omega
  · simp only [Mailbox.take, Mailbox.grant, inHand, List.append_assoc, List.take_append_drop]

end Mailbox

namespace Station

variable {name : String} {slot : Slot} {capacity : Nat} {routed : List Bytes} {taken : List Event}
  {s : Station} {b b' : Broker}

/-- A relay is the only consumer that a queue ever had, and has no other queue.  `routed` is all that has come to
the queue, and `taken` are the events that the user has taken. -/
structure InLine (name : String) (slot : Slot) (capacity : Nat) (routed : List Bytes) (taken : List Event)
    (s : Station) (b : Broker) : Prop where
  consumers : s.relay.consumers = [{ queue := name, stream := slot.stream }]
  mailbox : s.mailbox.Single slot.stream
  capacity_eq : s.mailbox.capacity = capacity
  line : ∃ read left, b.Lane name slot read left ∧ routed = read ++ left.map (·.2) ∧
    read.map Relay.eventFor = taken ++ (s.mailbox.posted ++ s.mailbox.inHand)

/-- What does not touch the queue does not touch the line. -/
lemma InLine.congr (h : s.InLine name slot capacity routed taken b)
    (hb : ∀ {read left}, b.Lane name slot read left → b'.Lane name slot read left) :
    s.InLine name slot capacity routed taken b' where
  consumers := h.consumers
  mailbox := h.mailbox
  capacity_eq := h.capacity_eq
  line := by
    obtain ⟨read, left, hlane, hrest⟩ := h.line
    exact ⟨read, left, hb hlane, hrest⟩

/-- A message comes to the queue. -/
lemma InLine.route (h : s.InLine name slot capacity routed taken b) (payload : Bytes) :
    s.InLine name slot capacity (routed ++ [payload]) taken (b.route name payload) where
  consumers := h.consumers
  mailbox := h.mailbox
  capacity_eq := h.capacity_eq
  line := by
    obtain ⟨read, left, hlane, hrouted, hread⟩ := h.line
    obtain ⟨tag, hlane'⟩ := hlane.route payload
    refine ⟨read, _, hlane', ?_, hread⟩
    rw [hrouted, List.map_append, List.append_assoc]
    rfl

/-- The user takes events. -/
lemma InLine.take (h : s.InLine name slot capacity routed taken b) (limit : Option Nat) :
    ({ s with mailbox := (s.mailbox.take limit).2 } : Station).InLine name slot capacity routed
      (taken ++ (s.mailbox.take limit).1) b := by
  obtain ⟨hsingle, hcapacity, hevents⟩ := h.mailbox.take limit
  obtain ⟨read, left, hlane, hrouted, hread⟩ := h.line
  refine ⟨h.consumers, hsingle, hcapacity.trans h.capacity_eq, read, left, hlane, hrouted, ?_⟩
  rw [hread, ← hevents]
  simp only [List.append_assoc]

/-- The consumer uses the place that it was given. -/
lemma InLine.grant {sender : Sender} {event : Event} {rest : List (Sender × Event)}
    (h : s.InLine name slot capacity routed taken b) (hg : s.mailbox.granted = (sender, event) :: rest) :
    ({ s with mailbox := ({ s.mailbox with granted := rest } : Mailbox).put event } : Station).InLine name slot
      capacity routed taken b := by
  obtain ⟨hsingle, hevents, -⟩ := h.mailbox.grant hg
  obtain ⟨read, left, hlane, hrouted, hread⟩ := h.line
  refine ⟨h.consumers, hsingle, h.capacity_eq, read, left, hlane, hrouted, ?_⟩
  rw [hread, ← hevents]
  rfl

/-- **The consumer goes on.**  It never stops: something may always come, and the mailbox is kept. -/
lemma InLine.consume (h : s.InLine name slot capacity routed taken b)
    (hfree : s.mailbox.holds (.consumer slot.stream) = false) (n : Nat) :
    (consume slot.stream n s b).1.InLine name slot capacity routed taken (consume slot.stream n s b).2 := by
  induction n generalizing s b with
  | zero => exact h
  | succ n ih =>
    obtain ⟨read, left, hlane, hrouted, hread⟩ := h.line
    cases left with
    | nil =>
      have hstep : Station.consume slot.stream (n + 1) s b = (s, b) := by
        simp only [Station.consume, hlane.poll_nil]
      rw [hstep]
      exact h
    | cons e rest =>
      have hrouted' : routed = (read ++ [e.2]) ++ rest.map (·.2) := by
        rw [hrouted, List.map_cons, List.append_assoc]
        rfl
      -- what the consumer has in hand now comes after all that was posted
      have hhand : s.mailbox.inHand = [] := by
        obtain ⟨hgranted, hwaiting⟩ := h.mailbox.free hfree
        rw [Mailbox.inHand, hgranted, hwaiting]
        rfl
      have hread' : (read ++ [e.2]).map Relay.eventFor =
          taken ++ (s.mailbox.posted ++ [Relay.eventFor e.2]) := by
        rw [List.map_append, hread, hhand, List.append_nil, List.append_assoc]
        rfl
      have hserved := hlane.settle
      generalize hb' : (Relay.settle (b.modifyStream slot.stream Stream.behead)
        ⟨name, e.1, e.2, slot.mode = .manual⟩).2 = b' at hserved
      have hevent : (Relay.settle (b.modifyStream slot.stream Stream.behead)
          ⟨name, e.1, e.2, slot.mode = .manual⟩).1 = Relay.eventFor e.2 := rfl
      rcases h.mailbox.offer hfree (Relay.eventFor e.2) with
        ⟨m, hoffer, hsingle, hcapacity, hposted, hnone, hfree'⟩ | ⟨m, hoffer, hsingle, hcapacity, hposted, hone⟩
      · simp only [Station.consume, hlane.poll_cons, hevent, hoffer, hb']
        refine ih ⟨h.consumers, hsingle, hcapacity.trans h.capacity_eq, _, _, hserved, hrouted', ?_⟩ hfree'
        rw [hread', hposted, hnone, List.append_nil]
      · simp only [Station.consume, hlane.poll_cons, hevent, hoffer, hb']
        refine ⟨h.consumers, hsingle, hcapacity.trans h.capacity_eq, _, _, hserved, hrouted', ?_⟩
        rw [hread', hposted, hone]

lemma InLine.runConsumer (h : s.InLine name slot capacity routed taken b) :
    (s.runConsumer b { queue := name, stream := slot.stream }).1.InLine name slot capacity routed taken
      (s.runConsumer b { queue := name, stream := slot.stream }).2 := by
  unfold Station.runConsumer
  split
  · exact h
  · next hfree =>
    rw [Bool.not_eq_true] at hfree
    exact h.consume hfree _

lemma InLine.runConsumers (h : s.InLine name slot capacity routed taken b) :
    (s.runConsumers b).1.InLine name slot capacity routed taken (s.runConsumers b).2 := by
  rw [Station.runConsumers, h.consumers]
  exact h.runConsumer

lemma InLine.resume (h : s.InLine name slot capacity routed taken b) (stream : Nat) :
    (s.resume b stream).1.InLine name slot capacity routed taken (s.resume b stream).2 := by
  unfold Station.resume
  rw [h.consumers]
  by_cases hstream : slot.stream = stream
  · rw [List.find?_cons_of_pos (by simp [hstream])]
    exact h.runConsumer
  · rw [List.find?_cons_of_neg (by simp [hstream])]
    exact h

/-- **Where everything is when the consumer can do no more.**  Either it waits at a full mailbox with one message in
hand, or nothing is left in the stream. -/
lemma InLine.atRest (h : s.InLine name slot capacity routed taken b) (hgranted : s.mailbox.granted = [])
    (hidle : s.mailbox.holds (.consumer slot.stream) = true ∨
      ∃ stream, b.streams[slot.stream]? = some stream ∧ stream.buffer = []) :
    taken ++ s.mailbox.posted = (routed.take (taken.length + capacity)).map Relay.eventFor ∧
      ∃ left, b.Lane name slot (routed.take (taken.length + capacity + 1)) left ∧
        left.length = routed.length - min routed.length (taken.length + capacity + 1) := by
  obtain ⟨read, left, hlane, hrouted, hread⟩ := h.line
  have hlength := congrArg List.length hread
  have hfits := h.mailbox.fits
  have hone := h.mailbox.one
  rw [hgranted] at hfits hone
  simp only [Mailbox.inHand, hgranted, List.nil_append, List.length_map, List.length_append, List.length_nil,
    Nat.add_zero] at hlength hfits hone
  rw [h.capacity_eq] at hfits
  -- if somebody waits the mailbox is full, and if nobody does the stream is empty
  have hcases : (s.mailbox.waiting.length = 1 ∧ s.mailbox.posted.length = capacity) ∨
      (s.mailbox.waiting = [] ∧ left = []) := by
    by_cases hwaiting : s.mailbox.waiting = []
    · refine Or.inr ⟨hwaiting, ?_⟩
      rcases hidle with hholds | ⟨stream, hstream, hdry⟩
      · simp [Mailbox.holds, hgranted, hwaiting] at hholds
      · rw [hlane.stream, Option.some.injEq] at hstream
        rw [← hstream] at hdry
        exact hdry
    · have hfull := h.mailbox.full hwaiting
      have hpos : s.mailbox.waiting.length ≠ 0 := fun hzero => hwaiting (List.eq_nil_of_length_eq_zero hzero)
      simp only [Mailbox.room, hgranted, List.length_nil, h.capacity_eq] at hfull
      refine Or.inl ⟨by omega, by omega⟩
  have htake : ∀ k, k ≤ read.length → routed.take k = read.take k := fun k hk => by
    rw [hrouted, List.take_append_of_le_length hk]
  rcases hcases with ⟨hwaits, hfull⟩ | ⟨hnone, rfl⟩
  · have hread₁ : read.length = taken.length + capacity + 1 := by omega
    refine ⟨?_, left, ?_, ?_⟩
    · rw [htake _ (by omega), List.map_take, hread, ← List.append_assoc, List.take_append_of_le_length (by
        rw [List.length_append]; omega), List.take_of_length_le (by rw [List.length_append]; omega)]
    · rw [htake _ (by omega), List.take_of_length_le (by omega)]
      exact hlane
    · rw [hrouted, List.length_append, List.length_map]
      omega
  · rw [List.map_nil, List.append_nil] at hrouted
    subst hrouted
    have hshort : routed.length ≤ taken.length + capacity := by
      rw [hnone, List.length_nil] at hlength
      omega
    refine ⟨?_, [], ?_, ?_⟩
    · rw [List.take_of_length_le hshort, hread, Mailbox.inHand, hgranted, hnone]
      simp
    · rw [List.take_of_length_le (by omega)]
      exact hlane
    · rw [List.length_nil]
      omega

end Station

end MessageRelay
