import MessageRelay.Exchange
import MessageRelay.Proofs.Broker.Routing
import Mathlib.Logic.Relation

/-!
# Turns

What goes on in an exchange by itself happens in turns.  In one turn a consumer takes a message, settles
it, and posts what it was, waits with it for a place, or finds that nobody wants it; or a consumer stops;
or somebody who was given a place uses it.  `Station.Turn` and `Exchange.Turn` say this once.  As long as
there are no nodes, all that `Exchange.quiesce` and `Exchange.pass` do is a sequence of turns
(`quiesce_turns`, `pass_turns`), so what one turn keeps is kept by them.

After everything has gone on, nobody has a place that he has not used (`quiesce_calm`).
-/

namespace MessageRelay

/-! ## Mailboxes -/

namespace Mailbox

variable {m m' : Mailbox} {sender : Sender} {event : Event}

lemma offer_eq_posted (h : m.offer sender event = .posted m') :
    m.kept = true ∧ 0 < m.room ∧ m' = m.put event := by
  unfold offer at h
  split at h
  · cases h
  · next hk =>
    split at h
    · next hr =>
      cases h
      exact ⟨by simpa using hk, hr, rfl⟩
    · cases h

lemma offer_eq_waits (h : m.offer sender event = .waits m') :
    m.kept = true ∧ m.room = 0 ∧ m' = { m with waiting := m.waiting ++ [(sender, event)] } := by
  unfold offer at h
  split at h
  · cases h
  · next hk =>
    split at h
    · cases h
    · next hr =>
      cases h
      exact ⟨by simpa using hk, Nat.eq_zero_of_not_pos hr, rfl⟩

lemma offer_eq_refused (h : m.offer sender event = .refused) : m.kept = false := by
  unfold offer at h
  split at h
  · next hk => simpa using hk
  · split at h <;> cases h

/-- Who waits after places were given, or was given one, had been waiting. -/
lemma mem_of_grant {p : Sender × Event} (h : p ∈ m.grant.waiting ++ m.grant.granted) :
    p ∈ m.waiting ++ m.granted := by
  simp only [grant, List.mem_append] at h ⊢
  rcases h with h | h | h
  · exact Or.inl (List.mem_of_mem_drop h)
  · exact Or.inr h
  · exact Or.inl (List.mem_of_mem_take h)

lemma mem_of_forget {p : Sender × Event} (h : p ∈ (m.forget sender).waiting ++ (m.forget sender).granted) :
    p ∈ m.waiting ++ m.granted := by
  simp only [forget, List.mem_append] at h ⊢
  exact h.imp List.mem_of_mem_filter List.mem_of_mem_filter

lemma useGrant_eq_some (h : m.useGrant = some (sender, m')) :
    ∃ event rest, m.granted = (sender, event) :: rest ∧
      m' = ({ m with granted := rest } : Mailbox).put event := by
  unfold useGrant at h
  split at h
  · cases h
  · next e rest hg =>
    cases h
    exact ⟨_, _, hg, rfl⟩

lemma useGrant_eq_none (h : m.useGrant = none) : m.granted = [] := by
  unfold useGrant at h
  split at h
  · assumption
  · cases h

end Mailbox

namespace Station

/-! ## What a consumer does -/

/-- What a consumer of a station does at a time, when it has nothing in hand. -/
inductive Turn : Station × Broker → Station × Broker → Prop
  /-- It takes a message, settles it and posts it. -/
  | post {s : Station} {b b' : Broker} {c : Consumer} {d : Delivery} {m : Mailbox}
      (hc : c ∈ s.relay.consumers) (hwhole : c.broken = false)
      (hfree : s.mailbox.holds (.consumer c.stream) = false)
      (hpoll : b.poll c.stream = (.delivery d, b'))
      (hoffer : s.mailbox.offer (.consumer c.stream) (Relay.eventOf d.payload).1 = .posted m) :
      Turn (s, b) ({ s with mailbox := m }, (Relay.settle b' d).2)
  /-- It takes a message, settles it, and waits for a place to post it. -/
  | wait {s : Station} {b b' : Broker} {c : Consumer} {d : Delivery} {m : Mailbox}
      (hc : c ∈ s.relay.consumers) (hwhole : c.broken = false)
      (hfree : s.mailbox.holds (.consumer c.stream) = false)
      (hpoll : b.poll c.stream = (.delivery d, b'))
      (hoffer : s.mailbox.offer (.consumer c.stream) (Relay.eventOf d.payload).1 = .waits m) :
      Turn (s, b) ({ s with mailbox := m }, (Relay.settle b' d).2)
  /-- It takes a message, settles it, and stops because nobody wants it. -/
  | refuse {s : Station} {b b' : Broker} {c : Consumer} {d : Delivery}
      (hc : c ∈ s.relay.consumers) (hwhole : c.broken = false)
      (hfree : s.mailbox.holds (.consumer c.stream) = false)
      (hpoll : b.poll c.stream = (.delivery d, b'))
      (hoffer : s.mailbox.offer (.consumer c.stream) (Relay.eventOf d.payload).1 = .refused) :
      Turn (s, b) (s.stopConsumer c.stream (Relay.settle b' d).2)
  /-- It stops. -/
  | stop {s : Station} {b : Broker} {c : Consumer} (hc : c ∈ s.relay.consumers)
      (hfree : s.mailbox.holds (.consumer c.stream) = false) :
      Turn (s, b) (s.stopConsumer c.stream b)

/-- Turns one after the other. -/
abbrev Turns : Station × Broker → Station × Broker → Prop :=
  Relation.ReflTransGen Turn

variable {s s' s'' : Station} {b b' : Broker} {c : Consumer}

/-- Only consumers take turns. -/
lemma Turn.consumers_ne {p p' : Station × Broker} (h : Turn p p') : p.1.relay.consumers ≠ [] := by
  cases h with
  | post hc | wait hc | refuse hc | stop hc => exact List.ne_nil_of_mem hc

lemma consume_turns (hc : c ∈ s.relay.consumers) (hwhole : c.broken = false)
    (hfree : s.mailbox.holds (.consumer c.stream) = false) (n : Nat) :
    Turns (s, b) (consume c.stream n s b) := by
  induction n generalizing s b with
  | zero => exact .refl
  | succ n ih =>
    unfold consume
    rcases Broker.poll_cases b c.stream with (hp | hp) | ⟨t, tag, payload, rest, -, -, hp⟩
    · rw [hp]
    · rw [hp]; exact .single (.stop hc hfree)
    · rw [hp]
      simp only [Relay.settle]
      split
      · next m hoffer =>
        refine .head (.post hc hwhole hfree hp hoffer) ?_
        refine ih (s := { s with mailbox := m }) hc ?_
        obtain ⟨-, -, rfl⟩ := Mailbox.offer_eq_posted hoffer
        exact hfree
      · next m hoffer => exact .single (.wait hc hwhole hfree hp hoffer)
      · next hoffer => exact .single (.refuse hc hwhole hfree hp hoffer)

lemma runConsumer_turns (hc : c ∈ s.relay.consumers) : Turns (s, b) (s.runConsumer b c) := by
  unfold runConsumer
  split
  · exact .refl
  · next hfree =>
    rw [Bool.not_eq_true] at hfree
    split
    · exact .single (.stop hc hfree)
    · next hwhole => exact consume_turns hc (by simpa using hwhole) hfree _

lemma resume_turns (s : Station) (b : Broker) (stream : Nat) :
    Turns (s, b) (s.resume b stream) := by
  unfold resume
  split
  · next c hc => exact runConsumer_turns (List.mem_of_find?_eq_some hc)
  · exact .refl

/-- A consumer that goes on does not touch the other consumers. -/
lemma consume_relay (stream n : Nat) (s : Station) (b : Broker) :
    (consume stream n s b).1.relay = s.relay ∨
      (consume stream n s b).1.relay = s.relay.withoutConsumer stream := by
  induction n generalizing s b with
  | zero => exact Or.inl rfl
  | succ n ih =>
    unfold consume
    split
    · exact Or.inl rfl
    · exact Or.inr rfl
    · simp only [Relay.settle]
      split
      · next m _ => exact ih { s with mailbox := m } _
      · exact Or.inl rfl
      · exact Or.inr rfl

lemma mem_runConsumer {c' : Consumer} (hc' : c' ∈ s.relay.consumers)
    (hne : c'.stream ≠ c.stream) : c' ∈ (s.runConsumer b c).1.relay.consumers := by
  have hkept : c' ∈ (s.relay.withoutConsumer c.stream).consumers :=
    List.mem_filter.2 ⟨hc', by simpa using hne⟩
  unfold runConsumer
  split
  · exact hc'
  · split
    · exact hkept
    · rcases consume_relay c.stream (backlog b c.stream + 1) s b with h | h <;> rw [h]
      · exact hc'
      · exact hkept

/-- Consumers that go on one after the other take turns, if no two have the same stream. -/
lemma runConsumers_turns (hnodup : (s.relay.consumers.map (·.stream)).Nodup) (b : Broker) :
    Turns (s, b) (s.runConsumers b) := by
  have hfold : ∀ (l : List Consumer) (s : Station) (b : Broker), (l.map (·.stream)).Nodup →
      l ⊆ s.relay.consumers →
      Turns (s, b) (l.foldl (fun acc c => acc.1.runConsumer acc.2 c) (s, b)) := by
    intro l
    induction l with
    | nil =>
      intro s b _ _
      exact .refl
    | cons c rest ih =>
      intro s b hnodup hsub
      rw [List.map_cons, List.nodup_cons] at hnodup
      rw [List.cons_subset] at hsub
      refine (runConsumer_turns (b := b) hsub.1).trans (ih _ _ hnodup.2 ?_)
      intro c' hc'
      refine mem_runConsumer (hsub.2 hc') ?_
      intro heq
      exact hnodup.1 (heq ▸ List.mem_map_of_mem hc')
  exact hfold _ s b hnodup (List.Subset.refl _)

/-! ## What turns do not touch -/

/-- `s'` is `s` after some turns: consumers may have stopped, and events may have come into the mailbox;
the rest is as it was. -/
structure Steady (s s' : Station) : Prop where
  session_eq : s'.relay.session = s.relay.session
  config_eq : s'.relay.config = s.relay.config
  closed_eq : s'.relay.closed = s.relay.closed
  consumers : s'.relay.consumers.Sublist s.relay.consumers
  kept_eq : s'.mailbox.kept = s.mailbox.kept
  granted_le : s'.mailbox.granted.length ≤ s.mailbox.granted.length

lemma Steady.refl (s : Station) : s.Steady s :=
  ⟨rfl, rfl, rfl, List.Sublist.refl _, rfl, Nat.le_refl _⟩

lemma Steady.trans (h : s.Steady s') (h' : s'.Steady s'') : s.Steady s'' where
  session_eq := h'.session_eq.trans h.session_eq
  config_eq := h'.config_eq.trans h.config_eq
  closed_eq := h'.closed_eq.trans h.closed_eq
  consumers := h'.consumers.trans h.consumers
  kept_eq := h'.kept_eq.trans h.kept_eq
  granted_le := Nat.le_trans h'.granted_le h.granted_le

/-- A station after one of its consumers has stopped. -/
def without (s : Station) (stream : Nat) : Station where
  relay := s.relay.withoutConsumer stream
  mailbox := s.mailbox.forget (.consumer stream)

lemma stopConsumer_eq (s : Station) (stream : Nat) (b : Broker) :
    s.stopConsumer stream b = (s.without stream, b.dropStream stream) := rfl

lemma steady_without (s : Station) (stream : Nat) : s.Steady (s.without stream) :=
  ⟨rfl, rfl, rfl, List.filter_sublist, rfl, List.length_filter_le _ _⟩

lemma settle_sessions (b : Broker) (d : Delivery) : (Relay.settle b d).2.sessions = b.sessions := by
  simp only [Relay.settle, Broker.settle]
  split
  · rfl
  · split
    · rfl
    · split <;> rfl

lemma poll_sessions {stream : Nat} {r : Poll} (h : b.poll stream = (r, b')) :
    b'.sessions = b.sessions := by
  rcases Broker.poll_cases b stream with (hp | hp) | ⟨t, tag, payload, rest, -, -, hp⟩ <;>
  · rw [hp] at h
    cases h
    rfl

/-- Sessions neither open nor end in a turn. -/
lemma Turn.sessions_eq {p p' : Station × Broker} (h : Turn p p') :
    p'.2.sessions = p.2.sessions := by
  cases h with
  | post _ _ _ hpoll _ => rw [settle_sessions, poll_sessions hpoll]
  | wait _ _ _ hpoll _ => rw [settle_sessions, poll_sessions hpoll]
  | refuse _ _ _ hpoll _ => exact (settle_sessions _ _).trans (poll_sessions hpoll)
  | stop => rfl

lemma Turn.steady {p p' : Station × Broker} (h : Turn p p') : p.1.Steady p'.1 := by
  cases h with
  | post hc _ hfree hpoll hoffer =>
    obtain ⟨-, -, rfl⟩ := Mailbox.offer_eq_posted hoffer
    exact ⟨rfl, rfl, rfl, List.Sublist.refl _, rfl, Nat.le_refl _⟩
  | wait hc _ hfree hpoll hoffer =>
    obtain ⟨-, -, rfl⟩ := Mailbox.offer_eq_waits hoffer
    exact ⟨rfl, rfl, rfl, List.Sublist.refl _, rfl, Nat.le_refl _⟩
  | refuse => exact steady_without ..
  | stop => exact steady_without ..

end Station

namespace Exchange

variable {x x' x'' : Exchange} {n k : Nat} {m m' : Member}

/-! ## One relay and the broker -/

/-- The exchange in which a relay and the broker are in a new state. -/
def put (x : Exchange) (n : Nat) (s : Station) (b : Broker) : Exchange :=
  ({ x with broker := b } : Exchange).setStation (.relay n) s

section Put

variable (x n) (s : Station) (b : Broker)

@[simp] lemma put_broker : (x.put n s b).broker = b := rfl

@[simp] lemma put_length : (x.put n s b).relays.length = x.relays.length :=
  List.length_modify ..

lemma put_relays (k : Nat) :
    (x.put n s b).relays[k]? =
      x.relays[k]?.map fun m => if n = k then { m with station := s } else m := by
  rw [put, setStation, List.getElem?_modify]
  rfl

lemma put_relays_of_ne (h : k ≠ n) : (x.put n s b).relays[k]? = x.relays[k]? := by
  rw [put_relays]
  cases x.relays[k]? with
  | none => rfl
  | some m => simp [Ne.symm h]

lemma put_put (s' : Station) (b' : Broker) : (x.put n s b).put n s' b' = x.put n s' b' := by
  simp only [put, setStation, List.modify_modify_eq]
  rfl

end Put

lemma put_relays_self (h : x.relays[n]? = some m) (s : Station) (b : Broker) :
    (x.put n s b).relays[n]? = some { m with station := s } := by
  rw [put_relays, h]
  simp

lemma put_self (h : x.relays[n]? = some m) : x.put n m.station x.broker = x := by
  have hrelays : (x.put n m.station x.broker).relays = x.relays := by
    apply List.ext_getElem?
    intro k
    rw [put_relays]
    by_cases hk : n = k
    · subst hk; simp [h]
    · simp [hk]
  calc x.put n m.station x.broker
      = { x with relays := (x.put n m.station x.broker).relays } := rfl
    _ = x := by rw [hrelays]

/-- A relay after another was put in a new state: the new state, or what was there. -/
lemma put_relays_cases {s : Station} {b : Broker} (h : (x.put n s b).relays[k]? = some m') :
    ∃ m, x.relays[k]? = some m ∧
      (k = n ∧ m' = { m with station := s } ∨ k ≠ n ∧ m' = m) := by
  rw [put_relays] at h
  obtain ⟨m, hm, rfl⟩ := Option.map_eq_some_iff.1 h
  refine ⟨m, hm, ?_⟩
  by_cases hk : n = k
  · exact Or.inl ⟨hk.symm, by rw [if_pos hk]⟩
  · exact Or.inr ⟨Ne.symm hk, by rw [if_neg hk]⟩

lemma onStation_relay (h : x.relays[n]? = some m) (f : Station → Broker → Station × Broker) :
    x.onStation (.relay n) f = x.put n (f m.station x.broker).1 (f m.station x.broker).2 := by
  simp [onStation, station?, h, put]

lemma onStation_of_none (h : x.relays[n]? = none) (f : Station → Broker → Station × Broker) :
    x.onStation (.relay n) f = x := by
  simp [onStation, station?, h]

/-! ## Turns of an exchange -/

/-- What goes on in an exchange at a time. -/
inductive Turn : Exchange → Exchange → Prop
  /-- A consumer of a relay does something. -/
  | station {x : Exchange} {n : Nat} {m : Member} {s : Station} {b : Broker}
      (hm : x.relays[n]? = some m) (h : Station.Turn (m.station, x.broker) (s, b)) :
      Turn x (x.put n s b)
  /-- Somebody who was given a place uses it. -/
  | grant {x : Exchange} {n : Nat} {m : Member} {sender : Sender} {mailbox : Mailbox}
      (hm : x.relays[n]? = some m) (h : m.station.mailbox.useGrant = some (sender, mailbox)) :
      Turn x (x.put n { m.station with mailbox } x.broker)
  /-- Time passes. -/
  | tick (x : Exchange) (time : Nat) : Turn x { x with clock := time }

/-- Turns one after the other. -/
abbrev Turns : Exchange → Exchange → Prop :=
  Relation.ReflTransGen Turn

lemma station_turns {s : Station} {b : Broker} (hm : x.relays[n]? = some m)
    (h : Station.Turns (m.station, x.broker) (s, b)) : Turns x (x.put n s b) := by
  have key : ∀ p : Station × Broker, Station.Turns (m.station, x.broker) p →
      Turns x (x.put n p.1 p.2) := by
    intro p hp
    induction hp with
    | refl => rw [put_self hm]
    | @tail p p' _ hlast ih =>
      refine ih.tail ?_
      rw [← put_put x n p.1 p.2 p'.1 p'.2]
      exact .station (put_relays_self hm _ _) hlast
  exact key (s, b) h

/-- What a relay does in turns, the exchange does in turns. -/
lemma onStation_turns {f : Station → Broker → Station × Broker}
    (h : ∀ m, x.relays[n]? = some m → Station.Turns (m.station, x.broker) (f m.station x.broker)) :
    Turns x (x.onStation (.relay n) f) := by
  cases hm : x.relays[n]? with
  | none => rw [onStation_of_none hm]
  | some m =>
    rw [onStation_relay hm]
    exact station_turns hm (h m hm)

/-! ## What turns do not touch -/

/-- `x'` is `x` after some turns. -/
structure Steady (x x' : Exchange) : Prop where
  nodes_eq : x'.nodes = x.nodes
  link_eq : x'.link = x.link
  length_eq : x'.relays.length = x.relays.length
  sessions_eq : x'.broker.sessions = x.broker.sessions
  member : ∀ {n : Nat} {m : Member}, x.relays[n]? = some m →
    ∃ m', x'.relays[n]? = some m' ∧ m'.dropped = m.dropped ∧ m.station.Steady m'.station

lemma Steady.refl (x : Exchange) : x.Steady x :=
  ⟨rfl, rfl, rfl, rfl, fun {_ m} h => ⟨m, h, rfl, Station.Steady.refl _⟩⟩

lemma Steady.trans (h : x.Steady x') (h' : x'.Steady x'') : x.Steady x'' where
  nodes_eq := h'.nodes_eq.trans h.nodes_eq
  link_eq := h'.link_eq.trans h.link_eq
  length_eq := h'.length_eq.trans h.length_eq
  sessions_eq := h'.sessions_eq.trans h.sessions_eq
  member hm := by
    obtain ⟨m₁, hm₁, hd₁, hs₁⟩ := h.member hm
    obtain ⟨m₂, hm₂, hd₂, hs₂⟩ := h'.member hm₁
    exact ⟨m₂, hm₂, hd₂.trans hd₁, hs₁.trans hs₂⟩

/-- The same, from the later moment. -/
lemma Steady.member' (h : x.Steady x') (hm' : x'.relays[n]? = some m') :
    ∃ m, x.relays[n]? = some m ∧ m'.dropped = m.dropped ∧ m.station.Steady m'.station := by
  have hlt : n < x.relays.length := by
    rw [← h.length_eq]
    exact (List.getElem?_eq_some_iff.1 hm').1
  obtain ⟨m₁, hm₁, hrest⟩ := h.member (List.getElem?_eq_getElem hlt)
  rw [hm', Option.some.injEq] at hm₁
  exact ⟨_, List.getElem?_eq_getElem hlt, hm₁ ▸ hrest⟩

lemma steady_put {s : Station} {b : Broker} (hm : x.relays[n]? = some m) (h : m.station.Steady s)
    (hb : b.sessions = x.broker.sessions) : x.Steady (x.put n s b) where
  nodes_eq := rfl
  link_eq := rfl
  length_eq := put_length ..
  sessions_eq := hb
  member {k m₀} hm₀ := by
    by_cases hk : k = n
    · subst hk
      rw [hm, Option.some.injEq] at hm₀
      subst hm₀
      exact ⟨_, put_relays_self hm _ _, rfl, h⟩
    · exact ⟨m₀, by rwa [put_relays_of_ne x n s b hk], rfl, Station.Steady.refl _⟩

lemma Turn.steady (h : Turn x x') : x.Steady x' := by
  cases h with
  | station hm h => exact steady_put hm h.steady h.sessions_eq
  | grant hm h =>
    refine steady_put hm ?_ rfl
    obtain ⟨event, rest, hg, rfl⟩ := Mailbox.useGrant_eq_some h
    refine ⟨rfl, rfl, rfl, List.Sublist.refl _, rfl, ?_⟩
    simp [Mailbox.put, hg]
  | tick time => exact ⟨rfl, rfl, rfl, rfl, fun {_ m} h => ⟨m, h, rfl, Station.Steady.refl _⟩⟩

lemma Turns.steady (h : Turns x x') : x.Steady x' := by
  induction h with
  | refl => exact Steady.refl x
  | tail _ hlast ih => exact ih.trans hlast.steady

/-- No two consumers of a relay have the same stream. -/
def Crewed (x : Exchange) : Prop :=
  ∀ ⦃n : Nat⦄ ⦃m : Member⦄, x.relays[n]? = some m →
    (m.station.relay.consumers.map (·.stream)).Nodup

lemma Crewed.steady (hc : x.Crewed) (h : x.Steady x') : x'.Crewed := by
  intro n m' hm'
  obtain ⟨m, hm, -, hs⟩ := h.member' hm'
  exact (hc hm).sublist (hs.consumers.map _)

/-! ## Going on is taking turns -/

lemma runConsumers_turns (hnodes : x.nodes = []) (hc : x.Crewed) : Turns x x.runConsumers := by
  have hseats : x.seats = (List.range x.relays.length).map .relay := by simp [seats, hnodes]
  rw [runConsumers, hseats]
  generalize List.range x.relays.length = ns
  clear hseats hnodes
  induction ns generalizing x with
  | nil => exact .refl
  | cons n rest ih =>
    have hfirst : Turns x (x.onStation (.relay n) Station.runConsumers) :=
      onStation_turns fun m hm => Station.runConsumers_turns (hc hm) _
    rw [List.map_cons, List.foldl_cons]
    exact hfirst.trans (ih (hc.steady hfirst.steady))

lemma resume_turns (x : Exchange) (n stream : Nat) :
    Turns x (x.onStation (.relay n) fun s b => s.resume b stream) :=
  onStation_turns fun m _ => Station.resume_turns m.station x.broker stream

lemma useGrants_turns (n count : Nat) (x : Exchange) : Turns x (x.useGrants (.relay n) count) := by
  induction count generalizing x with
  | zero => exact .refl
  | succ count ih =>
    unfold useGrants
    cases hm : x.relays[n]? with
    | none => simp only [station?, hm, Option.map_none]; exact .refl
    | some m =>
      simp only [station?, hm, Option.map_some]
      cases hg : m.station.mailbox.useGrant with
      | none => exact .refl
      | some p =>
        obtain ⟨sender, mailbox⟩ := p
        refine .head (.grant hm hg) ((Relation.ReflTransGen.trans ?_) (ih _))
        cases sender with
        | consumer stream =>
          exact resume_turns (x.put n { m.station with mailbox } x.broker) n stream
        | loop => exact .refl
        | call | outgoing => exact .refl

lemma resumeSeat_turns (x : Exchange) (n : Nat) : Turns x (x.resumeSeat (.relay n)) := by
  unfold resumeSeat
  split
  · exact .refl
  · exact useGrants_turns ..

lemma resumeSeats_turns (ns : List Nat) (x : Exchange) :
    Turns x ((ns.map Seat.relay).foldl resumeSeat x) := by
  induction ns generalizing x with
  | nil => exact .refl
  | cons n rest ih =>
    rw [List.map_cons, List.foldl_cons]
    exact (resumeSeat_turns x n).trans (ih _)

/-- Without nodes no message is on its way. -/
lemma arriveAll_eq (hnodes : x.nodes = []) (ns : List Nat) : ns.foldl arriveAt x = x := by
  induction ns with
  | nil => rfl
  | cons n rest ih =>
    have hfirst : x.arriveAt n = x := by simp [arriveAt, dueOf, hnodes]
    rw [List.foldl_cons, hfirst, ih]

/-- Without nodes, those who were given a place go on first, and then all consumers do. -/
lemma quiesce_eq (hnodes : x.nodes = []) :
    x.quiesce =
      (((List.range x.relays.length).map Seat.relay).foldl resumeSeat x).runConsumers := by
  have hseats : x.seats = (List.range x.relays.length).map .relay := by simp [seats, hnodes]
  have hrest := (resumeSeats_turns (List.range x.relays.length) x).steady.nodes_eq.trans hnodes
  rw [quiesce, hseats]
  simp only [arriveAll_eq hrest, beginTasks, hrest, List.length_nil, List.range_zero, List.foldl_nil]

/-- **Everything that goes on by itself happens in turns.** -/
lemma quiesce_turns (hnodes : x.nodes = []) (hc : x.Crewed) : Turns x x.quiesce := by
  have hresumed := resumeSeats_turns (List.range x.relays.length) x
  rw [quiesce_eq hnodes]
  exact hresumed.trans (runConsumers_turns (hresumed.steady.nodes_eq.trans hnodes)
    (hc.steady hresumed.steady))

/-! ## Nobody has a place left -/

/-- Everybody who was given a place in a mailbox has used it. -/
def Calm (x : Exchange) : Prop :=
  ∀ ⦃n : Nat⦄ ⦃m : Member⦄, x.relays[n]? = some m → m.station.mailbox.granted = []

lemma Calm.steady (hc : x.Calm) (h : x.Steady x') : x'.Calm := by
  intro n m' hm'
  obtain ⟨m, hm, -, hs⟩ := h.member' hm'
  have hle := hs.granted_le
  rw [hc hm] at hle
  exact List.eq_nil_of_length_eq_zero (Nat.le_zero.1 hle)

lemma useGrants_granted {count : Nat} (hm : x.relays[n]? = some m)
    (hle : m.station.mailbox.granted.length ≤ count)
    (hm' : (x.useGrants (.relay n) count).relays[n]? = some m') :
    m'.station.mailbox.granted = [] := by
  induction count generalizing x m with
  | zero =>
    rw [useGrants, hm, Option.some.injEq] at hm'
    subst hm'
    exact List.eq_nil_of_length_eq_zero (Nat.le_zero.1 hle)
  | succ count ih =>
    unfold useGrants at hm'
    simp only [station?, hm, Option.map_some] at hm'
    cases hg : m.station.mailbox.useGrant with
    | none =>
      rw [hg, hm, Option.some.injEq] at hm'
      subst hm'
      exact Mailbox.useGrant_eq_none hg
    | some p =>
      obtain ⟨sender, mailbox⟩ := p
      rw [hg] at hm'
      obtain ⟨event, rest, hgranted, rfl⟩ := Mailbox.useGrant_eq_some hg
      -- one place is used, and whatever follows gives out none
      have hposted := put_relays_self hm
        { m.station with mailbox := ({ m.station.mailbox with granted := rest } : Mailbox).put event }
        x.broker
      have hshort : rest.length ≤ count := by
        rw [hgranted, List.length_cons] at hle
        exact Nat.le_of_succ_le_succ hle
      cases sender with
      | consumer stream =>
        obtain ⟨m₁, hm₁, -, hs₁⟩ := (resume_turns _ n stream).steady.member hposted
        exact ih hm₁ (Nat.le_trans hs₁.granted_le hshort) hm'
      | loop => exact ih hposted hshort hm'
      | call | outgoing => exact ih hposted hshort hm'

lemma resumeSeat_granted (hm' : (x.resumeSeat (.relay n)).relays[n]? = some m') :
    m'.station.mailbox.granted = [] := by
  obtain ⟨m, hm, -⟩ := (resumeSeat_turns x n).steady.member' hm'
  rw [resumeSeat] at hm'
  simp only [station?, hm, Option.map_some] at hm'
  exact useGrants_granted hm (Nat.le_refl _) hm'

lemma resumeSeats_calm {ns : List Nat} (h : n ∈ ns)
    (hm' : ((ns.map Seat.relay).foldl resumeSeat x).relays[n]? = some m') :
    m'.station.mailbox.granted = [] := by
  induction ns generalizing x with
  | nil => cases h
  | cons k rest ih =>
    rw [List.map_cons, List.foldl_cons] at hm'
    rcases List.mem_cons.1 h with rfl | hmem
    · obtain ⟨m, hm, -, hs⟩ := (resumeSeats_turns rest (x.resumeSeat (.relay n))).steady.member' hm'
      have hle := hs.granted_le
      rw [resumeSeat_granted hm] at hle
      exact List.eq_nil_of_length_eq_zero (Nat.le_zero.1 hle)
    · exact ih hmem hm'

lemma quiesce_calm (hnodes : x.nodes = []) (hc : x.Crewed) : x.quiesce.Calm := by
  have hresumed := resumeSeats_turns (List.range x.relays.length) x
  have hturns := runConsumers_turns (hresumed.steady.nodes_eq.trans hnodes)
    (hc.steady hresumed.steady)
  rw [quiesce_eq hnodes]
  refine Calm.steady ?_ hturns.steady
  intro n m' hm'
  refine resumeSeats_calm (List.mem_range.2 ?_) hm'
  rw [← hresumed.steady.length_eq]
  exact (List.getElem?_eq_some_iff.1 hm').1

/-! ## Time -/

/-- Without nodes there is nothing to wait for. -/
lemma pass_eq (hnodes : x.nodes = []) (hc : x.Crewed) {ms : Nat} (h : ms ≠ 0) :
    x.pass ms = { x.quiesce with clock := x.clock + ms } := by
  have hrest : x.quiesce.nodes = [] := (quiesce_turns hnodes hc).steady.nodes_eq.trans hnodes
  have hdue : x.quiesce.nextDue? = none := by
    have : x.quiesce.dueOf = fun _ => none := by
      funext n
      simp [dueOf, hrest]
    simp [nextDue?, this]
  rw [pass, if_neg h, wait, waitFor]
  simp only [hdue, Option.all_none, if_true]

lemma pass_turns (hnodes : x.nodes = []) (hc : x.Crewed) (ms : Nat) : Turns x (x.pass ms) := by
  by_cases h : ms = 0
  · rw [pass, if_pos h]
  · rw [pass_eq hnodes hc h]
    exact (quiesce_turns hnodes hc).tail (.tick _ _)

end Exchange

end MessageRelay
