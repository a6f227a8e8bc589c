import MessageRelay.Broker.Desk
import Mathlib.Data.List.Basic

/-!
# What a broker does, one message at a time

A message from outside, one that has been waiting for a consumer, and one that was left unsettled when
a session ended all reach a consumer in the same way: their queue dispatches them, one after the other.
This file brings the operations of a broker into that form.  `route_cases` says what can become of one
message; subscribing and the end of a session are a change of the queue followed by such routings
(`consume_eq_routeAll`, `releaseQueue_eq_routeAll`).
-/

namespace MessageRelay

namespace Queue

variable {alive : Nat → Bool} {q : Queue} {slot : Slot} {payload : Bytes}

@[simp] lemma prune_unacked : (q.prune alive).unacked = q.unacked := rfl

@[simp] lemma prune_nextTag : (q.prune alive).nextTag = q.nextTag := rfl

lemma mem_slots_of_mem_prune (h : slot ∈ (q.prune alive).slots) : slot ∈ q.slots :=
  (List.mem_filter.1 h).1

lemma alive_of_mem_prune (h : slot ∈ (q.prune alive).slots) : alive slot.stream = true :=
  (List.mem_filter.1 h).2

/-- The queue after a message was handed to one of its consumers. -/
def handed (alive : Nat → Bool) (q : Queue) (slot : Slot) (payload : Bytes) : Queue :=
  ((q.prune alive).handTo slot payload).1

/-- The queue after a message was put to the waiting ones. -/
def stored (alive : Nat → Bool) (q : Queue) (payload : Bytes) : Queue :=
  { q.prune alive with ready := q.ready ++ [payload] }

@[simp] lemma handed_ready : (q.handed alive slot payload).ready = q.ready := rfl

lemma handed_unacked_of_manual (h : slot.mode = .manual) :
    (q.handed alive slot payload).unacked = q.unacked ++ [⟨q.nextTag, slot.session, payload⟩] := by
  simp [handed, handTo, h]

lemma handed_unacked_of_auto (h : slot.mode = .auto) :
    (q.handed alive slot payload).unacked = q.unacked := by
  simp [handed, handTo, h]

@[simp] lemma stored_ready : (q.stored alive payload).ready = q.ready ++ [payload] := rfl

@[simp] lemma stored_unacked : (q.stored alive payload).unacked = q.unacked := rfl

/-- A message is handed to a consumer that listens, or joins the waiting ones because nobody does. -/
lemma dispatch_cases (alive : Nat → Bool) (q : Queue) (payload : Bytes) :
    (∃ slot ∈ q.slots, alive slot.stream = true ∧
        q.dispatch alive payload =
          (q.handed alive slot payload, [⟨slot.stream, q.nextTag, payload⟩])) ∨
      ((∀ slot ∈ q.slots, alive slot.stream = false) ∧
        q.dispatch alive payload = (q.stored alive payload, [])) := by
  cases h : (q.prune alive).current? with
  | some slot =>
    left
    have hmem : slot ∈ (q.prune alive).slots := List.mem_of_getElem? h
    exact ⟨slot, mem_slots_of_mem_prune hmem, alive_of_mem_prune hmem, dispatch_of_current h⟩
  | none =>
    right
    refine ⟨?_, dispatch_of_no_current h⟩
    intro slot hslot
    have hnil : q.slots.filter (fun s => alive s.stream) = [] := current?_eq_none_iff.1 h
    simpa using List.filter_eq_nil_iff.1 hnil slot hslot

end Queue

/-- A stream from which the oldest message was taken. -/
def Stream.behead (s : Stream) : Stream :=
  { s with buffer := s.buffer.tail }

/-- A stream to which nobody listens any more. -/
def Stream.abandon (s : Stream) : Stream :=
  { s with listening := false, buffer := [] }

namespace Broker

variable {b : Broker} {name other : String} {q q' : Queue} {payload : Bytes}

/-! ## Queues by name -/

lemma lookup_map_of_ne (queues : List (String × Queue)) (q : Queue) (h : other ≠ name) :
    (queues.map fun p => if p.1 = name then (p.1, q) else p).lookup other = queues.lookup other := by
  induction queues with
  | nil => rfl
  | cons p rest ih =>
    obtain ⟨key, value⟩ := p
    rw [List.map_cons]
    by_cases hp : key = name
    · have hne : (other == key) = false := by simpa [hp] using h
      simp only [hp, if_true] at hne ⊢
      rw [List.lookup_cons, List.lookup_cons, hne]
      exact ih
    · simp only [hp, if_false]
      rw [List.lookup_cons, List.lookup_cons, ih]

lemma queue?_setQueue_of_ne (b : Broker) (q : Queue) (h : other ≠ name) :
    (b.setQueue name q).queue? other = b.queue? other :=
  lookup_map_of_ne b.queues q h

lemma queue?_setQueue (h : b.queue? name = some q) (q' : Queue) (other : String) :
    (b.setQueue name q').queue? other = if other = name then some q' else b.queue? other := by
  split
  · next heq => rw [heq]; exact queue?_setQueue_self h
  · next hne => exact queue?_setQueue_of_ne b q' hne

@[simp] lemma setQueue_setQueue (b : Broker) (name : String) (q q' : Queue) :
    (b.setQueue name q).setQueue name q' = b.setQueue name q' := by
  unfold setQueue
  simp only [List.map_map]
  congr 1
  apply List.map_congr_left
  intro p _
  by_cases hp : p.1 = name <;> simp [hp]

@[simp] lemma setQueue_streams : (b.setQueue name q).streams = b.streams := rfl

@[simp] lemma setQueue_isListening : (b.setQueue name q).isListening = b.isListening := rfl

@[simp] lemma carryAll_queue? (hs : List Handover) : (b.carryAll hs).queue? = b.queue? := rfl

lemma setQueue_carryAll (b : Broker) (name : String) (q : Queue) (hs : List Handover) :
    (b.carryAll hs).setQueue name q = (b.setQueue name q).carryAll hs := rfl

lemma carryAll_carryAll (b : Broker) (hs hs' : List Handover) :
    (b.carryAll hs).carryAll hs' = b.carryAll (hs ++ hs') := by
  simp [carryAll, List.foldl_append]

/-! ## Streams -/

lemma getElem?_carry (streams : List Stream) (h : Handover) (i : Nat) :
    (carry streams h)[i]? = (streams[i]?).map fun s =>
      if h.stream = i then { s with buffer := s.buffer ++ [(h.tag, h.payload)] } else s := by
  rw [carry, List.getElem?_modify]
  rfl

@[simp] lemma length_carry (streams : List Stream) (h : Handover) :
    (carry streams h).length = streams.length := by
  simp [carry]

/-- A message in a stream after something was carried was there before, or is what was carried. -/
lemma mem_buffer_carry {streams : List Stream} {h : Handover} {i : Nat} {s' : Stream}
    (hs : (carry streams h)[i]? = some s') :
    ∃ s, streams[i]? = some s ∧ s'.queue = s.queue ∧ s'.mode = s.mode ∧
      s'.listening = s.listening ∧
      ((i ≠ h.stream ∧ s'.buffer = s.buffer) ∨
        (i = h.stream ∧ s'.buffer = s.buffer ++ [(h.tag, h.payload)])) := by
  rw [getElem?_carry] at hs
  obtain ⟨s, hs₀, rfl⟩ := Option.map_eq_some_iff.1 hs
  refine ⟨s, hs₀, ?_⟩
  by_cases hi : h.stream = i
  · simp [hi]
  · simp [hi, Ne.symm hi]

@[simp] lemma isListening_carryAll (hs : List Handover) :
    (b.carryAll hs).isListening = b.isListening := by
  funext i
  induction hs generalizing b with
  | nil => rfl
  | cons h rest ih =>
    have hfirst : (b.carryAll [h]).isListening i = b.isListening i := by
      unfold isListening carryAll
      simp only [List.foldl_cons, List.foldl_nil, getElem?_carry, Option.map_map]
      cases b.streams[i]? with
      | none => rfl
      | some s => by_cases hi : h.stream = i <;> simp [hi]
    have hsplit : b.carryAll (h :: rest) = (b.carryAll [h]).carryAll rest := by
      rw [carryAll_carryAll]
      rfl
    rw [hsplit, ih, hfirst]

/-! ## Routing one message -/

/-- A broker that has handed a message of one of its queues to a consumer. -/
def handOver (b : Broker) (name : String) (q : Queue) (slot : Slot) (payload : Bytes) : Broker :=
  (b.setQueue name (q.handed b.isListening slot payload)).carryAll
    [⟨slot.stream, q.nextTag, payload⟩]

/-- A broker that has put a message to the waiting ones of a queue. -/
def store (b : Broker) (name : String) (q : Queue) (payload : Bytes) : Broker :=
  b.setQueue name (q.stored b.isListening payload)

lemma route_of_none (h : b.queue? name = none) : b.route name payload = b := by
  simp [route, h]

lemma route_of_some (h : b.queue? name = some q) :
    b.route name payload = b.updateQueue name (q.dispatch b.isListening payload) := by
  simp [route, h]

/-- **What can become of one message.**  If its queue was declared, it is handed to a consumer that
listens, or stays with the queue because nobody does. -/
lemma route_cases (h : b.queue? name = some q) (payload : Bytes) :
    (∃ slot ∈ q.slots, b.isListening slot.stream = true ∧
        b.route name payload = b.handOver name q slot payload) ∨
      ((∀ slot ∈ q.slots, b.isListening slot.stream = false) ∧
        b.route name payload = b.store name q payload) := by
  rw [route_of_some h]
  rcases Queue.dispatch_cases b.isListening q payload with ⟨slot, hmem, halive, heq⟩ | ⟨hnone, heq⟩
  · exact Or.inl ⟨slot, hmem, halive, by rw [heq]; rfl⟩
  · exact Or.inr ⟨hnone, by rw [heq]; rfl⟩

lemma handOver_queue? (h : b.queue? name = some q) (slot : Slot) (other : String) :
    (b.handOver name q slot payload).queue? other =
      if other = name then some (q.handed b.isListening slot payload) else b.queue? other :=
  queue?_setQueue h _ other

lemma store_queue? (h : b.queue? name = some q) (other : String) :
    (b.store name q payload).queue? other =
      if other = name then some (q.stored b.isListening payload) else b.queue? other :=
  queue?_setQueue h _ other

@[simp] lemma handOver_streams (slot : Slot) :
    (b.handOver name q slot payload).streams =
      carry b.streams ⟨slot.stream, q.nextTag, payload⟩ := rfl

@[simp] lemma route_sessions (b : Broker) (name : String) (payload : Bytes) :
    (b.route name payload).sessions = b.sessions := by
  unfold route
  split <;> rfl

@[simp] lemma route_isOpen (b : Broker) (name : String) (payload : Bytes) :
    (b.route name payload).isOpen = b.isOpen := by
  funext session
  simp [isOpen]

lemma route_queue?_isSome (h : (b.queue? other).isSome) :
    ((b.route name payload).queue? other).isSome := by
  cases hq : b.queue? name with
  | none => rwa [route_of_none hq]
  | some q =>
    rcases route_cases hq payload with ⟨slot, -, -, heq⟩ | ⟨-, heq⟩
    · rw [heq, handOver_queue? hq]
      split
      · rfl
      · exact h
    · rw [heq, store_queue? hq]
      split
      · rfl
      · exact h

/-! ## Routing several messages -/

/-- Brings several messages to a queue, one after the other. -/
def routeAll (b : Broker) (name : String) (payloads : List Bytes) : Broker :=
  payloads.foldl (fun b payload => b.route name payload) b

@[simp] lemma routeAll_nil : b.routeAll name [] = b := rfl

@[simp] lemma routeAll_cons (payloads : List Bytes) :
    b.routeAll name (payload :: payloads) = (b.route name payload).routeAll name payloads := rfl

/-- What routing one message keeps, routing several keeps. -/
lemma routeAll_induction {P : Broker → Prop} (payloads : List Bytes)
    (step : ∀ b payload, P b → P (b.route name payload)) (h : P b) :
    P (b.routeAll name payloads) := by
  induction payloads generalizing b with
  | nil => exact h
  | cons payload rest ih => exact ih (step b payload h)

@[simp] lemma routeAll_sessions (payloads : List Bytes) :
    (b.routeAll name payloads).sessions = b.sessions :=
  routeAll_induction (P := fun b' => b'.sessions = b.sessions) payloads
    (fun b' payload h => by rw [route_sessions, h]) rfl

/-- To dispatch messages inside a queue and then carry over what it hands out is to route them. -/
lemma updateQueue_dispatchAll (h : (b.queue? name).isSome) (q : Queue) (payloads : List Bytes) :
    b.updateQueue name (q.dispatchAll b.isListening payloads) =
      (b.setQueue name q).routeAll name payloads := by
  induction payloads generalizing b q with
  | nil => rfl
  | cons payload rest ih =>
    obtain ⟨q₀, hq₀⟩ := Option.isSome_iff_exists.1 h
    have hself : (b.setQueue name q).queue? name = some q := queue?_setQueue_self hq₀
    rw [routeAll_cons, route_of_some hself, setQueue_isListening]
    -- the first message goes its way, and the others find the same listeners
    rcases hd : q.dispatch b.isListening payload with ⟨q₁, first⟩
    have hfirst : (b.setQueue name q).updateQueue name (q₁, first) =
        (b.carryAll first).setQueue name q₁ := by
      simp [updateQueue, setQueue_carryAll]
    have hrest := ih (b := b.carryAll first) (by simpa using h) q₁
    rw [isListening_carryAll] at hrest
    rw [hfirst, ← hrest]
    simp only [Queue.dispatchAll, hd, updateQueue, setQueue_carryAll, carryAll_carryAll]

/-! ## Subscribing and closing as routing -/

/-- The broker in which a consumer with a new stream was added to a queue, and the messages that
were waiting are out of it. -/
def enlist (b : Broker) (session : Nat) (name : String) (mode : AckMode) (q : Queue) : Broker :=
  ({ b with streams := b.streams ++ [{ queue := name, mode }] } : Broker).setQueue name
    { q with slots := q.slots ++ [⟨session, mode, b.streams.length⟩], ready := [] }

/-- Subscribing gives a new stream, through which the messages that were waiting are routed. -/
lemma consume_eq_routeAll {session : Nat} {mode : AckMode} (ho : b.isOpen session = true)
    (h : b.queue? name = some q) :
    b.consume session name mode =
      (.ok b.streams.length, (b.enlist session name mode q).routeAll name q.ready) := by
  unfold consume
  rw [if_neg (by simp [ho]), h]
  simp only [Queue.subscribe, enlist, Prod.mk.injEq, true_and]
  exact updateQueue_dispatchAll (b := { b with streams := b.streams ++ [{ queue := name, mode }] })
    (by exact Option.isSome_iff_exists.2 ⟨q, h⟩) _ _

/-- The broker in which a queue has let go of a session: its consumers, and what they have not
settled. -/
def dismiss (b : Broker) (session : Nat) (name : String) (q : Queue) : Broker :=
  b.setQueue name { q with
    slots := q.slots.filter (·.session != session)
    unacked := q.unacked.filter (·.session != session) }

/-- Ends the consumers of a session in one queue. -/
def releaseQueue (session : Nat) (b : Broker) (name : String) : Broker :=
  match b.queue? name with
  | some q => b.updateQueue name (q.release b.isListening session)
  | none => b

lemma releaseQueues_eq_foldl (session : Nat) (names : List String) (b : Broker) :
    b.releaseQueues session names = names.foldl (releaseQueue session) b := rfl

/-- When a session ends, a queue lets go of it and what was not settled is routed again. -/
lemma releaseQueue_eq_routeAll {session : Nat} (h : b.queue? name = some q) :
    releaseQueue session b name =
      (b.dismiss session name q).routeAll name (q.unsettledOf session) := by
  simp only [releaseQueue, h]
  exact updateQueue_dispatchAll (by simp [h]) _ _

lemma releaseQueue_of_none {session : Nat} (h : b.queue? name = none) :
    releaseQueue session b name = b := by
  simp [releaseQueue, h]

/-- The broker in which a session counts as ended but its consumers are still there. -/
def hangUp (b : Broker) (session : Nat) : Broker :=
  { b with sessions := b.sessions.set session false, openSessions := b.openSessions - 1 }

lemma hangUp_releaseQueues (b : Broker) (session : Nat) (names : List String) :
    (b.hangUp session).releaseQueues session names =
      (b.releaseQueues session names).hangUp session := by
  simp only [releaseQueues_eq_foldl]
  induction names generalizing b with
  | nil => rfl
  | cons name rest ih =>
    have hfirst : releaseQueue session (b.hangUp session) name =
        (releaseQueue session b name).hangUp session := by
      have hq : (b.hangUp session).queue? name = b.queue? name := rfl
      unfold releaseQueue
      rw [hq]
      cases b.queue? name with
      | none => rfl
      | some q => rfl
    rw [List.foldl_cons, List.foldl_cons, hfirst, ih]

/-- What routing keeps, the end of a session in a queue keeps. -/
lemma releaseQueues_induction {P : Broker → Prop} (session : Nat) (names : List String)
    (letGo : ∀ b name q, b.queue? name = some q → P b → P (b.dismiss session name q))
    (step : ∀ b name payload, P b → P (b.route name payload)) (h : P b) :
    P (b.releaseQueues session names) := by
  rw [releaseQueues_eq_foldl]
  induction names generalizing b with
  | nil => exact h
  | cons name rest ih =>
    rw [List.foldl_cons]
    apply ih
    cases hq : b.queue? name with
    | none => rwa [releaseQueue_of_none hq]
    | some q =>
      rw [releaseQueue_eq_routeAll hq]
      exact routeAll_induction _ (fun b payload => step b name payload) (letGo b name q hq h)

lemma releaseQueues_fields (b : Broker) (session : Nat) (names : List String) :
    (b.releaseQueues session names).sessions = b.sessions ∧
      (b.releaseQueues session names).openSessions = b.openSessions := by
  apply releaseQueues_induction session names
    (P := fun b' => b'.sessions = b.sessions ∧ b'.openSessions = b.openSessions)
  · intro b' name q _ h
    exact h
  · intro b' name payload h
    refine ⟨by rw [route_sessions, h.1], ?_⟩
    rw [← h.2]
    unfold route
    split <;> rfl
  · exact ⟨rfl, rfl⟩

/-- A session ends by being marked so and then being released by one queue after the other. -/
lemma close_of_open {session : Nat} (h : b.isOpen session = true) :
    b.close session = (b.hangUp session).releaseQueues session (b.queues.map (·.1)) := by
  rw [hangUp_releaseQueues]
  obtain ⟨hs, ho⟩ := releaseQueues_fields b session (b.queues.map (·.1))
  simp only [close, h, hangUp, hs, ho]
  rfl

lemma close_of_not_open {session : Nat} (h : b.isOpen session = false) : b.close session = b := by
  simp [close, h]

/-! ## Changing one stream -/

/-- Changes one stream. -/
def modifyStream (b : Broker) (i : Nat) (f : Stream → Stream) : Broker :=
  { b with streams := b.streams.modify i f }

@[simp] lemma modifyStream_queue? (i : Nat) (f : Stream → Stream) :
    (b.modifyStream i f).queue? = b.queue? := rfl

lemma modifyStream_streams (i j : Nat) (f : Stream → Stream) :
    (b.modifyStream i f).streams[j]? = (b.streams[j]?).map fun s => if i = j then f s else s := by
  rw [modifyStream, List.getElem?_modify]
  rfl

lemma dropStream_eq (b : Broker) (i : Nat) : b.dropStream i = b.modifyStream i Stream.abandon := rfl

/-- What a look into a stream gives: the oldest message in it if there is one, and nothing else
happens. -/
lemma poll_cases (b : Broker) (i : Nat) :
    (b.poll i = (.pending, b) ∨ b.poll i = (.ended, b)) ∨
      ∃ s tag payload rest, b.streams[i]? = some s ∧ s.buffer = (tag, payload) :: rest ∧
        b.poll i = (.delivery ⟨s.queue, tag, payload, s.mode = .manual⟩,
          b.modifyStream i Stream.behead) := by
  unfold poll
  cases hs : b.streams[i]? with
  | none => exact Or.inl (Or.inr rfl)
  | some s =>
    cases hb : s.buffer with
    | nil =>
      left
      simp only [hb]
      cases b.isFed i with
      | true => exact Or.inl rfl
      | false => exact Or.inr rfl
    | cons e rest =>
      right
      obtain ⟨tag, payload⟩ := e
      refine ⟨s, tag, payload, rest, rfl, hb, ?_⟩
      -- to write the other messages back is to take the first one off
      have hset : b.streams.set i { s with buffer := rest } = b.streams.modify i Stream.behead := by
        apply List.ext_getElem?
        intro j
        rw [List.getElem?_set, List.getElem?_modify]
        by_cases hij : i = j
        · subst hij
          have hlt : i < b.streams.length := (List.getElem?_eq_some_iff.1 hs).1
          rw [if_pos rfl, if_pos hlt, hs]
          simp [Stream.behead, hb]
        · cases hj : b.streams[j]? <;> simp [hij]
      simp only [hb, modifyStream, hset]

end Broker

end MessageRelay
