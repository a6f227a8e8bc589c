import MessageRelay.Proofs.Broker.Tags
import Mathlib.Algebra.BigOperators.Group.Multiset.Basic
import Mathlib.Tactic.Abel

/-!
# What a queue has in stock

The stock of a queue are the messages that wait in it and those that were handed over and not yet
settled.  A message also leaves the stock when it is handed to a consumer that settles at once; then it
is in the stream of that consumer.  Counting both together, routing adds exactly the message that is
routed (`balance_route`), and neither a new consumer nor the end of a session changes anything
(`balance_consume`, `balance_close`), although both send messages round again.
-/

namespace MessageRelay

namespace Queue

/-- The messages that a queue has: those that wait, and those that are not settled. -/
def stock (q : Queue) : Multiset Bytes :=
  (q.ready : Multiset Bytes) + (q.unacked.map (·.payload) : List Bytes)

/-- How many messages of a queue were settled in one of the two ways. -/
def count (q : Queue) : Verdict → Nat
  | .ack => q.acked
  | .reject => q.rejected

variable {q : Queue} {alive : Nat → Bool} {slot : Slot} {payload : Bytes}

lemma stock_handed_of_manual (h : slot.mode = .manual) :
    (q.handed alive slot payload).stock = q.stock + {payload} := by
  simp only [stock, handed_ready, handed_unacked_of_manual h, List.map_append, List.map_cons,
    List.map_nil, ← Multiset.coe_add, Multiset.coe_singleton, add_assoc]

lemma stock_handed_of_auto (h : slot.mode = .auto) :
    (q.handed alive slot payload).stock = q.stock := by
  simp only [stock, handed_ready, handed_unacked_of_auto h]

lemma stock_stored : (q.stored alive payload).stock = q.stock + {payload} := by
  simp only [stock, stored_ready, stored_unacked, ← Multiset.coe_add, Multiset.coe_singleton]
  abel

@[simp] lemma count_handed (v : Verdict) : (q.handed alive slot payload).count v = q.count v := by
  cases v <;> rfl

@[simp] lemma count_stored (v : Verdict) : (q.stored alive payload).count v = q.count v := by
  cases v <;> rfl

/-- What a session has not settled, and what others have not, is all that is not settled. -/
lemma unsettledOf_add_others (q : Queue) (session : Nat) :
    ((q.unacked.filter (·.session != session)).map (·.payload) : Multiset Bytes) +
        (q.unsettledOf session : List Bytes) =
      (q.unacked.map (·.payload) : List Bytes) := by
  unfold unsettledOf
  induction q.unacked with
  | nil => rfl
  | cons u rest ih =>
    rw [List.map_cons, ← Multiset.cons_coe, ← ih]
    by_cases hu : u.session = session
    · simp [hu]
    · simp [hu]

/-- A message that is settled leaves the stock. -/
lemma stock_settled (h : q.Tagged) {u : Unsettled} (hu : u ∈ q.unacked) (v : Verdict) :
    (Broker.settled q u.tag v).stock + {u.payload} = q.stock := by
  have hsplit : ∀ l : List Unsettled, l.Pairwise (fun a b => a.tag < b.tag) → u ∈ l →
      ((l.filter (·.tag != u.tag)).map (·.payload) : Multiset Bytes) + {u.payload} =
        (l.map (·.payload) : List Bytes) := by
    intro l hl hmem
    induction l with
    | nil => cases hmem
    | cons a rest ih =>
      rw [List.pairwise_cons] at hl
      rcases List.mem_cons.1 hmem with rfl | hmem'
      · -- no other message has the tag of the first one
        have hrest : rest.filter (·.tag != u.tag) = rest := by
          apply List.filter_eq_self.2
          intro a ha
          simpa using Nat.ne_of_gt (hl.1 a ha)
        rw [List.filter_cons_of_neg (by simp), hrest, List.map_cons, ← Multiset.cons_coe,
          ← Multiset.singleton_add, add_comm]
      · have hne : a.tag ≠ u.tag := Nat.ne_of_lt (hl.1 u hmem')
        rw [List.filter_cons_of_pos (by simpa using hne), List.map_cons, List.map_cons,
          ← Multiset.cons_coe, ← Multiset.cons_coe, Multiset.cons_add, ih hl.2 hmem']
  simp only [stock, Broker.settled_ready, Broker.settled_unacked, add_assoc,
    hsplit q.unacked h.ordered hu]

/-- A verdict is counted once. -/
lemma count_settled (tag : Nat) (v w : Verdict) :
    (Broker.settled q tag v).count w = q.count w + if w = v then 1 else 0 := by
  cases v <;> cases w <;> rfl

end Queue

/-- What a consumer that settles at once has in its stream from the queue with the given name. -/
def Stream.autoLoad (name : String) (s : Stream) : Multiset Bytes :=
  if s.queue = name ∧ s.mode = .auto then (s.buffer.map (·.2) : List Bytes) else 0

namespace Broker

/-- The stock of the queue with the given name. -/
def stock (b : Broker) (name : String) : Multiset Bytes :=
  (b.queue? name).elim 0 Queue.stock

/-- How many messages of the queue with the given name were settled in one of the two ways. -/
def count (b : Broker) (name : String) (v : Verdict) : Nat :=
  (b.queue? name).elim 0 (·.count v)

/-- What all consumers that settle at once have in their streams from a queue. -/
def autoLoad (b : Broker) (name : String) : Multiset Bytes :=
  (b.streams.map (Stream.autoLoad name)).sum

/-- All messages of a queue that are in the broker, but for those that were handed to a consumer that
settles by hand and are counted as unsettled. -/
def balance (b : Broker) (name : String) : Multiset Bytes :=
  b.stock name + b.autoLoad name

variable {b b' : Broker} {name other : String} {q q' : Queue} {payload : Bytes}

lemma stock_of_some (h : b.queue? name = some q) : b.stock name = q.stock := by
  simp [stock, h]

@[simp] lemma stock_dropStream (b : Broker) (i : Nat) (name : String) :
    (b.dropStream i).stock name = b.stock name := rfl

lemma count_of_some (h : b.queue? name = some q) (v : Verdict) : b.count name v = q.count v := by
  simp [count, h]

lemma stock_setQueue (h : b.queue? name = some q) (q' : Queue) (other : String) :
    (b.setQueue name q').stock other = if other = name then q'.stock else b.stock other := by
  simp only [stock, queue?_setQueue h]
  split <;> rfl

lemma count_setQueue (h : b.queue? name = some q) (q' : Queue) (other : String) (v : Verdict) :
    (b.setQueue name q').count other v = if other = name then q'.count v else b.count other v := by
  simp only [count, queue?_setQueue h]
  split <;> rfl

/-- A queue that is replaced by one with the same stock. -/
lemma stock_setQueue_of_eq (h : b.queue? name = some q) (hs : q'.stock = q.stock) (other : String) :
    (b.setQueue name q').stock other = b.stock other := by
  rw [stock_setQueue h]
  split
  · next heq => rw [heq, stock_of_some h, hs]
  · rfl

/-- A queue that is replaced by one with the same counts. -/
lemma count_setQueue_of_eq (h : b.queue? name = some q) (hc : ∀ v, q'.count v = q.count v)
    (other : String) (v : Verdict) : (b.setQueue name q').count other v = b.count other v := by
  rw [count_setQueue h]
  split
  · next heq => rw [heq, count_of_some h, hc]
  · rfl

/-! ## Streams -/

/-- A sum over streams when one stream changes. -/
lemma sum_map_modify {α : Type} {streams : List Stream} {g : Stream → Multiset α}
    {f : Stream → Stream} {i : Nat} {s : Stream} {d : Multiset α} (hs : streams[i]? = some s)
    (hd : g (f s) = g s + d) :
    ((streams.modify i f).map g).sum = (streams.map g).sum + d := by
  induction streams generalizing i with
  | nil => simp at hs
  | cons a rest ih =>
    cases i with
    | zero =>
      rw [List.getElem?_cons_zero, Option.some.injEq] at hs
      simp only [List.modify_zero_cons, List.map_cons, List.sum_cons, hs, hd]
      abel
    | succ i =>
      rw [List.getElem?_cons_succ] at hs
      simp only [List.modify_succ_cons, List.map_cons, List.sum_cons, ih hs]
      abel

lemma autoLoad_carry {slot : Slot} {s : Stream} (hs : b.streams[slot.stream]? = some s)
    (hqueue : s.queue = name) (hmode : s.mode = slot.mode) (tag : Nat) (payload : Bytes)
    (other : String) :
    ((carry b.streams ⟨slot.stream, tag, payload⟩).map (Stream.autoLoad other)).sum =
      b.autoLoad other + if other = name ∧ slot.mode = .auto then {payload} else 0 := by
  refine sum_map_modify hs ?_
  simp only [Stream.autoLoad, hqueue, hmode, eq_comm (a := name)]
  by_cases h : other = name ∧ slot.mode = .auto
  · simp only [if_pos h, List.map_append, List.map_cons, List.map_nil, ← Multiset.coe_add,
      Multiset.coe_singleton]
  · simp only [if_neg h, add_zero]

/-! ## Routing -/

lemma balance_handOver (hb : b.Sound) (h : b.queue? name = some q) {slot : Slot}
    (hslot : slot ∈ q.slots) (other : String) :
    (b.handOver name q slot payload).balance other =
      b.balance other + if other = name then {payload} else 0 := by
  obtain ⟨s, hs, hqueue, hmode⟩ := hb.slot h hslot
  have hstock : (b.handOver name q slot payload).stock other =
      if other = name then (q.handed b.isListening slot payload).stock else b.stock other :=
    stock_setQueue h _ other
  have hload : (b.handOver name q slot payload).autoLoad other = _ :=
    autoLoad_carry hs hqueue hmode q.nextTag payload other
  rw [balance, balance, hstock, hload]
  by_cases heq : other = name
  · subst heq
    cases hm : slot.mode with
    | auto => simp [Queue.stock_handed_of_auto hm, stock_of_some h, add_assoc]
    | manual =>
      simp only [if_true, Queue.stock_handed_of_manual hm, stock_of_some h]
      simp only [reduceCtorEq, and_false, if_false, add_zero]
      abel
  · simp [heq]

lemma balance_store (h : b.queue? name = some q) (other : String) :
    (b.store name q payload).balance other =
      b.balance other + if other = name then {payload} else 0 := by
  have hstock : (b.store name q payload).stock other =
      if other = name then (q.stored b.isListening payload).stock else b.stock other :=
    stock_setQueue h _ other
  have hload : (b.store name q payload).autoLoad other = b.autoLoad other := rfl
  rw [balance, balance, hstock, hload]
  by_cases heq : other = name
  · subst heq
    simp only [if_true, Queue.stock_stored, stock_of_some h]
    abel
  · simp [heq]

/-- Routing adds the message that is routed, wherever it goes. -/
lemma balance_route (hb : b.Sound) (h : b.queue? name = some q) (payload : Bytes)
    (other : String) :
    (b.route name payload).balance other =
      b.balance other + if other = name then {payload} else 0 := by
  rcases route_cases h payload with ⟨slot, hslot, -, heq⟩ | ⟨-, heq⟩
  · rw [heq]; exact balance_handOver hb h hslot other
  · rw [heq]; exact balance_store h other

/-- A message for a queue that nobody declared is dropped. -/
lemma balance_route_if (hb : b.Sound) (name : String) (payload : Bytes) (other : String) :
    (b.route name payload).balance other =
      b.balance other +
        ((if name = other ∧ (b.queue? other).isSome then [payload] else [] : List Bytes) :
          Multiset Bytes) := by
  cases hq : b.queue? name with
  | none =>
    rw [route_of_none hq, if_neg, Multiset.coe_nil, add_zero]
    rintro ⟨rfl, h⟩
    rw [hq] at h
    cases h
  | some q =>
    rw [balance_route hb hq]
    by_cases heq : other = name
    · subst heq; simp [hq]
    · simp [heq, Ne.symm heq]

lemma count_route (b : Broker) (name : String) (payload : Bytes) (other : String) (v : Verdict) :
    (b.route name payload).count other v = b.count other v := by
  cases h : b.queue? name with
  | none => rw [route_of_none h]
  | some q =>
    rcases route_cases h payload with ⟨slot, -, -, heq⟩ | ⟨-, heq⟩
    · rw [heq]; exact count_setQueue_of_eq h (fun v => Queue.count_handed v) other v
    · rw [heq]; exact count_setQueue_of_eq h (fun v => Queue.count_stored v) other v

lemma balance_routeAll (hb : b.Sound) (h : (b.queue? name).isSome) (payloads : List Bytes)
    (other : String) :
    (b.routeAll name payloads).balance other =
      b.balance other + if other = name then (payloads : Multiset Bytes) else 0 := by
  induction payloads generalizing b with
  | nil => simp
  | cons payload rest ih =>
    obtain ⟨q, hq⟩ := Option.isSome_iff_exists.1 h
    rw [routeAll_cons, ih (hb.route name payload) (route_queue?_isSome h), balance_route hb hq]
    by_cases heq : other = name
    · simp only [heq, if_true, ← Multiset.cons_coe, ← Multiset.singleton_add, add_assoc]
    · simp [heq]

lemma count_routeAll (payloads : List Bytes) (other : String) (v : Verdict) :
    (b.routeAll name payloads).count other v = b.count other v :=
  routeAll_induction (P := fun b' => b'.count other v = b.count other v) payloads
    (fun b' payload h => by rw [count_route, h]) rfl

/-! ## Subscribing -/

lemma balance_enlist (h : b.queue? name = some q) (session : Nat) (mode : AckMode) (other : String) :
    (b.enlist session name mode q).balance other +
        (if other = name then (q.ready : Multiset Bytes) else 0) = b.balance other := by
  have hload : (b.enlist session name mode q).autoLoad other = b.autoLoad other := by
    simp [autoLoad, Stream.autoLoad]
  have hstock := stock_setQueue
    (b := { b with streams := b.streams ++ [{ queue := name, mode }] }) h
    { q with slots := q.slots ++ [⟨session, mode, b.streams.length⟩], ready := [] } other
  rw [balance, balance, hload]
  by_cases heq : other = name
  · subst heq
    rw [if_pos rfl] at hstock ⊢
    have hempty : (b.enlist session other mode q).stock other =
        (q.unacked.map (·.payload) : List Bytes) := by
      rw [show (b.enlist session other mode q).stock other = _ from hstock]
      simp [Queue.stock]
    rw [hempty, stock_of_some h, Queue.stock]
    abel
  · rw [if_neg heq] at hstock ⊢
    rw [show (b.enlist session name mode q).stock other = b.stock other from hstock, add_zero]

/-- A new consumer changes who has the messages, and nothing else. -/
lemma balance_consume (hb : b.Sound) (session : Nat) (name : String) (mode : AckMode)
    (other : String) : (b.consume session name mode).2.balance other = b.balance other := by
  rcases consume_cases b session name mode with ⟨e, heq⟩ | ⟨q, -, hq, heq⟩
  · rw [heq]
  · have hsome : ((b.enlist session name mode q).queue? name).isSome := by
      rw [enlist_queue? hq, if_pos rfl]
      rfl
    rw [heq, balance_routeAll (hb.enlist hq session mode) hsome]
    exact balance_enlist hq session mode other

lemma count_consume (b : Broker) (session : Nat) (name : String) (mode : AckMode)
    (other : String) (v : Verdict) :
    (b.consume session name mode).2.count other v = b.count other v := by
  rcases consume_cases b session name mode with ⟨e, heq⟩ | ⟨q, -, hq, heq⟩
  · rw [heq]
  · rw [heq, count_routeAll]
    exact count_setQueue_of_eq
      (b := { b with streams := b.streams ++ [{ queue := name, mode }] }) hq
      (fun v => by cases v <;> rfl) other v

/-! ## The end of a session -/

lemma balance_dismiss (h : b.queue? name = some q) (session : Nat) (other : String) :
    (b.dismiss session name q).balance other +
        (if other = name then (q.unsettledOf session : Multiset Bytes) else 0) =
      b.balance other := by
  have hload : (b.dismiss session name q).autoLoad other = b.autoLoad other := rfl
  have hstock : (b.dismiss session name q).stock other = _ := stock_setQueue h _ other
  rw [balance, balance, hload, hstock]
  by_cases heq : other = name
  · subst heq
    rw [if_pos rfl, if_pos rfl, stock_of_some h, Queue.stock, Queue.stock,
      ← Queue.unsettledOf_add_others q session]
    abel
  · rw [if_neg heq, if_neg heq, add_zero]

lemma balance_releaseQueue (hb : b.Sound) (session : Nat) (name other : String) :
    (releaseQueue session b name).balance other = b.balance other := by
  cases hq : b.queue? name with
  | none => rw [releaseQueue_of_none hq]
  | some q =>
    have hsome : ((b.dismiss session name q).queue? name).isSome := by
      rw [dismiss, queue?_setQueue_self hq]
      rfl
    rw [releaseQueue_eq_routeAll hq, balance_routeAll (hb.dismiss hq session) hsome]
    exact balance_dismiss hq session other

lemma Sound.releaseQueue (hb : b.Sound) (session : Nat) (name : String) :
    (Broker.releaseQueue session b name).Sound := by
  cases hq : b.queue? name with
  | none => rwa [releaseQueue_of_none hq]
  | some q => rw [releaseQueue_eq_routeAll hq]; exact (hb.dismiss hq session).routeAll name _

lemma balance_releaseQueues (hb : b.Sound) (session : Nat) (names : List String) (other : String) :
    (b.releaseQueues session names).balance other = b.balance other := by
  rw [releaseQueues_eq_foldl]
  induction names generalizing b with
  | nil => rfl
  | cons name rest ih =>
    rw [List.foldl_cons, ih (hb.releaseQueue session name), balance_releaseQueue hb]

/-- The end of a session changes who has the messages, and nothing else. -/
lemma balance_close (hb : b.Sound) (session : Nat) (other : String) :
    (b.close session).balance other = b.balance other := by
  cases ho : b.isOpen session with
  | false => rw [close_of_not_open ho]
  | true =>
    rw [close_of_open ho]
    exact balance_releaseQueues (b := b.hangUp session) (hb.congr rfl rfl) session _ other

lemma count_close (b : Broker) (session : Nat) (other : String) (v : Verdict) :
    (b.close session).count other v = b.count other v := by
  cases ho : b.isOpen session with
  | false => rw [close_of_not_open ho]
  | true =>
    rw [close_of_open ho]
    exact releaseQueues_induction (P := fun b' => b'.count other v = b.count other v) session _
      (fun b' name q hq h => by
        rw [← h]; exact count_setQueue_of_eq hq (fun v => by cases v <;> rfl) other v)
      (fun b' name payload h => by rw [count_route, h]) rfl

/-! ## Declaring and looking -/

/-- A new queue is empty, as if it had always been there. -/
lemma stock_declared (h : b.queue? name = none) (other : String) :
    (b.declared name).stock other = b.stock other := by
  rw [stock, declared_queue? h]
  split
  · next heq => simp [stock, heq, h, Queue.stock]
  · rfl

lemma balance_declared (h : b.queue? name = none) (other : String) :
    (b.declared name).balance other = b.balance other := by
  rw [balance, stock_declared h]
  rfl

lemma count_declared (h : b.queue? name = none) (other : String) (v : Verdict) :
    (b.declared name).count other v = b.count other v := by
  rw [count, declared_queue? h]
  split
  · next heq => cases v <;> simp [count, heq, h, Queue.count]
  · rfl

/-- Forgetting consumers that do not listen does not touch the messages. -/
lemma balance_pruned (h : b.queue? name = some q) (other : String) :
    (b.setQueue name (q.prune b.isListening)).balance other = b.balance other := by
  have hsame : (q.prune b.isListening).stock = q.stock := rfl
  rw [balance, stock_setQueue_of_eq h hsame]
  rfl

/-! ## Settling -/

/-- A message that is settled leaves the stock of its queue, and the verdict is counted. -/
lemma stock_setQueue_settled (hb : b.Sound) (h : b.queue? name = some q) {u : Unsettled}
    (hu : u ∈ q.unacked) (v : Verdict) (other : String) :
    (b.setQueue name (settled q u.tag v)).stock other +
        (if other = name then {u.payload} else 0) = b.stock other := by
  rw [stock_setQueue h]
  by_cases heq : other = name
  · subst heq
    rw [if_pos rfl, if_pos rfl, stock_of_some h]
    exact Queue.stock_settled (hb.tagged h) hu v
  · rw [if_neg heq, if_neg heq, add_zero]

lemma count_setQueue_settled (h : b.queue? name = some q) (tag : Nat) (v : Verdict)
    (other : String) (w : Verdict) :
    (b.setQueue name (settled q tag v)).count other w =
      b.count other w + if other = name ∧ w = v then 1 else 0 := by
  rw [count_setQueue h]
  by_cases heq : other = name
  · subst heq
    simp [count_of_some h, Queue.count_settled]
  · simp [heq]

end Broker

end MessageRelay
