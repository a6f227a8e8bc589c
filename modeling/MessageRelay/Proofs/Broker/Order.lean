import MessageRelay.Proofs.Broker.Conservation
import MessageRelay.Proofs.Broker.Ownership
import Mathlib.Data.List.Sort

/-!
# The order in which messages leave a queue

A message comes to be dispatched when it is published or injected, and once more when the session ends
whose consumer has not settled it.  A queue hands messages over in the order in which they came to be
dispatched, those that had to wait included, because of a second fact: nothing waits in a queue that
has a consumer who listens (`Broker.Idle`).  If something did, a newer message would pass it.

`Broker.Hands` says what one operation takes out of a queue in terms of what waited before and what
waits afterwards, and composes.  The main result is `messages_leave_in_order`: what a run has handed
over, in the order of the tags, followed by what still waits, is what came to be dispatched.
-/

namespace MessageRelay

namespace Broker

variable {b b' b'' : Broker} {name other : String} {q q' : Queue} {payload : Bytes} {session : Nat}

/-! ## Nothing waits for a consumer that listens -/

/-- When something waits in a queue, none of its consumers listens. -/
def Idle (b : Broker) : Prop :=
  ∀ ⦃name : String⦄ ⦃q : Queue⦄, b.queue? name = some q → q.ready ≠ [] →
    ∀ slot ∈ q.slots, b.isListening slot.stream = false

lemma Idle.congr (hi : b.Idle) (hq : b'.queue? = b.queue?) (hs : b'.isListening = b.isListening) :
    b'.Idle := by
  intro name q h
  rw [hs]
  exact hi (by rwa [hq] at h)

lemma Idle.setQueue (hi : b.Idle) (h : b.queue? name = some q)
    (hq' : q'.ready ≠ [] → ∀ slot ∈ q'.slots, b.isListening slot.stream = false) :
    (b.setQueue name q').Idle := by
  intro other q₁ hq₁
  rw [queue?_setQueue h] at hq₁
  split at hq₁
  · cases hq₁
    exact hq'
  · exact hi hq₁

/-- A queue may lose consumers. -/
lemma Idle.setQueue_of_subset (hi : b.Idle) (h : b.queue? name = some q) (q' : Queue) (hr : q'.ready = q.ready)
    (hs : q'.slots ⊆ q.slots) : (b.setQueue name q').Idle :=
  hi.setQueue h fun hne slot hslot => hi h (hr ▸ hne) slot (hs hslot)

lemma Idle.route (hi : b.Idle) (name : String) (payload : Bytes) : (b.route name payload).Idle := by
  cases h : b.queue? name with
  | none => rwa [route_of_none h]
  | some q =>
    rcases route_cases h payload with ⟨slot, -, -, heq⟩ | ⟨hnone, heq⟩
    · rw [heq]
      refine (hi.setQueue_of_subset h (q.handed b.isListening slot payload) rfl
        (List.filter_subset_self _)).congr rfl ?_
      rw [handOver, isListening_carryAll]
    · -- the message waits because nobody listens
      rw [heq]
      exact hi.setQueue h fun _ slot hslot => hnone slot (List.filter_subset_self _ hslot)

lemma Idle.routeAll (hi : b.Idle) (name : String) (payloads : List Bytes) :
    (b.routeAll name payloads).Idle :=
  routeAll_induction payloads (fun _ payload h => h.route name payload) hi

lemma isListening_append (b : Broker) (new : Stream) {i : Nat} (h : i < b.streams.length) :
    ({ b with streams := b.streams ++ [new] } : Broker).isListening i = b.isListening i := by
  simp only [isListening, List.getElem?_append_left h]

lemma Idle.enlist (hi : b.Idle) (hb : b.Sound) (h : b.queue? name = some q) (session : Nat)
    (mode : AckMode) : (b.enlist session name mode q).Idle := by
  intro other q₁ hq₁ hne slot hslot
  rw [enlist_queue? h] at hq₁
  split at hq₁
  · cases hq₁
    exact absurd rfl hne
  · obtain ⟨s, hs, -⟩ := hb.slot hq₁ hslot
    have hlt : slot.stream < b.streams.length := (List.getElem?_eq_some_iff.1 hs).1
    exact (isListening_append b _ hlt).trans (hi hq₁ hne slot hslot)

lemma Idle.consume (hi : b.Idle) (hb : b.Sound) (session : Nat) (name : String) (mode : AckMode) :
    (b.consume session name mode).2.Idle := by
  rcases consume_cases b session name mode with ⟨e, heq⟩ | ⟨q, -, hq, heq⟩
  · rwa [heq]
  · rw [heq]; exact (hi.enlist hb hq session mode).routeAll name q.ready

lemma Idle.dismiss (hi : b.Idle) (h : b.queue? name = some q) (session : Nat) :
    (b.dismiss session name q).Idle :=
  hi.setQueue_of_subset h _ (by rfl) (List.filter_subset_self _)

lemma Idle.releaseQueue (hi : b.Idle) (session : Nat) (name : String) :
    (Broker.releaseQueue session b name).Idle := by
  cases hq : b.queue? name with
  | none => rwa [releaseQueue_of_none hq]
  | some q => rw [releaseQueue_eq_routeAll hq]; exact (hi.dismiss hq session).routeAll name _

lemma Idle.close (hi : b.Idle) (session : Nat) : (b.close session).Idle := by
  cases ho : b.isOpen session with
  | false => rwa [close_of_not_open ho]
  | true =>
    rw [close_of_open ho]
    exact releaseQueues_induction session _ (fun _ _ _ hq h => h.dismiss hq session)
      (fun _ name payload h => h.route name payload) (hi.congr rfl rfl)

lemma Idle.declared (hi : b.Idle) (h : b.queue? name = none) : (b.declared name).Idle := by
  intro other q hq
  rw [declared_queue? h] at hq
  split at hq
  · cases hq
    exact fun hne => absurd rfl hne
  · exact hi hq

/-- Listeners may leave. -/
lemma Idle.modifyStream (hi : b.Idle) (i : Nat) {f : Stream → Stream}
    (hf : ∀ s, (f s).listening = true → s.listening = true) : (b.modifyStream i f).Idle := by
  intro name q hq hne slot hslot
  have hold := hi hq hne slot hslot
  rw [isListening] at hold ⊢
  rw [modifyStream_streams]
  cases hs : b.streams[slot.stream]? with
  | none => rfl
  | some s =>
    rw [hs] at hold
    simp only [Option.map_some, Option.getD_some] at hold ⊢
    split
    · rw [← Bool.not_eq_true]
      intro hlisten
      rw [hf s hlisten] at hold
      cases hold
    · exact hold

lemma idle_empty : ({} : Broker).Idle := by
  intro name q h
  simp [queue?] at h

/-! ## What leaves a queue -/

/-- The messages that wait in the queue with the given name. -/
def readyOf (b : Broker) (name : String) : List Bytes :=
  (b.queue? name).elim [] (·.ready)

/-- The tag of the next message that the queue with the given name hands over. -/
def nextTagOf (b : Broker) (name : String) : Nat :=
  (b.queue? name).elim 0 (·.nextTag)

/-- What is in the streams from the queue with the given name. -/
def carried (b : Broker) (name : String) : Multiset (Nat × Bytes) :=
  (b.streams.map (Stream.loadOf (fun queue _ => queue = name) id)).sum

lemma readyOf_of_some (h : b.queue? name = some q) : b.readyOf name = q.ready := by
  simp [readyOf, h]

lemma nextTagOf_of_some (h : b.queue? name = some q) : b.nextTagOf name = q.nextTag := by
  simp [nextTagOf, h]

/-- Between two moments a queue has handed over the messages `handed`, under the tags that were next,
while the messages `entered` came to be dispatched: it has passed on what waited and what came, from
the front, and what is left waits. -/
structure Hands (name : String) (b b' : Broker) (entered : List Bytes)
    (handed : List (Nat × Bytes)) : Prop where
  nextTag : b'.nextTagOf name = b.nextTagOf name + handed.length
  tags : handed.map (·.1) = List.range' (b.nextTagOf name) handed.length
  payloads : handed.map (·.2) ++ b'.readyOf name = b.readyOf name ++ entered

variable {entered entered' : List Bytes} {handed handed' : List (Nat × Bytes)}

lemma Hands.of_same (hr : b'.readyOf name = b.readyOf name)
    (ht : b'.nextTagOf name = b.nextTagOf name) : Hands name b b' [] [] where
  nextTag := ht
  tags := rfl
  payloads := by rw [hr, List.map_nil, List.nil_append, List.append_nil]

lemma Hands.of_queue?_eq (h : b'.queue? name = b.queue? name) : Hands name b b' [] [] :=
  .of_same (by rw [readyOf, h]; rfl) (by rw [nextTagOf, h]; rfl)

lemma Hands.trans (h : Hands name b b' entered handed) (h' : Hands name b' b'' entered' handed') :
    Hands name b b'' (entered ++ entered') (handed ++ handed') where
  nextTag := by rw [h'.nextTag, h.nextTag, List.length_append, Nat.add_assoc]
  tags := by
    rw [List.map_append, h.tags, h'.tags, h.nextTag, List.length_append, List.range'_append_1]
  payloads := by
    rw [List.map_append, List.append_assoc, h'.payloads, ← List.append_assoc, h.payloads,
      List.append_assoc]

/-- A queue that is replaced by one with the same messages waiting and the same next tag. -/
lemma hands_setQueue (h : b.queue? name = some q) (q' : Queue) (hr : q'.ready = q.ready)
    (ht : q'.nextTag = q.nextTag) (other : String) : Hands other b (b.setQueue name q') [] [] := by
  refine .of_same ?_ ?_
  · simp only [readyOf, queue?_setQueue h]
    split
    · next heq => rw [heq, h]; exact hr
    · rfl
  · simp only [nextTagOf, queue?_setQueue h]
    split
    · next heq => rw [heq, h]; exact ht
    · rfl

/-- The same of an operation that only adds to streams: what was handed over is in them. -/
def Passes (name : String) (b b' : Broker) (entered : List Bytes) : Prop :=
  ∃ handed : List (Nat × Bytes), Hands name b b' entered handed ∧
    b'.carried name = b.carried name + (handed : Multiset (Nat × Bytes))

lemma Passes.of_hands (h : Hands name b b' entered []) (hc : b'.carried name = b.carried name) :
    Passes name b b' entered :=
  ⟨[], h, by rw [hc, Multiset.coe_nil, add_zero]⟩

lemma Passes.refl (name : String) (b : Broker) : Passes name b b [] :=
  .of_hands (.of_queue?_eq rfl) rfl

lemma Passes.trans (h : Passes name b b' entered) (h' : Passes name b' b'' entered') :
    Passes name b b'' (entered ++ entered') := by
  obtain ⟨handed, hh, hc⟩ := h
  obtain ⟨handed', hh', hc'⟩ := h'
  exact ⟨handed ++ handed', hh.trans hh', by rw [hc', hc, ← Multiset.coe_add, add_assoc]⟩

lemma carried_handOver (hb : b.Sound) (h : b.queue? name = some q) {slot : Slot}
    (hslot : slot ∈ q.slots) (other : String) :
    (b.handOver name q slot payload).carried other =
      b.carried other + if other = name then {(q.nextTag, payload)} else 0 := by
  obtain ⟨s, hs, hqueue, -⟩ := hb.slot h hslot
  refine sum_map_modify hs ?_
  simp only [Stream.loadOf, hqueue, eq_comm (a := name), List.map_id]
  by_cases heq : other = name
  · simp only [if_pos heq, ← Multiset.coe_add, Multiset.coe_singleton]
  · simp only [if_neg heq, add_zero]

/-- A queue that has a consumer who listens hands a message over at once, for nothing waits in it. -/
lemma hands_handOver (hi : b.Idle) (h : b.queue? name = some q) {slot : Slot}
    (hslot : slot ∈ q.slots) (hlisten : b.isListening slot.stream = true) :
    Hands name b (b.handOver name q slot payload) [payload] [(q.nextTag, payload)] := by
  have hself : (b.handOver name q slot payload).queue? name =
      some (q.handed b.isListening slot payload) := by rw [handOver_queue? h, if_pos rfl]
  have hready : q.ready = [] := by
    by_contra hne
    rw [hi h hne slot hslot] at hlisten
    cases hlisten
  refine ⟨?_, ?_, ?_⟩
  · rw [nextTagOf_of_some hself, nextTagOf_of_some h]
    rfl
  · rw [nextTagOf_of_some h]
    rfl
  · rw [readyOf_of_some hself, readyOf_of_some h, Queue.handed_ready, hready]
    rfl

lemma hands_store (h : b.queue? name = some q) : Hands name b (b.store name q payload) [payload] [] := by
  have hself : (b.store name q payload).queue? name = some (q.stored b.isListening payload) := by
    rw [store_queue? h, if_pos rfl]
  refine ⟨?_, rfl, ?_⟩
  · rw [nextTagOf_of_some hself, nextTagOf_of_some h]
    rfl
  · rw [readyOf_of_some hself, readyOf_of_some h]
    rfl

/-- A message that is routed comes to be dispatched by its queue and no other. -/
lemma passes_route (hb : b.Sound) (hi : b.Idle) (name : String) (payload : Bytes) (other : String) :
    Passes other b (b.route name payload)
      (if name = other ∧ (b.queue? other).isSome then [payload] else []) := by
  cases hq : b.queue? name with
  | none =>
    rw [route_of_none hq, if_neg]
    · exact Passes.refl other b
    · rintro ⟨rfl, h⟩
      rw [hq] at h
      cases h
  | some q =>
    by_cases heq : name = other
    · subst heq
      rw [if_pos ⟨rfl, by rw [hq]; rfl⟩]
      rcases route_cases hq payload with ⟨slot, hslot, hlisten, hroute⟩ | ⟨-, hroute⟩
      · rw [hroute]
        refine ⟨_, hands_handOver hi hq hslot hlisten, ?_⟩
        rw [carried_handOver hb hq hslot, if_pos rfl, Multiset.coe_singleton]
      · rw [hroute]
        exact .of_hands (hands_store hq) rfl
    · rw [if_neg fun h => heq h.1]
      have hne : other ≠ name := Ne.symm heq
      rcases route_cases hq payload with ⟨slot, hslot, -, hroute⟩ | ⟨-, hroute⟩
      · rw [hroute]
        refine .of_hands (.of_queue?_eq (by rw [handOver_queue? hq, if_neg hne])) ?_
        rw [carried_handOver hb hq hslot, if_neg hne, add_zero]
      · rw [hroute]
        exact .of_hands (.of_queue?_eq (by rw [store_queue? hq, if_neg hne])) rfl

lemma passes_routeAll (hb : b.Sound) (hi : b.Idle) (h : (b.queue? name).isSome)
    (payloads : List Bytes) (other : String) :
    Passes other b (b.routeAll name payloads) (if name = other then payloads else []) := by
  induction payloads generalizing b with
  | nil => simpa using Passes.refl other b
  | cons payload rest ih =>
    have hfirst := passes_route hb hi name payload other
    have hrest := ih (hb.route name payload) (hi.route name payload) (route_queue?_isSome h)
    have hboth := hfirst.trans hrest
    by_cases heq : name = other
    · subst heq
      simpa [h] using hboth
    · simpa [heq] using hboth

/-- A new consumer is handed what waits, and nothing comes to be dispatched. -/
lemma passes_consume (hb : b.Sound) (hi : b.Idle) (session : Nat) (name : String) (mode : AckMode)
    (other : String) : Passes other b (b.consume session name mode).2 [] := by
  rcases consume_cases b session name mode with ⟨e, heq⟩ | ⟨q, -, hq, heq⟩
  · rw [heq]; exact Passes.refl other b
  · have hsome : ((b.enlist session name mode q).queue? name).isSome := by
      rw [enlist_queue? hq, if_pos rfl]
      rfl
    obtain ⟨handed, ⟨hnext, htags, hpayloads⟩, hcarried⟩ :=
      passes_routeAll (hb.enlist hq session mode) (hi.enlist hb hq session mode) hsome q.ready other
    -- what waited is out of the queue when the consumer is added, and comes back by being routed
    have hready : (b.enlist session name mode q).readyOf other ++
        (if name = other then q.ready else []) = b.readyOf other := by
      simp only [readyOf, enlist_queue? hq]
      by_cases hname : name = other
      · subst hname; simp [hq]
      · simp [hname, Ne.symm hname]
    have htag : (b.enlist session name mode q).nextTagOf other = b.nextTagOf other := by
      simp only [nextTagOf, enlist_queue? hq]
      by_cases hname : other = name
      · subst hname; simp [hq]
      · simp [hname]
    have hload : (b.enlist session name mode q).carried other = b.carried other := by
      simp [carried, Stream.loadOf]
    rw [htag] at hnext htags
    rw [hready] at hpayloads
    rw [hload] at hcarried
    rw [heq]
    exact ⟨handed, ⟨hnext, htags, by rw [hpayloads, List.append_nil]⟩, hcarried⟩

/-! ## What comes round again -/

/-- What the consumers of a session have not settled of the messages of a queue. -/
def unsettledOf (b : Broker) (session : Nat) (name : String) : List Bytes :=
  (b.queue? name).elim [] (·.unsettledOf session)

lemma unsettledOf_eq_nil (hw : b.Within (· ≠ session) name) : b.unsettledOf session name = [] := by
  cases h : b.queue? name with
  | none => simp [unsettledOf, h]
  | some q =>
    have hfilter : q.unacked.filter (·.session == session) = [] :=
      List.filter_eq_nil_iff.2 fun u hu => by simpa using (hw h).unacked u hu
    simp [unsettledOf, h, Queue.unsettledOf, hfilter]

lemma releaseQueue_queue?_of_ne (h : other ≠ name) :
    (releaseQueue session b name).queue? other = b.queue? other := by
  cases hq : b.queue? name with
  | none => rw [releaseQueue_of_none hq]
  | some q =>
    simp only [releaseQueue, hq]
    exact queue?_setQueue_of_ne b _ h

lemma passes_releaseQueue (hb : b.Sound) (hi : b.Idle) (session : Nat) (name other : String) :
    Passes other b (releaseQueue session b name)
      (if name = other then b.unsettledOf session other else []) := by
  cases hq : b.queue? name with
  | none =>
    rw [releaseQueue_of_none hq]
    by_cases heq : name = other
    · subst heq
      simpa [unsettledOf, hq] using Passes.refl name b
    · simpa [heq] using Passes.refl other b
  | some q =>
    have hsome : ((b.dismiss session name q).queue? name).isSome := by
      rw [dismiss, queue?_setQueue_self hq]
      rfl
    have hgone : Passes other b (b.dismiss session name q) [] :=
      .of_hands (hands_setQueue hq _ (by rfl) (by rfl) other) rfl
    have hagain := passes_routeAll (hb.dismiss hq session) (hi.dismiss hq session) hsome
      (q.unsettledOf session) other
    rw [releaseQueue_eq_routeAll hq]
    by_cases heq : name = other
    · subst heq
      simpa [unsettledOf, hq] using hgone.trans hagain
    · simpa [heq] using hgone.trans hagain

/-- Each queue gets back what the session has not settled of its messages, once. -/
lemma passes_releaseQueues (hb : b.Sound) (hi : b.Idle) (session : Nat) (names : List String)
    (other : String) :
    Passes other b (b.releaseQueues session names)
      (if other ∈ names then b.unsettledOf session other else []) := by
  induction names generalizing b with
  | nil => exact Passes.refl other b
  | cons name rest ih =>
    have hfirst := passes_releaseQueue hb hi session name other
    have hrest := ih (hb.releaseQueue session name) (hi.releaseQueue session name)
    have hboth := hfirst.trans hrest
    rw [releaseQueues_eq_foldl, List.foldl_cons, ← releaseQueues_eq_foldl]
    by_cases heq : name = other
    · -- should the name come again, the queue has nothing of the session any more
      subst heq
      have hnone : (releaseQueue session b name).unsettledOf session name = [] := by
        have hw := within_releaseQueues (b := b) session (List.mem_singleton.2 rfl : name ∈ [name])
        exact unsettledOf_eq_nil hw
      simpa [hnone] using hboth
    · have hsame : (releaseQueue session b name).unsettledOf session other =
          b.unsettledOf session other := by
        rw [unsettledOf, releaseQueue_queue?_of_ne (Ne.symm heq)]
        rfl
      simpa [heq, Ne.symm heq, hsame] using hboth

lemma passes_close (hb : b.Sound) (hi : b.Idle) (session : Nat) (other : String) :
    Passes other b (b.close session)
      (if b.isOpen session then b.unsettledOf session other else []) := by
  cases ho : b.isOpen session with
  | false => rw [close_of_not_open ho]; exact Passes.refl other b
  | true =>
    have hrelease := passes_releaseQueues (b := b.hangUp session) (hb.congr rfl rfl)
      (hi.congr rfl rfl) session (b.queues.map (·.1)) other
    have hmem : (if other ∈ b.queues.map (·.1) then (b.hangUp session).unsettledOf session other
        else []) = b.unsettledOf session other := by
      split
      · rfl
      · next hnot =>
        cases hq : b.queue? other with
        | none => simp [unsettledOf, hq]
        | some q => exact absurd (mem_names_of_queue? hq) hnot
    rw [hmem] at hrelease
    have hmark : Passes other b (b.hangUp session) [] := .of_hands (.of_queue?_eq rfl) rfl
    rw [close_of_open ho, if_pos rfl]
    simpa using hmark.trans hrelease

end Broker

namespace Desk

/-! ## What a run has handed over -/

/-- The messages of a queue that come to consumers through a command, with their tags. -/
def handedBy (name : String) (desk : Desk) (c : Command) : List (Nat × Bytes) :=
  ((arrivals desk.broker.streams (desk.step c).2.broker.streams).filter
    fun a => a.1.queue = name).map (·.2)

/-- The messages of a queue that come to consumers through the commands of a run, from the given state
on. -/
def handedFrom (name : String) : Desk → List Command → List (Nat × Bytes)
  | _, [] => []
  | desk, c :: rest => handedBy name desk c ++ handedFrom name (desk.step c).2 rest

/-- The messages of a queue that a run has handed to consumers, in the order of their tags. -/
def handedOver (name : String) (cs : List Command) : List (Nat × Bytes) :=
  (handedFrom name {} cs).mergeSort fun e e' => e.1 ≤ e'.1

/-- The messages that come to be dispatched by a queue again through a command: those that the
consumers of a session have not settled when it ends, in the order of their tags. -/
def requeuedBy (name : String) (desk : Desk) : Command → List Bytes
  | .close session =>
    match desk.broker.queue? name with
    | some q =>
      if desk.broker.isOpen session then
        ((q.unacked.filter fun u => u.session = session).mergeSort fun u v => u.tag ≤ v.tag).map
          (·.payload)
      else []
    | none => []
  | _ => []

/-- The messages that have come to be dispatched by a queue in the course of a run, in that order. -/
def dispatched (name : String) (cs : List Command) : List Bytes :=
  history (fun desk c => routedBy name desk c ++ requeuedBy name desk c) {} cs

variable {desk desk' : Desk} {name : String}

/-- What is not settled stands in the order of the tags already. -/
lemma requeuedBy_close (hd : desk.Sound) (session : Nat) :
    requeuedBy name desk (.close session) =
      if desk.broker.isOpen session then desk.broker.unsettledOf session name else [] := by
  cases hq : desk.broker.queue? name with
  | none => simp [requeuedBy, Broker.unsettledOf, hq]
  | some q =>
    have hsorted : (q.unacked.filter fun u => u.session = session).Pairwise
        fun u v => decide (u.tag ≤ v.tag) = true :=
      ((hd.broker.tagged hq).ordered.sublist List.filter_sublist).imp
        fun h => decide_eq_true (Nat.le_of_lt h)
    simp only [requeuedBy, Broker.unsettledOf, hq, List.mergeSort_of_pairwise hsorted]
    rfl

/-- What a command does to a queue: what it hands over comes out of the queue from the front, and
what it brings to be dispatched joins at the back. -/
def HandsBy (name : String) (desk : Desk) (c : Command) : Prop :=
  ∃ handed : List (Nat × Bytes), (handedBy name desk c).Perm handed ∧
    Broker.Hands name desk.broker (desk.step c).2.broker
      (routedBy name desk c ++ requeuedBy name desk c) handed

/-- Commands that take nothing out of a stream. -/
lemma HandsBy.of_passes {c : Command} {entered : List Bytes}
    (hgrows : Grows desk.broker.streams (desk.step c).2.broker.streams)
    (he : routedBy name desk c ++ requeuedBy name desk c = entered)
    (h : Broker.Passes name desk.broker (desk.step c).2.broker entered) : HandsBy name desk c := by
  obtain ⟨handed, hhands, hcarried⟩ := h
  have hadd : desk.broker.carried name + (handedBy name desk c : Multiset (Nat × Bytes)) =
      (desk.step c).2.broker.carried name :=
    arrivals_add (fun queue _ => queue = name) id hgrows
  rw [hcarried] at hadd
  exact ⟨handed, Multiset.coe_eq_coe.1 (add_left_cancel hadd), he ▸ hhands⟩

/-- Commands that leave the streams as they are or only take something out of one. -/
lemma HandsBy.of_hands {c : Command}
    (ha : arrivals desk.broker.streams (desk.step c).2.broker.streams = [])
    (he : routedBy name desk c ++ requeuedBy name desk c = [])
    (h : Broker.Hands name desk.broker (desk.step c).2.broker [] []) : HandsBy name desk c := by
  refine ⟨[], ?_, he ▸ h⟩
  rw [handedBy, ha]
  exact List.Perm.refl _

/-- Commands that do nothing to queues and streams. -/
lemma HandsBy.of_same {c : Command} (he : routedBy name desk c ++ requeuedBy name desk c = [])
    (hq : (desk.step c).2.broker.queue? = desk.broker.queue?)
    (hs : (desk.step c).2.broker.streams = desk.broker.streams) : HandsBy name desk c :=
  .of_hands (by rw [hs, arrivals_self]) he (.of_queue?_eq (by rw [hq]))

lemma handsBy_publish (hd : desk.Sound) (hi : desk.broker.Idle) (session : Nat) (queue : String)
    (payload : Bytes) : HandsBy name desk (.publish session queue payload) := by
  cases ho : desk.broker.isOpen session with
  | false =>
    have hstep := step_publish_of_closed ho queue payload
    exact .of_same (by simp [routedBy, requeuedBy, hstep]) (by rw [hstep]) (by rw [hstep])
  | true =>
    have hstep := step_publish_of_open ho queue payload
    have hpasses := Broker.passes_route hd.broker hi queue payload name
    refine .of_passes ?_ ?_ (by rw [hstep]; exact hpasses)
    · rw [hstep]; exact Broker.grows_route _ queue payload
    · simp [routedBy, requeuedBy, hstep]

lemma handsBy_declare (desk : Desk) (session : Nat) (queue : String) :
    HandsBy name desk (.declare session queue) := by
  rcases Broker.declare_cases desk.broker session queue with h | ⟨-, hnone, h⟩
  · exact .of_same rfl (by simp [step, h]) (by simp [step, h])
  · have hstep : (desk.step (.declare session queue)).2.broker = desk.broker.declared queue := by
      simp [step, h]
    refine .of_hands (by rw [hstep]; exact arrivals_self _) rfl ?_
    rw [hstep]
    -- a queue that is not there counts as one in which nothing waits
    refine .of_same ?_ ?_
    · simp only [Broker.readyOf, Broker.declared_queue? hnone]
      split
      · next heq => simp [heq, hnone]
      · rfl
    · simp only [Broker.nextTagOf, Broker.declared_queue? hnone]
      split
      · next heq => simp [heq, hnone]
      · rfl

lemma handsBy_next (desk : Desk) (stream : Nat) : HandsBy name desk (.next stream) := by
  rcases Broker.poll_cases desk.broker stream with (h | h) | ⟨s, tag, payload, rest, -, -, h⟩
  · exact .of_same rfl (by simp [step, h]) (by simp [step, h])
  · exact .of_same rfl (by simp [step, h]) (by simp [step, h])
  · have hstep : (desk.step (.next stream)).2.broker =
        desk.broker.modifyStream stream Stream.behead := by simp [step, h]
    refine .of_hands ?_ rfl (by rw [hstep]; exact .of_queue?_eq rfl)
    rw [hstep]
    exact arrivals_modify _ stream fun s => by simp [Stream.behead]

lemma handsBy_settle (desk : Desk) (verdict : Verdict) (n : Nat) :
    HandsBy name desk (.settle verdict n) := by
  rcases hn : desk.deliveries[n]? with _ | _ | d
  · exact .of_same rfl (by simp [step, hn]) (by simp [step, hn])
  · exact .of_same rfl (by simp [step, hn]) (by simp [step, hn])
  · rcases Broker.settle_cases desk.broker verdict d with ⟨hsame, -⟩ | ⟨q, -, hq, -, hset⟩
    · exact .of_same rfl (by simp [step, hn, hsame]) (by simp [step, hn, hsame])
    · have hstep : (desk.step (.settle verdict n)).2.broker =
          desk.broker.setQueue d.queue (Broker.settled q d.tag verdict) := by simp [step, hn, hset]
      refine .of_hands (by rw [hstep]; exact arrivals_self _) rfl ?_
      rw [hstep]
      exact Broker.hands_setQueue hq _ (by simp) (by simp) name

lemma handsBy_stats (desk : Desk) (queue : String) :
    HandsBy name desk (.control (.stats queue)) := by
  cases hq : desk.broker.queue? queue with
  | none =>
    have hstep : (desk.step (.control (.stats queue))).2 = desk := by
      simp [step, Broker.control, Broker.stats, hq]
    exact .of_same rfl (by rw [hstep]) (by rw [hstep])
  | some q =>
    have hstep : (desk.step (.control (.stats queue))).2.broker =
        desk.broker.setQueue queue (q.prune desk.broker.isListening) := by
      simp [step, Broker.control, Broker.stats, hq]
    refine .of_hands (by rw [hstep]; exact arrivals_self _) rfl ?_
    rw [hstep]
    exact Broker.hands_setQueue hq _ (by rfl) (by rfl) name

/-- **A command hands messages over in the order in which they came.** -/
lemma handsBy_step (hd : desk.Sound) (hi : desk.broker.Idle) (name : String) (c : Command) :
    HandsBy name desk c := by
  cases c with
  | connect =>
    refine .of_same rfl ?_ ?_
    · rw [step_connect]; exact Broker.connect_queue? _
    · rw [step_connect]; exact Broker.connect_streams _
  | declare session queue => exact handsBy_declare desk session queue
  | consume session queue mode =>
    have hpasses := Broker.passes_consume hd.broker hi session queue mode name
    refine .of_passes ?_ rfl (by rw [step_consume]; exact hpasses)
    rw [step_consume]
    exact Broker.grows_consume _ session queue mode
  | publish session queue payload => exact handsBy_publish hd hi session queue payload
  | close session =>
    exact .of_passes (Broker.grows_close _ session) (requeuedBy_close hd session)
      (Broker.passes_close hd.broker hi session name)
  | next stream => exact handsBy_next desk stream
  | settle verdict n => exact handsBy_settle desk verdict n
  | dropStream stream =>
    exact .of_hands (arrivals_modify _ stream fun _ => Nat.zero_le _) rfl (.of_queue?_eq rfl)
  | control c =>
    cases c with
    | inject queue payload =>
      refine .of_passes (Broker.grows_route _ queue payload) ?_
        (Broker.passes_route hd.broker hi queue payload name)
      simp [routedBy, requeuedBy]
    | stats queue => exact handsBy_stats desk queue
    | openSessions => exact .of_same rfl rfl rfl
    | refuseConnects n => exact .of_same rfl rfl rfl
    | refuseChannel => exact .of_same rfl rfl rfl

/-- A command leaves nothing waiting for a consumer that listens. -/
lemma Effect.idle {c : Command} (h : desk.Effect c desk') (hd : desk.Sound) (hi : desk.broker.Idle) :
    desk'.broker.Idle := by
  cases h with
  | nothing | forget => exact hi
  | connect =>
    refine hi.congr (Broker.connect_queue? _) ?_
    funext i
    simp only [Broker.isListening, Broker.connect_streams]
  | declare _ hnone => exact hi.declared hnone
  | consume session queue mode => exact hi.consume hd.broker session queue mode
  | publish _ queue payload | inject queue payload => exact hi.route queue payload
  | close session => exact hi.close session
  | next => exact hi.modifyStream _ (f := Stream.behead) fun _ h => h
  | settle verdict _ _ hq _ => exact hi.setQueue_of_subset hq _ (by simp) (by simp)
  | dropStream stream => exact hi.modifyStream stream (f := Stream.abandon) fun _ h => by cases h
  | stats hq => exact hi.setQueue_of_subset hq _ (by rfl) (List.filter_subset_self _)
  | refuseConnects | refuseChannel => exact hi.congr rfl rfl

lemma idle_step (hd : desk.Sound) (hi : desk.broker.Idle) (c : Command) :
    (desk.step c).2.broker.Idle :=
  (step_effect desk c).idle hd hi

/-! ## Whole runs -/

/-- What the commands of a run hand over comes out of the queue from the front. -/
lemma run_hands (hd : desk.Sound) (hi : desk.broker.Idle) (name : String) (cs : List Command) :
    (desk.run cs).2.broker.Idle ∧
      ∃ handed : List (Nat × Bytes), (handedFrom name desk cs).Perm handed ∧
        Broker.Hands name desk.broker (desk.run cs).2.broker
          (history (fun desk c => routedBy name desk c ++ requeuedBy name desk c) desk cs) handed := by
  induction cs generalizing desk with
  | nil => exact ⟨hi, [], List.Perm.refl _, .of_queue?_eq rfl⟩
  | cons c rest ih =>
    obtain ⟨handed, hperm, hhands⟩ := handsBy_step hd hi name c
    obtain ⟨hidle, handed', hperm', hhands'⟩ := ih (hd.step c) (idle_step hd hi c)
    exact ⟨hidle, handed ++ handed', hperm.append hperm', hhands.trans hhands'⟩

/-- A list whose tags ascend is what sorting by tags gives. -/
lemma mergeSort_eq_of_perm {l handed : List (Nat × Bytes)} {n : Nat} (hperm : l.Perm handed)
    (htags : handed.map (·.1) = List.range' 0 n) :
    (l.mergeSort fun e e' => e.1 ≤ e'.1) = handed := by
  have hascend : handed.Pairwise fun e e' => e.1 < e'.1 := by
    rw [← List.pairwise_map (f := Prod.fst) (R := (· < ·)), htags]
    exact List.pairwise_lt_range' 1
  have hsorted : (l.mergeSort fun e e' => e.1 ≤ e'.1).Pairwise
      fun e e' => decide (e.1 ≤ e'.1) = true := by
    refine List.pairwise_mergeSort ?_ ?_ l
    · intro a b c hab hbc
      simp only [decide_eq_true_eq] at hab hbc ⊢
      omega
    · intro a b
      simp only [Bool.or_eq_true, decide_eq_true_eq]
      omega
  have hsame : (l.mergeSort fun e e' => e.1 ≤ e'.1).Perm handed := (List.mergeSort_perm l _).trans hperm
  refine hsame.eq_of_pairwise ?_ hsorted (hascend.imp fun h => decide_eq_true (Nat.le_of_lt h))
  -- no two messages have one tag, so the order leaves no choice
  intro e e' he he' hle hge
  simp only [decide_eq_true_eq] at hle hge
  have hnodup : (handed.map (·.1)).Nodup := by rw [htags]; exact List.nodup_range' 1
  exact List.inj_on_of_nodup_map hnodup (hsame.mem_iff.1 he) he' (Nat.le_antisymm hle hge)

/-- **Messages leave a queue in the order in which they came.**  After any commands, nothing waits in
a queue that has a consumer who listens; and the messages that the queue has handed over, in the order
of their tags, followed by those that wait, are the messages that came to be dispatched.  The tags are
the numbers from zero on, so that each message was handed over once. -/
theorem messages_leave_in_order (cs : List Command) (name : String) (q : Queue)
    (h : (({} : Desk).run cs).2.broker.queue? name = some q) :
    (q.ready ≠ [] → ∀ slot ∈ q.slots,
      (({} : Desk).run cs).2.broker.isListening slot.stream = false) ∧
    (handedOver name cs).map (·.2) ++ q.ready = dispatched name cs ∧
    (handedOver name cs).map (·.1) = List.range q.nextTag := by
  obtain ⟨hidle, handed, hperm, hhands⟩ := run_hands sound_empty Broker.idle_empty name cs
  have hempty : ({} : Desk).broker.nextTagOf name = 0 := rfl
  have hnext : q.nextTag = handed.length := by
    rw [← Broker.nextTagOf_of_some h, hhands.nextTag, hempty, Nat.zero_add]
  have hsort : handedOver name cs = handed := mergeSort_eq_of_perm hperm hhands.tags
  refine ⟨hidle h, ?_, ?_⟩
  · rw [hsort, ← Broker.readyOf_of_some h]
    exact hhands.payloads
  · rw [hsort, hnext, List.range_eq_range']
    exact hhands.tags

/-- A run in which messages wait, consumers take turns, and two sessions end with messages that are
not settled: the first hands them to the second, and the second leaves them to wait behind a newer
one. -/
def changeover : List Command :=
  [.connect, .declare 0 "q", .control (.inject "q" [1]), .publish 0 "q" [2], .consume 0 "q" .manual,
    .publish 0 "q" [3], .connect, .consume 1 "q" .manual, .publish 1 "q" [4], .publish 1 "q" [5],
    .next 0, .settle .ack 0, .close 0, .dropStream 1, .publish 1 "q" [6], .close 1]

theorem messages_leave_in_order_changeover :
    ∃ q, (({} : Desk).run changeover).2.broker.queue? "q" = some q ∧
      q.ready = [[6], [4], [2], [3], [5]] ∧
      (q.ready ≠ [] → ∀ slot ∈ q.slots,
        (({} : Desk).run changeover).2.broker.isListening slot.stream = false) ∧
      (handedOver "q" changeover).map (·.2) ++ q.ready = dispatched "q" changeover ∧
      (handedOver "q" changeover).map (·.1) = List.range q.nextTag := by
  have h : (({} : Desk).run changeover).2.broker.queue? "q" =
      some { ready := [[6], [4], [2], [3], [5]], turn := 8, nextTag := 8, acked := 1 } := by decide
  exact ⟨_, h, rfl, messages_leave_in_order changeover "q" _ h⟩

end Desk

end MessageRelay
