import MessageRelay.Proofs.Broker.Audience
import MessageRelay.Proofs.Broker.Settlement
import Mathlib.Data.Int.CardIntervalMod
import Mathlib.Data.List.Infix

/-!
# Consumers take turns

A queue hands each message to the consumer whose turn it is.  It counts how many messages it has handed over,
and looks the consumer up by what is left of that number when it is divided by the number of consumers that
listen.  The number is never set back and means nothing by itself: who is next depends on all that has happened to
the queue, and consumers that have stopped listening are forgotten in the middle of an operation.

While nobody joins or leaves, none of this matters.  `Broker.Deals` says what one operation hands out in terms of
the consumers that listen, and composes; a run deals the messages that come to the queue to its consumers in
turns (`consumers_take_turns`), so that each of them gets as many as any other, give or take one.
-/

namespace MessageRelay

/-! ## Turns -/

/-- The consumer whose turn it is when so many messages were handed over. -/
def heir (listeners : List Slot) (turn : Nat) : Option Slot :=
  listeners[turn % listeners.length]?

/-- The streams through which so many messages go from a turn on. -/
def rota (listeners : List Slot) (start count : Nat) : List Nat :=
  (List.range' start count).map fun turn => ((heir listeners turn).map (·.stream)).getD 0

/-- What was handed over through a stream, with the tags. -/
def share (i : Nat) (handovers : List Handover) : List (Nat × Bytes) :=
  (handovers.filter (·.stream = i)).map fun h => (h.tag, h.payload)

section

variable {listeners : List Slot} {slot other : Slot} {i start m n : Nat} {handovers : List Handover}

lemma share_append (i : Nat) (handovers more : List Handover) :
    share i (handovers ++ more) = share i handovers ++ share i more := by
  simp [share]

lemma rota_append (listeners : List Slot) (start m n : Nat) :
    rota listeners start m ++ rota listeners (start + m) n = rota listeners start (m + n) := by
  rw [rota, rota, ← List.map_append, List.range'_append_1]
  rfl

@[simp] lemma length_rota (listeners : List Slot) (start n : Nat) :
    (rota listeners start n).length = n := by
  simp [rota]

/-- There is always a consumer whose turn it is. -/
lemma exists_heir (h : listeners ≠ []) (turn : Nat) :
    ∃ slot ∈ listeners, heir listeners turn = some slot := by
  have hlt : turn % listeners.length < listeners.length := Nat.mod_lt _ (List.length_pos_of_ne_nil h)
  exact ⟨_, List.getElem_mem hlt, List.getElem?_eq_getElem hlt⟩

lemma exists_of_mem_rota (h : listeners ≠ []) (hi : i ∈ rota listeners start n) :
    ∃ slot ∈ listeners, slot.stream = i := by
  obtain ⟨turn, -, rfl⟩ := List.mem_map.1 hi
  obtain ⟨slot, hmem, hslot⟩ := exists_heir h turn
  exact ⟨slot, hmem, by rw [hslot]; rfl⟩

/-- A turn is that of the consumer at this place in the list. -/
lemma heir_stream_eq_iff (hnodup : (listeners.map (·.stream)).Nodup) (hm : m < listeners.length) (turn : Nat) :
    ((heir listeners turn).map (·.stream)).getD 0 = listeners[m].stream ↔ turn ≡ m [MOD listeners.length] := by
  have hlt : turn % listeners.length < listeners.length := Nat.mod_lt _ (by omega)
  have hlt' : turn % listeners.length < (listeners.map (·.stream)).length := by simpa using hlt
  have hm' : m < (listeners.map (·.stream)).length := by simpa using hm
  have hinj : (listeners.map (·.stream))[turn % listeners.length] = (listeners.map (·.stream))[m] ↔
      turn % listeners.length = m := hnodup.getElem_inj_iff
  rw [heir, List.getElem?_eq_getElem hlt, Option.map_some, Option.getD_some, Nat.ModEq, Nat.mod_eq_of_lt hm, ← hinj,
    List.getElem_map, List.getElem_map]

/-- As many turns in a row as there are consumers are those of different consumers. -/
lemma nodup_rota (hnodup : (listeners.map (·.stream)).Nodup) (start : Nat) :
    (rota listeners start listeners.length).Nodup := by
  refine List.Nodup.map_on (fun turn hturn turn' hturn' heq => ?_) (List.nodup_range' 1)
  rw [List.mem_range'_1] at hturn hturn'
  have hlt : turn' % listeners.length < listeners.length := Nat.mod_lt _ (by omega)
  have hself := (heir_stream_eq_iff hnodup hlt turn').2 (Nat.mod_modEq _ _).symm
  have hsame := ((heir_stream_eq_iff hnodup hlt turn).1 (heq.trans hself)).trans (Nat.mod_modEq _ _)
  -- two numbers that are so close and leave the same remainder are the same
  rcases Nat.le_total turn turn' with hle | hle
  · have hdvd := (Nat.modEq_iff_dvd' hle).1 hsame
    have hzero := Nat.eq_zero_of_dvd_of_lt hdvd (by omega)
    omega
  · have hdvd := (Nat.modEq_iff_dvd' hle).1 hsame.symm
    have hzero := Nat.eq_zero_of_dvd_of_lt hdvd (by omega)
    omega

lemma nodup_window (hnodup : (listeners.map (·.stream)).Nodup) (hm : m + listeners.length ≤ n) :
    (((rota listeners start n).drop m).take listeners.length).Nodup := by
  obtain ⟨rest, rfl⟩ := Nat.exists_eq_add_of_le hm
  rw [← rota_append, ← rota_append, List.append_assoc, List.drop_left' (length_rota ..),
    List.take_left' (length_rota ..)]
  exact nodup_rota hnodup _

/-- How many of these turns are those of one consumer. -/
lemma count_rota (hnodup : (listeners.map (·.stream)).Nodup) (hm : m < listeners.length) (start n : Nat) :
    (rota listeners start n).count listeners[m].stream + Nat.count (· ≡ m [MOD listeners.length]) start =
      Nat.count (· ≡ m [MOD listeners.length]) (start + n) := by
  induction n with
  | zero => simp [rota]
  | succ n ih =>
    have hlast : (rota listeners (start + n) 1).count listeners[m].stream =
        if start + n ≡ m [MOD listeners.length] then 1 else 0 := by
      simp only [rota, List.range'_one, List.map_cons, List.map_nil, List.count_singleton, beq_iff_eq,
        heir_stream_eq_iff hnodup hm]
    rw [← rota_append, List.count_append, hlast, ← Nat.add_assoc start n 1, Nat.count_succ, ← ih]
    omega

/-- No consumer has more than one turn more than another. -/
lemma count_rota_le (hnodup : (listeners.map (·.stream)).Nodup) (hslot : slot ∈ listeners)
    (hother : other ∈ listeners) (start n : Nat) :
    (rota listeners start n).count slot.stream ≤ (rota listeners start n).count other.stream + 1 := by
  obtain ⟨m, hm, rfl⟩ := List.getElem_of_mem hslot
  obtain ⟨k, hk, rfl⟩ := List.getElem_of_mem hother
  have hpos : 0 < listeners.length := by omega
  have hcount := count_rota hnodup hm start n
  have hcount' := count_rota hnodup hk start n
  simp only [Nat.count_modEq_card _ hpos, Nat.mod_eq_of_lt hm, Nat.mod_eq_of_lt hk] at hcount hcount'
  split_ifs at hcount hcount' <;> omega

end

namespace Broker

variable {b b' b'' : Broker} {name other : String} {q q' : Queue} {payload : Bytes} {session i : Nat}
  {listeners : List Slot} {entered entered' : List Bytes} {handovers handovers' : List Handover}

/-! ## What an operation hands out -/

/-- How many messages the queue with the given name has handed over. -/
def turnOf (b : Broker) (name : String) : Nat :=
  (b.queue? name).elim 0 (·.turn)

lemma turnOf_of_some (h : b.queue? name = some q) : b.turnOf name = q.turn := by
  simp [turnOf, h]

/-- Between two moments the messages `entered` came to be dispatched by a queue, and were handed out to its
consumers in turns. -/
structure Deals (name : String) (listeners : List Slot) (b b' : Broker) (entered : List Bytes)
    (handovers : List Handover) : Prop where
  payloads : handovers.map (·.payload) = entered
  turn : b'.turnOf name = b.turnOf name + handovers.length
  rota : handovers.map (·.stream) = rota listeners (b.turnOf name) handovers.length
  /-- What was handed out stands at the end of the streams. -/
  streams : ∀ {i : Nat} {s : Stream}, b.streams[i]? = some s → s.queue = name →
    ∃ s', b'.streams[i]? = some s' ∧ s'.queue = name ∧ s'.buffer = s.buffer ++ share i handovers

/-- Nothing is handed out where neither the number of the turn nor the streams from the queue change. -/
lemma Deals.of_same (ht : b'.turnOf name = b.turnOf name)
    (hs : ∀ {i : Nat} {s : Stream}, b.streams[i]? = some s → s.queue = name → b'.streams[i]? = some s) :
    Deals name listeners b b' [] [] where
  payloads := rfl
  turn := ht
  rota := rfl
  streams {_ s} h hq := ⟨s, hs h hq, hq, (List.append_nil _).symm⟩

lemma Deals.refl (name : String) (listeners : List Slot) (b : Broker) : Deals name listeners b b [] [] :=
  .of_same rfl fun h _ => h

lemma Deals.trans (h : Deals name listeners b b' entered handovers)
    (h' : Deals name listeners b' b'' entered' handovers') :
    Deals name listeners b b'' (entered ++ entered') (handovers ++ handovers') where
  payloads := by rw [List.map_append, h.payloads, h'.payloads]
  turn := by rw [h'.turn, h.turn, List.length_append, Nat.add_assoc]
  rota := by rw [List.map_append, h.rota, h'.rota, h.turn, rota_append, List.length_append]
  streams hs hq := by
    obtain ⟨s', hs', hq', hbuffer⟩ := h.streams hs hq
    obtain ⟨s'', hs'', hq'', hbuffer'⟩ := h'.streams hs' hq'
    exact ⟨s'', hs'', hq'', by rw [hbuffer', hbuffer, share_append, List.append_assoc]⟩

/-- A queue that is replaced by one that has handed over as many messages. -/
lemma deals_setQueue (h : b.queue? name = some q) (q' : Queue) (ht : q'.turn = q.turn) (other : String) :
    Deals other listeners b (b.setQueue name q') [] [] := by
  refine .of_same ?_ fun hs _ => hs
  simp only [turnOf, queue?_setQueue h]
  split
  · next heq => rw [heq, h]; exact ht
  · rfl

/-- A message goes to the consumer whose turn it is. -/
lemma deals_route_self (hb : b.Sound) (hl : b.audience name = listeners) (hne : listeners ≠ []) (payload : Bytes) :
    ∃ handovers, Deals name listeners b (b.route name payload) [payload] handovers := by
  cases hq : b.queue? name with
  | none =>
    rw [audience_of_none hq] at hl
    exact absurd hl.symm hne
  | some q =>
    have hslots : (q.prune b.isListening).slots = listeners := by
      rw [← hl, audience_of_some hq]
      rfl
    have hcurrent : (q.prune b.isListening).current? = heir listeners q.turn := by
      rw [← hslots]
      rfl
    obtain ⟨slot, hmem, hslot⟩ := exists_heir hne q.turn
    obtain ⟨s, hs, hqueue, -⟩ := hb.slot hq (Queue.mem_slots_of_mem_prune (hslots ▸ hmem))
    have hroute : b.route name payload = b.handOver name q slot payload := by
      rw [route_of_some hq, Queue.dispatch_of_current (hcurrent.trans hslot)]
      rfl
    have hself : (b.handOver name q slot payload).queue? name = some (q.handed b.isListening slot payload) := by
      rw [handOver_queue? hq, if_pos rfl]
    rw [hroute]
    refine ⟨[⟨slot.stream, q.nextTag, payload⟩], rfl, ?_, ?_, fun {i s₀} hs₀ hq₀ => ?_⟩
    · rw [turnOf_of_some hself, turnOf_of_some hq]
      rfl
    · simp [MessageRelay.rota, turnOf_of_some hq, hslot]
    · rw [handOver_streams, getElem?_carry, hs₀]
      by_cases hi : slot.stream = i
      · exact ⟨_, rfl, by simp [hi, hq₀], by simp [hi, share]⟩
      · exact ⟨_, rfl, by simp [hi, hq₀], by simp [hi, share]⟩

/-- What happens to a queue is nothing to those who listen to another. -/
lemma deals_route_of_ne (hb : b.Sound) (hne : other ≠ name) (payload : Bytes) :
    Deals name listeners b (b.route other payload) [] [] := by
  cases hq : b.queue? other with
  | none =>
    rw [route_of_none hq]
    exact .refl name listeners b
  | some q =>
    rcases route_cases hq payload with ⟨slot, hslot, -, heq⟩ | ⟨-, heq⟩
    · obtain ⟨s, hs, hqueue, -⟩ := hb.slot hq hslot
      rw [heq]
      refine .of_same ?_ fun {i s₀} hs₀ hq₀ => ?_
      · rw [turnOf, handOver_queue? hq, if_neg hne.symm, turnOf]
      · have hi : slot.stream ≠ i := by
          rintro rfl
          rw [hs, Option.some.injEq] at hs₀
          rw [hs₀, hq₀] at hqueue
          exact hne hqueue.symm
        rw [handOver_streams, getElem?_carry, hs₀]
        simp [hi]
    · rw [heq]
      refine .of_same ?_ fun hs _ => hs
      rw [turnOf, store_queue? hq, if_neg hne.symm, turnOf]

lemma deals_routeAll (hb : b.Sound) (hl : b.audience name = listeners) (hne : listeners ≠ [])
    (other : String) (payloads : List Bytes) :
    ∃ handovers, Deals name listeners b (b.routeAll other payloads) (if other = name then payloads else [])
      handovers := by
  induction payloads generalizing b with
  | nil => exact ⟨[], by simpa using Deals.refl name listeners b⟩
  | cons payload rest ih =>
    obtain ⟨later, hrest⟩ := ih (hb.route other payload) ((congrFun (audience_route ..) name).trans hl)
    by_cases heq : other = name
    · subst heq
      obtain ⟨first, hfirst⟩ := deals_route_self hb hl hne payload
      exact ⟨first ++ later, by simpa using hfirst.trans hrest⟩
    · exact ⟨later, by simpa [heq] using (deals_route_of_ne hb heq payload).trans hrest⟩

/-! ## The end of a session -/

/-- A queue that lets go of a session keeps the consumers of the others. -/
lemma audience_dismiss (h : b.queue? name = some q) (hl : b.audience other = listeners)
    (hothers : ∀ slot ∈ listeners, slot.session ≠ session) :
    (b.dismiss session name q).audience other = listeners := by
  by_cases heq : other = name
  · subst heq
    rw [audience_of_some h] at hl
    rw [dismiss, audience_of_some (queue?_setQueue_self h), setQueue_isListening, List.filter_comm, hl,
      List.filter_eq_self]
    intro slot hslot
    simpa using hothers slot hslot
  · rw [← hl, audience, audience, dismiss, queue?_setQueue_of_ne b _ heq, setQueue_isListening]

lemma audience_releaseQueue (hl : b.audience other = listeners)
    (hothers : ∀ slot ∈ listeners, slot.session ≠ session) (name : String) :
    (releaseQueue session b name).audience other = listeners := by
  cases hq : b.queue? name with
  | none => rwa [releaseQueue_of_none hq]
  | some q => rw [releaseQueue_eq_routeAll hq, audience_routeAll, audience_dismiss hq hl hothers]

/-- What nobody of the listeners has left unsettled is handed out to them. -/
lemma deals_releaseQueue (hb : b.Sound) (hl : b.audience name = listeners) (hne : listeners ≠ [])
    (hothers : ∀ slot ∈ listeners, slot.session ≠ session) (other : String) :
    ∃ handovers, Deals name listeners b (releaseQueue session b other)
      (if other = name then b.unsettledOf session name else []) handovers := by
  cases hq : b.queue? other with
  | none =>
    rw [releaseQueue_of_none hq]
    refine ⟨[], ?_⟩
    split
    · next heq => simpa [unsettledOf, ← heq, hq] using Deals.refl name listeners b
    · exact Deals.refl name listeners b
  | some q =>
    have hgone : Deals name listeners b (b.dismiss session other q) [] [] :=
      deals_setQueue hq _ (by rfl) name
    obtain ⟨handovers, hagain⟩ := deals_routeAll (hb.dismiss hq session) (audience_dismiss hq hl hothers) hne
      other (q.unsettledOf session)
    rw [releaseQueue_eq_routeAll hq]
    refine ⟨handovers, ?_⟩
    by_cases heq : other = name
    · subst heq
      simpa [unsettledOf, hq] using hgone.trans hagain
    · simpa [heq] using hgone.trans hagain

lemma deals_releaseQueues (hb : b.Sound) (hl : b.audience name = listeners) (hne : listeners ≠ [])
    (hothers : ∀ slot ∈ listeners, slot.session ≠ session) (names : List String) :
    ∃ handovers, Deals name listeners b (b.releaseQueues session names)
      (if name ∈ names then b.unsettledOf session name else []) handovers := by
  induction names generalizing b with
  | nil => exact ⟨[], Deals.refl name listeners b⟩
  | cons other rest ih =>
    obtain ⟨first, hfirst⟩ := deals_releaseQueue hb hl hne hothers other
    obtain ⟨later, hrest⟩ := ih (hb.releaseQueue session other) (audience_releaseQueue hl hothers other)
    refine ⟨first ++ later, ?_⟩
    have hboth := hfirst.trans hrest
    rw [releaseQueues_eq_foldl, List.foldl_cons, ← releaseQueues_eq_foldl]
    by_cases heq : other = name
    · -- should the name come again, the queue has nothing of the session any more
      subst heq
      have hnone : (releaseQueue session b other).unsettledOf session other = [] :=
        unsettledOf_eq_nil (within_releaseQueues (b := b) session (List.mem_singleton.2 rfl : other ∈ [other]))
      simpa [hnone] using hboth
    · have hsame : (releaseQueue session b other).unsettledOf session name = b.unsettledOf session name := by
        rw [unsettledOf, releaseQueue_queue?_of_ne (Ne.symm heq), unsettledOf]
      simpa [heq, Ne.symm heq, hsame] using hboth

lemma deals_close (hb : b.Sound) (hl : b.audience name = listeners) (hne : listeners ≠ [])
    (hopen : b.isOpen session = true) (hothers : ∀ slot ∈ listeners, slot.session ≠ session) :
    ∃ handovers, Deals name listeners b (b.close session) (b.unsettledOf session name) handovers := by
  have hup : (b.hangUp session).audience name = listeners := hl
  obtain ⟨handovers, hdeals⟩ := deals_releaseQueues (b := b.hangUp session) (hb.congr rfl rfl) hup hne hothers
    (b.queues.map (·.1))
  have hmem : (if name ∈ b.queues.map (·.1) then (b.hangUp session).unsettledOf session name else []) =
      b.unsettledOf session name := by
    split
    · rfl
    · next hnot =>
      cases hq : b.queue? name with
      | none => simp [unsettledOf, hq]
      | some q => exact absurd (mem_names_of_queue? hq) hnot
  rw [hmem] at hdeals
  have hmark : Deals name listeners b (b.hangUp session) [] [] := .of_same rfl fun hs _ => hs
  rw [close_of_open hopen]
  exact ⟨handovers, by simpa using hmark.trans hdeals⟩

/-- Somebody who subscribes to another queue is nothing to those who listen. -/
lemma deals_consume_of_ne (hb : b.Sound) (hl : b.audience name = listeners) (hne : listeners ≠ [])
    (session : Nat) (hother : other ≠ name) (mode : AckMode) :
    Deals name listeners b (b.consume session other mode).2 [] [] := by
  rcases consume_cases b session other mode with ⟨e, heq⟩ | ⟨q, -, hq, heq⟩
  · rw [heq]
    exact .refl name listeners b
  · rw [heq]
    have hnew : Deals name listeners b (b.enlist session other mode q) [] [] := by
      refine .of_same ?_ fun hs _ => ?_
      · rw [turnOf, enlist_queue? hq, if_neg hother.symm, turnOf]
      · rw [enlist_streams]
        exact getElem?_append_of_some hs
    have haudience : (b.enlist session other mode q).audience name = listeners := by
      rw [audience_enlist hb hq, if_neg hother.symm, List.append_nil, hl]
    obtain ⟨handovers, hdeals⟩ := deals_routeAll (hb.enlist hq session mode) haudience hne other q.ready
    rw [if_neg hother] at hdeals
    have hnone : handovers = [] := List.map_eq_nil_iff.1 hdeals.payloads
    subst hnone
    exact hnew.trans hdeals

/-- Messages from a queue that are in a stream. -/
def bufferOf (b : Broker) (i : Nat) : List (Nat × Bytes) :=
  (b.streams[i]?.map (·.buffer)).getD []

lemma bufferOf_of_some {s : Stream} (h : b.streams[i]? = some s) : b.bufferOf i = s.buffer := by
  simp [bufferOf, h]

end Broker

namespace Desk

variable {desk desk' : Desk} {name : String} {listeners : List Slot} {entered entered' : List Bytes}
  {handovers handovers' : List Handover} {got got' : Nat → List (Nat × Bytes)}

/-! ## What a command hands out -/

/-- What comes into a stream through a command. -/
def receivedBy (desk : Desk) (c : Command) (i : Nat) : List (Nat × Bytes) :=
  ((desk.step c).2.broker.bufferOf i).drop (desk.broker.bufferOf i).length

/-- What comes into a stream through the commands of a run, from the given state on. -/
def received : Desk → List Command → Nat → List (Nat × Bytes)
  | _, [], _ => []
  | desk, c :: rest, i => receivedBy desk c i ++ received (desk.step c).2 rest i

/-- The messages that come to be dispatched by a queue in the course of a run, from the given state on. -/
def arrived (name : String) (desk : Desk) (cs : List Command) : List Bytes :=
  history (fun desk c => routedBy name desk c ++ requeuedBy name desk c) desk cs

/-- Nobody joins the consumers of a queue, or leaves them, in the course of a run. -/
def KeepsAudience (name : String) (listeners : List Slot) (desk : Desk) (cs : List Command) : Prop :=
  ∀ early ∈ cs.inits, (desk.run early).2.broker.audience name = listeners

instance (name : String) (listeners : List Slot) (desk : Desk) (cs : List Command) :
    Decidable (KeepsAudience name listeners desk cs) :=
  inferInstanceAs (Decidable (∀ early ∈ cs.inits, _))

/-- Between two moments the messages `entered` came to be dispatched by a queue and were handed out to its
consumers in turns, and this is what came into the streams. -/
structure Dealt (name : String) (listeners : List Slot) (desk desk' : Desk) (entered : List Bytes)
    (got : Nat → List (Nat × Bytes)) (handovers : List Handover) : Prop where
  payloads : handovers.map (·.payload) = entered
  turn : desk'.broker.turnOf name = desk.broker.turnOf name + handovers.length
  rota : handovers.map (·.stream) = rota listeners (desk.broker.turnOf name) handovers.length
  streams : ∀ {i : Nat} {s : Stream}, desk.broker.streams[i]? = some s → s.queue = name →
    got i = share i handovers ∧ ∃ s', desk'.broker.streams[i]? = some s' ∧ s'.queue = name

lemma Dealt.trans {desk'' : Desk} (h : Dealt name listeners desk desk' entered got handovers)
    (h' : Dealt name listeners desk' desk'' entered' got' handovers') :
    Dealt name listeners desk desk'' (entered ++ entered') (fun i => got i ++ got' i)
      (handovers ++ handovers') where
  payloads := by rw [List.map_append, h.payloads, h'.payloads]
  turn := by rw [h'.turn, h.turn, List.length_append, Nat.add_assoc]
  rota := by rw [List.map_append, h.rota, h'.rota, h.turn, rota_append, List.length_append]
  streams hs hq := by
    obtain ⟨hgot, s', hs', hq'⟩ := h.streams hs hq
    obtain ⟨hgot', s'', hs'', hq''⟩ := h'.streams hs' hq'
    exact ⟨by rw [hgot, hgot', share_append], s'', hs'', hq''⟩

/-- What a command does to the consumers of a queue, with what comes into their streams. -/
abbrev DealtBy (name : String) (listeners : List Slot) (desk : Desk) (c : Command) : Prop :=
  ∃ handovers, Dealt name listeners desk (desk.step c).2
    (routedBy name desk c ++ requeuedBy name desk c) (receivedBy desk c) handovers

/-- Commands that take nothing out of a stream. -/
lemma DealtBy.of_deals {c : Command} (he : routedBy name desk c ++ requeuedBy name desk c = entered)
    (h : Broker.Deals name listeners desk.broker (desk.step c).2.broker entered handovers) :
    DealtBy name listeners desk c := by
  refine ⟨handovers, h.payloads.trans he.symm, h.turn, h.rota, fun {i s} hs hq => ?_⟩
  obtain ⟨s', hs', hq', hbuffer⟩ := h.streams hs hq
  refine ⟨?_, s', hs', hq'⟩
  rw [receivedBy, Broker.bufferOf_of_some hs', Broker.bufferOf_of_some hs, hbuffer, List.drop_left]

/-- Commands that hand out nothing. -/
lemma DealtBy.of_none {c : Command} (he : routedBy name desk c ++ requeuedBy name desk c = [])
    (h : Broker.Deals name listeners desk.broker (desk.step c).2.broker [] []) : DealtBy name listeners desk c :=
  .of_deals he h

/-- Commands that only take something out of a stream. -/
lemma DealtBy.of_modify {c : Command} {j : Nat} {f : Stream → Stream}
    (hstep : (desk.step c).2.broker = desk.broker.modifyStream j f) (hqueue : ∀ s, (f s).queue = s.queue)
    (hbuffer : ∀ s, (f s).buffer.length ≤ s.buffer.length)
    (he : routedBy name desk c ++ requeuedBy name desk c = []) : DealtBy name listeners desk c := by
  refine ⟨[], he.symm, by rw [hstep]; rfl, rfl, fun {i s} hs hq => ?_⟩
  have hs' : (desk.step c).2.broker.streams[i]? = some (if j = i then f s else s) := by
    rw [hstep, Broker.modifyStream_streams, hs, Option.map_some]
  refine ⟨?_, _, hs', ?_⟩
  · rw [receivedBy, Broker.bufferOf_of_some hs', Broker.bufferOf_of_some hs]
    refine List.drop_eq_nil_of_le ?_
    split
    · exact hbuffer s
    · exact Nat.le_refl _
  · split
    · exact (hqueue s).trans hq
    · exact hq

lemma dealtBy_route (hd : desk.Sound) (hl : desk.broker.audience name = listeners) (hne : listeners ≠ [])
    {c : Command} (queue : String) (payload : Bytes)
    (hstep : (desk.step c).2.broker = desk.broker.route queue payload)
    (he : routedBy name desk c ++ requeuedBy name desk c =
      if queue = name ∧ (desk.broker.queue? name).isSome then [payload] else []) :
    DealtBy name listeners desk c := by
  by_cases heq : queue = name
  · subst heq
    have hsome : (desk.broker.queue? queue).isSome := by
      rw [Option.isSome_iff_ne_none]
      intro hnone
      rw [Broker.audience_of_none hnone] at hl
      exact hne hl.symm
    obtain ⟨handovers, hdeals⟩ := Broker.deals_route_self hd.broker hl hne payload
    rw [if_pos ⟨rfl, hsome⟩] at he
    exact .of_deals he (hstep ▸ hdeals)
  · rw [if_neg fun h => heq h.1] at he
    exact .of_deals he (hstep ▸ Broker.deals_route_of_ne hd.broker heq payload)

lemma dealtBy_publish (hd : desk.Sound) (hl : desk.broker.audience name = listeners) (hne : listeners ≠ [])
    (session : Nat) (queue : String) (payload : Bytes) :
    DealtBy name listeners desk (.publish session queue payload) := by
  cases ho : desk.broker.isOpen session with
  | false =>
    have hstep := step_publish_of_closed ho queue payload
    refine .of_none ?_ (by rw [hstep]; exact .refl name listeners _)
    simp [routedBy, requeuedBy, hstep]
  | true =>
    have hstep := step_publish_of_open ho queue payload
    refine dealtBy_route hd hl hne queue payload (by rw [hstep]) ?_
    simp [routedBy, requeuedBy, hstep]

lemma dealtBy_declare (desk : Desk) (session : Nat) (queue : String) :
    DealtBy name listeners desk (.declare session queue) := by
  refine .of_none rfl ?_
  rcases Broker.declare_cases desk.broker session queue with h | ⟨-, hnone, h⟩
  · simp only [step, h]
    exact .refl name listeners _
  · simp only [step, h]
    refine .of_same ?_ fun hs _ => hs
    rw [Broker.turnOf, Broker.declared_queue? hnone, Broker.turnOf]
    split
    · next heq =>
      rw [heq, hnone]
      rfl
    · rfl

lemma dealtBy_consume (hd : desk.Sound) (hne : listeners ≠ []) (session : Nat) (queue : String)
    (mode : AckMode) (hl : desk.broker.audience name = listeners)
    (hl' : (desk.step (.consume session queue mode)).2.broker.audience name = listeners) :
    DealtBy name listeners desk (.consume session queue mode) := by
  refine .of_none rfl ?_
  rw [step_consume] at hl' ⊢
  by_cases heq : queue = name
  · subst heq
    rcases hresult : desk.broker.consume session queue mode with ⟨e | stream, b⟩
    · rcases Broker.consume_cases desk.broker session queue mode with ⟨e', h⟩ | ⟨q, -, -, h⟩
      · rw [hresult] at h
        cases h
        exact .refl queue listeners _
      · rw [hresult] at h
        cases h
    · -- whoever subscribes would have joined
      rw [hresult, Broker.audience_consume hd.broker hresult, if_pos rfl, hl] at hl'
      simp at hl'
  · exact Broker.deals_consume_of_ne hd.broker hl hne session heq mode

lemma dealtBy_close (hd : desk.Sound) (hne : listeners ≠ []) (session : Nat)
    (hl : desk.broker.audience name = listeners)
    (hl' : (desk.broker.close session).audience name = listeners) :
    DealtBy name listeners desk (.close session) := by
  have he : routedBy name desk (.close session) ++ requeuedBy name desk (.close session) = _ :=
    requeuedBy_close hd session
  cases hopen : desk.broker.isOpen session with
  | false =>
    rw [hopen] at he
    refine .of_none (he.trans (if_neg Bool.false_ne_true)) ?_
    simp only [step, Broker.close_of_not_open hopen]
    exact .refl name listeners _
  | true =>
    rw [hopen] at he
    -- nobody who listens has this session, as nobody has left
    have hothers : ∀ slot ∈ listeners, slot.session ≠ session := by
      have hkept := Broker.audience_close hopen name
      rw [hl', hl] at hkept
      intro slot hslot
      simpa using List.filter_eq_self.1 hkept.symm slot hslot
    obtain ⟨handovers, hdeals⟩ := Broker.deals_close hd.broker hl hne hopen hothers
    exact .of_deals he hdeals

lemma dealtBy_next (desk : Desk) (stream : Nat) : DealtBy name listeners desk (.next stream) := by
  rcases Broker.poll_cases desk.broker stream with (h | h) | ⟨s, tag, payload, rest, -, -, h⟩
  · exact .of_none rfl (by simp only [step, h]; exact .refl name listeners _)
  · exact .of_none rfl (by simp only [step, h]; exact .refl name listeners _)
  · exact .of_modify (j := stream) (f := Stream.behead) (by simp only [step, h]) (fun _ => rfl)
      (fun s => by simp [Stream.behead]) rfl

lemma dealtBy_settle (desk : Desk) (verdict : Verdict) (n : Nat) :
    DealtBy name listeners desk (.settle verdict n) := by
  refine .of_none rfl ?_
  have heffect := desk.step_effect (.settle verdict n)
  generalize (desk.step (.settle verdict n)).2 = desk' at heffect ⊢
  cases heffect with
  | nothing | forget => exact .refl name listeners _
  | settle verdict _ _ hq _ => exact Broker.deals_setQueue hq _ (by cases verdict <;> rfl) name

lemma dealtBy_stats (desk : Desk) (queue : String) :
    DealtBy name listeners desk (.control (.stats queue)) := by
  refine .of_none rfl ?_
  have heffect := desk.step_effect (.control (.stats queue))
  generalize (desk.step (.control (.stats queue))).2 = desk' at heffect ⊢
  cases heffect with
  | nothing => exact .refl name listeners _
  | stats hq => exact Broker.deals_setQueue hq _ (by rfl) name

/-- **While nobody joins or leaves, a command hands out messages in turns.** -/
lemma dealtBy_step (hd : desk.Sound) (hne : listeners ≠ []) {c : Command}
    (hl : desk.broker.audience name = listeners) (hl' : (desk.step c).2.broker.audience name = listeners) :
    DealtBy name listeners desk c := by
  cases c with
  | connect =>
    refine .of_none rfl (.of_same ?_ fun hs _ => ?_)
    · rw [step_connect, Broker.turnOf, Broker.connect_queue?, Broker.turnOf]
    · rw [step_connect, Broker.connect_streams]
      exact hs
  | declare session queue => exact dealtBy_declare desk session queue
  | consume session queue mode => exact dealtBy_consume hd hne session queue mode hl hl'
  | publish session queue payload => exact dealtBy_publish hd hl hne session queue payload
  | close session => exact dealtBy_close hd hne session hl hl'
  | next stream => exact dealtBy_next desk stream
  | settle verdict n => exact dealtBy_settle desk verdict n
  | dropStream stream =>
    exact .of_modify (j := stream) (f := Stream.abandon) rfl (fun _ => rfl) (fun _ => Nat.zero_le _) rfl
  | control c =>
    cases c with
    | inject queue payload =>
      refine dealtBy_route hd hl hne queue payload rfl ?_
      simp [routedBy, requeuedBy]
    | stats queue => exact dealtBy_stats desk queue
    | openSessions => exact .of_none rfl (.refl name listeners _)
    | refuseConnects n => exact .of_none rfl (.of_same rfl fun hs _ => hs)
    | refuseChannel => exact .of_none rfl (.of_same rfl fun hs _ => hs)

/-! ## The order of the listeners -/

/-- Those who listen to a queue stand in the order in which they were given their streams. -/
def Lined (desk : Desk) (name : String) : Prop :=
  ((desk.broker.audience name).map (·.stream)).Pairwise (· < ·)

/-- **What a command does to those who listen to a queue**: some leave, or somebody joins with a new stream. -/
lemma Effect.audience {c : Command} (h : desk.Effect c desk') (hd : desk.Sound) (name : String) :
    (desk'.broker.audience name).Sublist (desk.broker.audience name) ∨
      ∃ session mode, desk'.broker.audience name =
        desk.broker.audience name ++ [⟨session, mode, desk.broker.streams.length⟩] := by
  have hsame : ∀ {b' : Broker}, b'.audience = desk.broker.audience →
      (b'.audience name).Sublist (desk.broker.audience name) := by
    intro b' heq
    rw [heq]
  cases h with
  | nothing | forget | refuseConnects | refuseChannel => exact Or.inl (List.Sublist.refl _)
  | connect => exact Or.inl (hsame (Broker.audience_connect _))
  | declare _ hnone => exact Or.inl (hsame (Broker.audience_declared hnone))
  | consume session queue mode =>
    rcases Broker.consume_cases desk.broker session queue mode with ⟨e, h⟩ | ⟨q, -, hq, h⟩
    · rw [h]
      exact Or.inl (List.Sublist.refl _)
    · rw [h, Broker.audience_routeAll, Broker.audience_enlist hd.broker hq]
      split
      · exact Or.inr ⟨session, mode, rfl⟩
      · rw [List.append_nil]
        exact Or.inl (List.Sublist.refl _)
  | publish _ queue payload | inject queue payload =>
    exact Or.inl (hsame (Broker.audience_route _ queue payload))
  | close session =>
    left
    cases hopen : desk.broker.isOpen session with
    | false =>
      rw [Broker.close_of_not_open hopen]
    | true =>
      rw [Broker.audience_close hopen]
      exact List.filter_sublist
  | next => exact Or.inl (hsame (Broker.audience_behead _ _))
  | settle verdict _ _ hq _ => exact Or.inl (hsame (Broker.audience_settled hq _ verdict))
  | dropStream stream =>
    left
    rw [Broker.audience_dropStream]
    exact List.filter_sublist
  | stats hq => exact Or.inl (hsame (Broker.audience_pruned hq))

lemma audience_step (hd : desk.Sound) (c : Command) (name : String) :
    ((desk.step c).2.broker.audience name).Sublist (desk.broker.audience name) ∨
      ∃ session mode, (desk.step c).2.broker.audience name =
        desk.broker.audience name ++ [⟨session, mode, desk.broker.streams.length⟩] :=
  (step_effect desk c).audience hd name

lemma Lined.step (hd : desk.Sound) (h : desk.Lined name) (c : Command) : (desk.step c).2.Lined name := by
  rcases audience_step hd c name with hsub | ⟨session, mode, heq⟩
  · exact h.sublist (hsub.map _)
  · rw [Lined, heq, List.map_append, List.pairwise_append]
    refine ⟨h, List.pairwise_singleton _ _, fun i hi j hj => ?_⟩
    -- the stream of whoever joins is newer than all others
    obtain ⟨slot, hslot, rfl⟩ := List.mem_map.1 hi
    obtain ⟨q, hq, hmem, -⟩ := Broker.mem_audience.1 hslot
    obtain ⟨s, hs, -⟩ := hd.broker.slot hq hmem
    rw [List.mem_singleton.1 hj]
    exact (List.getElem?_eq_some_iff.1 hs).1

lemma run_lined (hd : desk.Sound) (h : desk.Lined name) (cs : List Command) :
    (desk.run cs).2.Sound ∧ (desk.run cs).2.Lined name := by
  induction cs generalizing desk with
  | nil => exact ⟨hd, h⟩
  | cons c rest ih => exact ih (hd.step c) (h.step hd c)

/-! ## Whole runs -/

lemma KeepsAudience.head {cs : List Command} (h : KeepsAudience name listeners desk cs) :
    desk.broker.audience name = listeners :=
  h [] ((List.mem_inits _ _).2 List.nil_prefix)

lemma KeepsAudience.tail {c : Command} {rest : List Command} (h : KeepsAudience name listeners desk (c :: rest)) :
    KeepsAudience name listeners (desk.step c).2 rest := by
  intro early hearly
  have hprefix : c :: early <+: c :: rest := List.cons_prefix_cons.2 ⟨rfl, (List.mem_inits _ _).1 hearly⟩
  exact h (c :: early) ((List.mem_inits _ _).2 hprefix)

lemma dealt_run (hd : desk.Sound) (hne : listeners ≠ []) {cs : List Command}
    (h : KeepsAudience name listeners desk cs) :
    ∃ handovers, Dealt name listeners desk (desk.run cs).2 (arrived name desk cs) (received desk cs) handovers := by
  induction cs generalizing desk with
  | nil => exact ⟨[], rfl, rfl, rfl, fun {i s} hs hq => ⟨rfl, s, hs, hq⟩⟩
  | cons c rest ih =>
    obtain ⟨first, hfirst⟩ := dealtBy_step hd hne h.head h.tail.head
    obtain ⟨later, hlater⟩ := ih (hd.step c) h.tail
    exact ⟨first ++ later, hfirst.trans hlater⟩

/-- **The consumers of a queue take turns** with the messages that come to it: message by message, `turns` says
through which stream it goes. -/
structure TakeTurns (listeners : List Slot) (arrived : List Bytes) (received : Nat → List (Nat × Bytes))
    (turns : List Nat) : Prop where
  /-- Every message goes to one of the consumers. -/
  length_eq : turns.length = arrived.length
  listens : ∀ i ∈ turns, ∃ slot ∈ listeners, slot.stream = i
  /-- As many messages in a row as there are consumers go to different ones. -/
  apart : ∀ m, m + listeners.length ≤ turns.length → ((turns.drop m).take listeners.length).Nodup
  /-- A consumer gets the messages whose turn is his, and no other, in the order in which they came. -/
  share : ∀ slot ∈ listeners, (received slot.stream).map (·.2) =
    ((turns.zip arrived).filter (·.1 = slot.stream)).map (·.2)
  /-- No consumer gets more than one message more than another. -/
  fair : ∀ slot ∈ listeners, ∀ other ∈ listeners,
    (received slot.stream).length ≤ (received other.stream).length + 1

/-- **Consumers take turns.**  Some consumers of a queue listen after any commands, and nobody joins or leaves them
while more commands are carried out.  Then they have different streams, the messages that come to the queue
meanwhile go to them in turns, and nobody else who once subscribed to the queue gets any. -/
theorem consumers_take_turns (before cs : List Command) (name : String) {desk : Desk} {listeners : List Slot}
    (hbefore : (({} : Desk).run before).2 = desk) (hne : listeners ≠ [])
    (hkept : KeepsAudience name listeners desk cs) :
    (listeners.map (·.stream)).Nodup ∧
    (∃ turns, TakeTurns listeners (arrived name desk cs) (received desk cs) turns) ∧
    ∀ i s, desk.broker.streams[i]? = some s → s.queue = name → i ∉ listeners.map (·.stream) →
      received desk cs i = [] := by
  obtain ⟨hd, hlined⟩ : (({} : Desk).run before).2.Sound ∧ (({} : Desk).run before).2.Lined name :=
    run_lined sound_empty List.Pairwise.nil before
  rw [hbefore] at hd hlined
  have hnodup : (listeners.map (·.stream)).Nodup := by
    rw [← hkept.head]
    exact hlined.imp Nat.ne_of_lt
  obtain ⟨handovers, hdealt⟩ := dealt_run hd hne hkept
  have hzip : (handovers.map (·.stream)).zip (arrived name desk cs) = handovers.map fun h => (h.stream, h.payload) := by
    rw [← hdealt.payloads, List.zip_map']
  have hshare : ∀ slot ∈ listeners, received desk cs slot.stream = MessageRelay.share slot.stream handovers := by
    intro slot hslot
    rw [← hkept.head] at hslot
    obtain ⟨q, hq, hmem, -⟩ := Broker.mem_audience.1 hslot
    obtain ⟨s, hs, hqueue, -⟩ := hd.broker.slot hq hmem
    exact (hdealt.streams hs hqueue).1
  have hcount : ∀ slot ∈ listeners, (received desk cs slot.stream).length =
      (rota listeners (desk.broker.turnOf name) handovers.length).count slot.stream := by
    intro slot hslot
    rw [hshare slot hslot, ← hdealt.rota, MessageRelay.share, List.length_map, List.count, List.countP_map,
      List.countP_eq_length_filter]
    rfl
  refine ⟨hnodup, ⟨handovers.map (·.stream), ?_, ?_, ?_, ?_, ?_⟩, ?_⟩
  · rw [← hdealt.payloads, List.length_map, List.length_map]
  · rw [hdealt.rota]
    exact fun i hi => exists_of_mem_rota hne hi
  · intro m hm
    rw [List.length_map] at hm
    rw [hdealt.rota]
    exact nodup_window hnodup hm
  · intro slot hslot
    rw [hzip, hshare slot hslot, List.filter_map, MessageRelay.share, List.map_map, List.map_map]
    rfl
  · intro slot hslot other hother
    rw [hcount slot hslot, hcount other hother]
    exact count_rota_le hnodup hslot hother _ _
  · intro i s hs hqueue hi
    rw [(hdealt.streams hs hqueue).1, MessageRelay.share, List.map_eq_nil_iff, List.filter_eq_nil_iff]
    intro h hmem
    have hturn : h.stream ∈ rota listeners (desk.broker.turnOf name) handovers.length := by
      rw [← hdealt.rota]
      exact List.mem_map_of_mem hmem
    obtain ⟨slot, hslot, heq⟩ := exists_of_mem_rota hne hturn
    have hother : h.stream ≠ i := by
      rintro rfl
      exact hi (List.mem_map.2 ⟨slot, hslot, heq⟩)
    simpa using hother

/-- A queue has four consumers of three sessions, one of whom has dropped his stream and left a message that is
not settled. -/
def crowdedQueue : List Command :=
  [.connect, .connect, .declare 0 "q", .consume 0 "q" .manual, .consume 1 "q" .auto, .consume 1 "q" .manual,
    .publish 1 "q" [1], .publish 1 "q" [2], .dropStream 0, .connect, .consume 2 "q" .manual]

/-- Those who listen to it. -/
def crowd : List Slot :=
  [⟨1, .auto, 1⟩, ⟨1, .manual, 2⟩, ⟨2, .manual, 3⟩]

/-- Four messages come to it, the third because a session ends.  In between a message is taken, the consumers are
counted, and another queue has its own traffic. -/
def queueTraffic : List Command :=
  [.publish 1 "q" [3], .next 1, .control (.inject "q" [4]), .close 0, .control (.stats "q"), .declare 2 "p",
    .consume 2 "p" .auto, .publish 2 "p" [9], .publish 2 "q" [5]]

theorem consumers_take_turns_crowdedQueue :
    let desk := (({} : Desk).run crowdedQueue).2
    (crowd ≠ [] ∧ KeepsAudience "q" crowd desk queueTraffic) ∧
      arrived "q" desk queueTraffic = [[3], [4], [1], [5]] ∧
      (crowd.map (·.stream)).Nodup ∧
      (∃ turns, TakeTurns crowd (arrived "q" desk queueTraffic) (received desk queueTraffic) turns) ∧
      ∀ i s, desk.broker.streams[i]? = some s → s.queue = "q" → i ∉ crowd.map (·.stream) →
        received desk queueTraffic i = [] :=
  have hne : crowd ≠ [] := by decide
  have hkept : KeepsAudience "q" crowd (({} : Desk).run crowdedQueue).2 queueTraffic := by decide +kernel
  ⟨⟨hne, hkept⟩, by decide +kernel, consumers_take_turns crowdedQueue queueTraffic "q" rfl hne hkept⟩

end Desk

end MessageRelay
