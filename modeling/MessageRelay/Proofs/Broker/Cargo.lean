import MessageRelay.Proofs.Broker.Custody

/-!
# What the messages at a broker have in common

If only messages of a certain kind are brought to the queues of a broker, then every message that waits in
a queue, that is not settled, or that is in a stream is of that kind, however often it went round: none is
changed on its way, and none turns up at another queue (`Works.laden`).  And if no message is refused, then
no queue has counted a refusal (`Works.unrefused`).
-/

namespace MessageRelay

/-! ## Queues -/

/-- All messages of a queue are of a certain kind. -/
structure Queue.Laden (P : Bytes → Prop) (q : Queue) : Prop where
  ready : ∀ payload ∈ q.ready, P payload
  unacked : ∀ u ∈ q.unacked, P u.payload

namespace Queue.Laden

variable {P : Bytes → Prop} {q q' : Queue} {alive : Nat → Bool} {slot : Slot} {payload : Bytes}

lemma of_subset (h : q.Laden P) (hready : q'.ready ⊆ q.ready) (hunacked : q'.unacked ⊆ q.unacked) :
    q'.Laden P :=
  ⟨fun payload hp => h.ready payload (hready hp), fun u hu => h.unacked u (hunacked hu)⟩

lemma handed (h : q.Laden P) (hp : P payload) : (q.handed alive slot payload).Laden P where
  ready := h.ready
  unacked u hu := by
    rcases mem_unacked_handed hu with hu | ⟨-, rfl⟩
    · exact h.unacked u hu
    · exact hp

lemma stored (h : q.Laden P) (hp : P payload) : (q.stored alive payload).Laden P where
  ready p hmem := by
    rw [stored_ready, List.mem_append, List.mem_singleton] at hmem
    rcases hmem with hmem | rfl
    · exact h.ready p hmem
    · exact hp
  unacked := h.unacked

lemma of_mem_unsettledOf (h : q.Laden P) {session : Nat} (hp : payload ∈ q.unsettledOf session) :
    P payload := by
  obtain ⟨u, hu, rfl⟩ := List.mem_map.1 hp
  exact h.unacked u (List.mem_filter.1 hu).1

end Queue.Laden

/-! ## Brokers -/

namespace Broker

variable {P P' : String → Bytes → Prop} {b b' : Broker} {name : String} {q q' : Queue} {payload : Bytes}

/-- All messages of a broker are of a certain kind, which may depend on the queue that they are for. -/
structure Laden (P : String → Bytes → Prop) (b : Broker) : Prop where
  queue : ∀ {name : String} {q : Queue}, b.queue? name = some q → q.Laden (P name)
  buffer : ∀ {i : Nat} {s : Stream} {e : Nat × Bytes}, b.streams[i]? = some s → e ∈ s.buffer →
    P s.queue e.2

lemma laden_empty (P : String → Bytes → Prop) : ({} : Broker).Laden P where
  queue h := by simp [queue?] at h
  buffer h _ := by simp at h

namespace Laden

lemma mono (h : b.Laden P) (hP : ∀ name payload, P name payload → P' name payload) : b.Laden P' where
  queue hq := ⟨fun p hp => hP _ p ((h.queue hq).ready p hp), fun u hu => hP _ _ ((h.queue hq).unacked u hu)⟩
  buffer hs he := hP _ _ (h.buffer hs he)

lemma congr (h : b.Laden P) (hq : b'.queue? = b.queue?) (hs : b'.streams = b.streams) : b'.Laden P where
  queue hname := h.queue (hq ▸ hname)
  buffer hi he := h.buffer (hs ▸ hi) he

lemma setQueue (h : b.Laden P) (hq : b.queue? name = some q) (hl : q'.Laden (P name)) :
    (b.setQueue name q').Laden P where
  queue hname := by
    rw [queue?_setQueue hq] at hname
    split at hname
    · next heq =>
      cases hname
      rwa [heq]
    · exact h.queue hname
  buffer hs he := h.buffer hs he

lemma route (h : b.Laden P) (hb : b.Sound) (hp : P name payload) : (b.route name payload).Laden P := by
  cases hq : b.queue? name with
  | none => rwa [route_of_none hq]
  | some q =>
    rcases route_cases hq payload with ⟨slot, hslot, -, heq⟩ | ⟨-, heq⟩
    · rw [heq]
      refine ⟨(h.setQueue hq ((h.queue hq).handed hp)).queue, ?_⟩
      intro i s' e hs' he
      obtain ⟨s, hs, hqueue, -, he | ⟨-, hname, -, rfl⟩⟩ := hb.mem_buffer_handOver hq hslot hs' he
      · rw [hqueue]
        exact h.buffer hs he
      · rw [hqueue, hname]
        exact hp
    · rw [heq]
      exact h.setQueue hq ((h.queue hq).stored hp)

lemma routeAll (h : b.Laden P) (hb : b.Sound) {payloads : List Bytes}
    (hp : ∀ payload ∈ payloads, P name payload) : (b.routeAll name payloads).Laden P := by
  induction payloads generalizing b with
  | nil => exact h
  | cons payload rest ih =>
    rw [routeAll_cons]
    exact ih (h.route hb (hp payload List.mem_cons_self)) (hb.route name payload)
      fun p hmem => hp p (List.mem_cons_of_mem _ hmem)

lemma enlist (h : b.Laden P) (hq : b.queue? name = some q) (session : Nat) (mode : AckMode) :
    (b.enlist session name mode q).Laden P where
  queue hname := by
    rw [enlist_queue? hq] at hname
    split at hname
    · next heq =>
      cases hname
      rw [heq]
      exact (h.queue hq).of_subset (List.nil_subset _) (List.Subset.refl _)
    · exact h.queue hname
  buffer hs he := by
    rcases getElem?_append_cases hs with hs | ⟨-, rfl⟩
    · exact h.buffer hs he
    · cases he

lemma consume (h : b.Laden P) (hb : b.Sound) (session : Nat) (name : String) (mode : AckMode) :
    (b.consume session name mode).2.Laden P := by
  rcases consume_cases b session name mode with ⟨e, heq⟩ | ⟨q, -, hq, heq⟩
  · rwa [heq]
  · rw [heq]
    exact (h.enlist hq session mode).routeAll (hb.enlist hq session mode) (h.queue hq).ready

/-- What a session has not settled is of the right kind when it goes round again. -/
lemma releaseQueue (h : b.Laden P) (hb : b.Sound) (session : Nat) (name : String) :
    (Broker.releaseQueue session b name).Laden P := by
  cases hq : b.queue? name with
  | none => rwa [releaseQueue_of_none hq]
  | some q =>
    rw [releaseQueue_eq_routeAll hq]
    have hdismiss : (b.dismiss session name q).Laden P :=
      h.setQueue hq ((h.queue hq).of_subset (List.Subset.refl _) (List.filter_subset_self _))
    exact hdismiss.routeAll (hb.dismiss hq session) fun payload => (h.queue hq).of_mem_unsettledOf

lemma close (h : b.Laden P) (hb : b.Sound) (session : Nat) : (b.close session).Laden P := by
  cases hopen : b.isOpen session with
  | false => rwa [close_of_not_open hopen]
  | true =>
    have hrelease : ∀ (names : List String) {b : Broker}, b.Laden P → b.Sound →
        (b.releaseQueues session names).Laden P := by
      intro names
      induction names with
      | nil => exact fun h _ => h
      | cons name rest ih =>
        exact fun h hb => ih (h.releaseQueue hb session name) (hb.releaseQueue session name)
    rw [close_of_open hopen]
    exact hrelease _ (h.congr rfl rfl) (hb.congr rfl rfl)

/-- A stream may lose messages. -/
lemma modifyStream (h : b.Laden P) (i : Nat) {f : Stream → Stream} (hqueue : ∀ s, (f s).queue = s.queue)
    (hbuffer : ∀ s, (f s).buffer ⊆ s.buffer) : (b.modifyStream i f).Laden P where
  queue hq := h.queue hq
  buffer {j s' e} hj he := by
    rw [modifyStream_streams] at hj
    obtain ⟨s, hs, rfl⟩ := Option.map_eq_some_iff.1 hj
    split at he
    · next hi =>
      rw [if_pos hi, hqueue]
      exact h.buffer hs (hbuffer s he)
    · next hi =>
      rw [if_neg hi]
      exact h.buffer hs he

lemma behead (h : b.Laden P) (i : Nat) : (b.modifyStream i Stream.behead).Laden P :=
  h.modifyStream i (fun _ => rfl) fun s => (List.tail_sublist s.buffer).subset

lemma settled (h : b.Laden P) (hq : b.queue? name = some q) (tag : Nat) (verdict : Verdict) :
    (b.setQueue name (Broker.settled q tag verdict)).Laden P := by
  refine h.setQueue hq ((h.queue hq).of_subset ?_ ?_)
  · rw [settled_ready]
    exact List.Subset.refl _
  · rw [settled_unacked]
    exact List.filter_subset_self _

lemma declared (h : b.Laden P) (hnone : b.queue? name = none) : (b.declared name).Laden P := by
  refine ⟨?_, h.buffer⟩
  intro other q hq
  rw [declared_queue? hnone] at hq
  split at hq
  · cases hq
    exact ⟨(by simp), (by simp)⟩
  · exact h.queue hq

/-- What is taken from a stream is of the right kind for the queue of the stream. -/
lemma of_poll (h : b.Laden P) {i : Nat} {d : Delivery} (hpoll : b.poll i = (.delivery d, b')) :
    ∃ s, b.streams[i]? = some s ∧ P s.queue d.payload := by
  rcases poll_cases b i with (h' | h') | ⟨s, tag, payload, rest, hs, hbuf, h'⟩
  · rw [h'] at hpoll
    cases hpoll
  · rw [h'] at hpoll
    cases hpoll
  · rw [h'] at hpoll
    cases hpoll
    exact ⟨s, hs, h.buffer (e := (tag, payload)) hs (by rw [hbuf]; exact List.mem_cons_self)⟩

end Laden

end Broker

/-! ## Commands -/

namespace Desk

variable {P : String → Bytes → Prop} {desk desk' : Desk} {ok : Command → Prop} {name : String}

/-- If a command brings a message to a queue, the message is of a certain kind. -/
def Command.Bears (P : String → Bytes → Prop) : Command → Prop
  | .publish _ queue payload | .control (.inject queue payload) => P queue payload
  | _ => True

lemma Effect.laden {c : Command} (he : desk.Effect c desk') (hd : desk.Sound) (h : desk.broker.Laden P)
    (hc : c.Bears P) : desk'.broker.Laden P := by
  have hb := hd.broker
  cases he with
  | nothing | forget => exact h
  | connect => exact h.congr (Broker.connect_queue? _) (Broker.connect_streams _)
  | declare _ hnone => exact h.declared hnone
  | consume session queue mode => exact h.consume hb session queue mode
  | publish | inject => exact h.route hb hc
  | close session => exact h.close hb session
  | next => exact h.behead _
  | settle verdict _ _ hq _ => exact h.settled hq _ verdict
  | dropStream stream => exact h.modifyStream stream (fun _ => rfl) fun _ => List.nil_subset _
  | stats hq => exact h.setQueue hq ((h.queue hq).of_subset (List.Subset.refl _) (List.Subset.refl _))
  | refuseConnects | refuseChannel => exact h.congr rfl rfl

lemma step_laden (hd : desk.Sound) (h : desk.broker.Laden P) {c : Command} (hc : c.Bears P) :
    (desk.step c).2.broker.Laden P :=
  (step_effect desk c).laden hd h hc

/-- Whoever brings only messages of a certain kind finds no others. -/
lemma Works.laden (hd : desk.Sound) (h : desk.broker.Laden P) (hw : Works ok desk desk')
    (hok : ∀ c, ok c → c.Bears P) : desk'.broker.Laden P := by
  induction hw with
  | refl => exact h
  | tail hw₁ hwork ih =>
    cases hwork with
    | command c hc => exact step_laden (Works.sound hd hw₁) ih (hok c hc)
    | clear b deliveries => exact ih

/-- A stream always comes from the same queue. -/
lemma Works.stream_queue (hw : Works ok desk desk') {i : Nat} {s : Stream}
    (hs : desk.broker.streams[i]? = some s) :
    ∃ s', desk'.broker.streams[i]? = some s' ∧ s'.queue = s.queue := by
  induction hw with
  | refl => exact ⟨s, hs, rfl⟩
  | @tail desk₁ _ _ hwork ih =>
    obtain ⟨s₁, hs₁, hqueue⟩ := ih
    have hmodify : ∀ (j : Nat) (f : Stream → Stream), (∀ s, (f s).queue = s.queue) →
        ∃ s', (desk₁.broker.streams.modify j f)[i]? = some s' ∧ s'.queue = s.queue := by
      intro j f hf
      rw [List.getElem?_modify, hs₁]
      refine ⟨_, rfl, ?_⟩
      split
      · rw [hf, hqueue]
      · exact hqueue
    cases hwork with
    | command c _ =>
      rcases step_streams desk₁ c with hfull | ⟨j, -, heq⟩ | ⟨j, -, heq⟩
      · obtain ⟨s₂, more, hs₂, hqueue₂, -⟩ := hfull.grows hs₁
        exact ⟨s₂, hs₂, hqueue₂.trans hqueue⟩
      · rw [heq]
        exact hmodify j _ fun _ => rfl
      · rw [heq]
        exact hmodify j _ fun _ => rfl
    | clear b deliveries => exact ⟨s₁, hs₁, hqueue⟩

/-- Only a verdict is counted as one. -/
lemma count_step_of_ne (hd : desk.Sound) {c : Command} {v : Verdict} (hc : ∀ n, c ≠ .settle v n) :
    (desk.step c).2.broker.count name v = desk.broker.count name v := by
  have hnone : settledBy v name desk c = [] := by
    cases c with
    | settle w n =>
      have hne : w ≠ v := fun heq => hc n (by rw [heq])
      simp only [settledBy]
      split
      · rw [if_neg (fun h => hne h.2.1)]
      · rfl
    | _ => rfl
  rw [(step_conserves hd name c).counts v, hnone]
  rfl

/-- Whoever refuses nothing finds no refusals counted. -/
lemma Works.unrefused (hd : desk.Sound) (hw : Works ok desk desk')
    (hok : ∀ c, ok c → ∀ n, c ≠ .settle .reject n) :
    desk'.broker.count name .reject = desk.broker.count name .reject := by
  induction hw with
  | refl => rfl
  | tail hw₁ hwork ih =>
    cases hwork with
    | command c hc => rw [count_step_of_ne (Works.sound hd hw₁) (hok c hc), ih]
    | clear b deliveries => exact ih

end Desk

end MessageRelay
