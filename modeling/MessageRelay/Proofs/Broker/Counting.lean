import MessageRelay.Proofs.Broker.Naming
import MessageRelay.Proofs.Broker.Upkeep

/-!
# Counting disturbs nobody

Whoever counts what is in a queue makes the queue forget the consumers that have dropped their streams.  Other
operations forget them only when there is a message to dispatch, so a broker that was looked at and one that was
not have different lists of consumers, and it is in these lists that a queue looks up whose turn it is.

The difference is never more than consumers that have dropped their streams: when those are swept out, the two
brokers are the same (`Broker.Alike`).  A queue forgets them itself before it looks up whose turn it is, so two
such brokers hand out the same messages to the same streams, and a command that finds them alike leaves them so
(`Desk.Alike.step`).  To count leaves a broker alike to what it was (`Broker.stats_alike`).  Hence counts can be put
into a run anywhere, and whoever runs it is answered the same (`counting_disturbs_nobody`).
-/

namespace MessageRelay

/-! ## Queues that differ in consumers that are gone -/

namespace Queue

variable {alive keep : Nat → Bool} {q q' : Queue}

/-- To forget some consumers and then more of them is to forget those right away. -/
lemma prune_prune (hle : ∀ i, alive i = true → keep i = true) (q : Queue) :
    (q.prune keep).prune alive = q.prune alive := by
  have hslots : ((q.slots.filter fun slot => keep slot.stream).filter fun slot => alive slot.stream) =
      q.slots.filter fun slot => alive slot.stream := by
    rw [List.filter_filter]
    apply List.filter_congr
    intro slot _
    cases halive : alive slot.stream with
    | false => rfl
    | true => rw [hle _ halive, Bool.and_self]
  simp only [prune, hslots]

lemma prune_congr (hle : ∀ i, alive i = true → keep i = true) (h : q.prune keep = q'.prune keep) :
    q.prune alive = q'.prune alive := by
  rw [← prune_prune hle q, h, prune_prune hle]

/-- A queue forgets those who do not listen before it looks up whose turn it is. -/
lemma dispatch_congr (hle : ∀ i, alive i = true → keep i = true) (h : q.prune keep = q'.prune keep)
    (payload : Bytes) : q.dispatch alive payload = q'.dispatch alive payload := by
  simp only [dispatch, prune_congr hle h]

lemma dispatchAll_congr (hle : ∀ i, alive i = true → keep i = true) (h : q.prune keep = q'.prune keep)
    (payloads : List Bytes) :
    (q.dispatchAll alive payloads).1.prune keep = (q'.dispatchAll alive payloads).1.prune keep ∧
      (q.dispatchAll alive payloads).2 = (q'.dispatchAll alive payloads).2 := by
  cases payloads with
  | nil => exact ⟨h, rfl⟩
  | cons payload rest =>
    -- the first message makes the two queues equal
    simp only [dispatchAll, dispatch_congr hle h, and_self]

lemma subscribe_congr (hle : ∀ i, alive i = true → keep i = true) (h : q.prune keep = q'.prune keep)
    (slot : Slot) :
    (q.subscribe alive slot).1.prune keep = (q'.subscribe alive slot).1.prune keep ∧
      (q.subscribe alive slot).2 = (q'.subscribe alive slot).2 := by
  have hready : q.ready = q'.ready := (congrArg Queue.ready h :)
  have hwider : ∀ q : Queue, ({ q with slots := q.slots ++ [slot], ready := [] } : Queue).prune keep =
      { q.prune keep with slots := (q.prune keep).slots ++ [slot].filter (keep ·.stream), ready := [] } := by
    intro q
    simp only [prune, List.filter_append]
  rw [subscribe, subscribe, hready]
  refine dispatchAll_congr hle ?_ _
  rw [hwider, hwider, h]

lemma release_congr (hle : ∀ i, alive i = true → keep i = true) (h : q.prune keep = q'.prune keep)
    (session : Nat) :
    (q.release alive session).1.prune keep = (q'.release alive session).1.prune keep ∧
      (q.release alive session).2 = (q'.release alive session).2 := by
  have hunsettled : q.unsettledOf session = q'.unsettledOf session :=
    (congrArg (fun q : Queue => q.unsettledOf session) h :)
  -- it makes no difference whether a session's consumers go before those who are gone or after them
  have hkept : ∀ q : Queue, ({ q with
        slots := q.slots.filter (·.session != session)
        unacked := q.unacked.filter (·.session != session) } : Queue).prune keep =
      { q.prune keep with
        slots := (q.prune keep).slots.filter (·.session != session)
        unacked := (q.prune keep).unacked.filter (·.session != session) } := by
    intro q
    simp only [prune, List.filter_filter, Bool.and_comm]
  rw [release, release, hunsettled]
  refine dispatchAll_congr hle ?_ _
  rw [hkept, hkept, h]

end Queue

/-! ## Brokers that differ in consumers that are gone -/

/-- Whether a stream was not dropped; one that there is not yet may still come. -/
def mayListen (streams : List Stream) (i : Nat) : Bool :=
  (streams[i]?.map (·.listening)).getD true

namespace Broker

variable {b b' : Broker} {name : String} {q q' : Queue} {payload : Bytes} {session i : Nat} {mode : AckMode}

lemma mayListen_of_isListening (h : b.isListening i = true) : mayListen b.streams i = true := by
  unfold isListening at h
  unfold mayListen
  cases hs : b.streams[i]? with
  | none => rfl
  | some s => rwa [hs] at h

/-- The broker without the consumers that have dropped their streams. -/
def swept (b : Broker) : Broker :=
  { b with queues := b.queues.map fun p => (p.1, p.2.prune (mayListen b.streams)) }

/-- Two brokers that differ in nothing but consumers that have dropped their streams. -/
def Alike (b b' : Broker) : Prop :=
  b.swept = b'.swept

lemma swept_queue? (b : Broker) (name : String) :
    b.swept.queue? name = (b.queue? name).map (·.prune (mayListen b.streams)) := by
  unfold queue? swept
  simp only
  induction b.queues with
  | nil => rfl
  | cons p rest ih =>
    rw [List.map_cons, List.lookup_cons, List.lookup_cons, ih]
    cases name == p.1 <;> rfl

lemma swept_setQueue (b : Broker) (name : String) (q : Queue) :
    (b.setQueue name q).swept = b.swept.setQueue name (q.prune (mayListen b.streams)) := by
  simp only [swept, setQueue, List.map_map]
  congr 1
  apply List.map_congr_left
  intro p _
  by_cases hp : p.1 = name <;> simp [hp]

namespace Alike

lemma streams_eq (h : b.Alike b') : b.streams = b'.streams :=
  (congrArg Broker.streams h :)

lemma isListening_eq (h : b.Alike b') : b.isListening = b'.isListening := by
  funext i
  rw [isListening, isListening, h.streams_eq]

lemma isOpen_eq (h : b.Alike b') (session : Nat) : b.isOpen session = b'.isOpen session := by
  have hsessions : b.sessions = b'.sessions := (congrArg Broker.sessions h :)
  rw [isOpen, isOpen, hsessions]

lemma names_eq (h : b.Alike b') : b.queues.map (·.1) = b'.queues.map (·.1) := by
  have hqueues : b.swept.queues = b'.swept.queues := congrArg Broker.queues h
  simpa [swept, Function.comp_def] using congrArg (List.map (·.1)) hqueues

/-- A queue that one of them has, the other has as well, with the same consumers that may listen. -/
lemma queue?_cases (h : b.Alike b') (name : String) :
    (b.queue? name = none ∧ b'.queue? name = none) ∨
      ∃ q q', b.queue? name = some q ∧ b'.queue? name = some q' ∧
        q.prune (mayListen b.streams) = q'.prune (mayListen b.streams) := by
  have hqueue : b.swept.queue? name = b'.swept.queue? name :=
    congrArg (fun b : Broker => b.queue? name) h
  rw [swept_queue?, swept_queue?, ← h.streams_eq] at hqueue
  cases hq : b.queue? name with
  | none =>
    rw [hq, Option.map_none, eq_comm, Option.map_eq_none_iff] at hqueue
    exact .inl ⟨rfl, hqueue⟩
  | some q =>
    rw [hq, Option.map_some, eq_comm, Option.map_eq_some_iff] at hqueue
    obtain ⟨q', hq', heq⟩ := hqueue
    exact .inr ⟨q, q', rfl, hq', heq.symm⟩

lemma setQueue (h : b.Alike b') (hq : q.prune (mayListen b.streams) = q'.prune (mayListen b.streams)) :
    (b.setQueue name q).Alike (b'.setQueue name q') := by
  rw [Alike, swept_setQueue, swept_setQueue, ← h.streams_eq, hq]
  exact congrArg (fun b : Broker => b.setQueue name _) h

/-- To change the streams is the same for both, unless dropped streams are listened to again. -/
lemma withStreams (h : b.Alike b') (streams : List Stream)
    (hle : ∀ i, mayListen streams i = true → mayListen b.streams i = true) :
    ({ b with streams } : Broker).Alike { b' with streams } := by
  have htwice : ∀ b : Broker, (∀ i, mayListen streams i = true → mayListen b.streams i = true) →
      ({ b with streams } : Broker).swept = ({ b.swept with streams } : Broker).swept := by
    intro b hle
    simp only [swept, List.map_map, Function.comp_def, Queue.prune_prune hle]
  have hle' : ∀ i, mayListen streams i = true → mayListen b'.streams i = true := by rwa [← h.streams_eq]
  rw [Alike, htwice b hle, htwice b' hle']
  exact congrArg (fun b : Broker => ({ b with streams } : Broker).swept) h

end Alike

/-! ## Which streams are dropped -/

lemma mayListen_modify {f : Stream → Stream} (hf : ∀ s, (f s).listening = s.listening) (streams : List Stream)
    (i : Nat) : mayListen (streams.modify i f) = mayListen streams := by
  funext j
  rw [mayListen, mayListen, List.getElem?_modify]
  cases streams[j]? with
  | none => rfl
  | some s => by_cases hij : i = j <;> simp [hij, hf]

lemma mayListen_set {streams : List Stream} {s s' : Stream} (hs : streams[i]? = some s)
    (hl : s'.listening = s.listening) : mayListen (streams.set i s') = mayListen streams := by
  funext j
  rw [mayListen, mayListen, List.getElem?_set]
  by_cases hij : i = j
  · have hlt : i < streams.length := (List.getElem?_eq_some_iff.1 hs).1
    rw [if_pos hij, if_pos hlt, ← hij, hs, Option.map_some, Option.map_some, hl]
  · rw [if_neg hij]

lemma mayListen_foldl_carry (handovers : List Handover) (streams : List Stream) :
    mayListen (handovers.foldl carry streams) = mayListen streams := by
  induction handovers generalizing streams with
  | nil => rfl
  | cons h rest ih =>
    rw [List.foldl_cons, ih]
    exact mayListen_modify (f := fun s => { s with buffer := s.buffer ++ [(h.tag, h.payload)] }) (fun _ => rfl)
      streams h.stream

/-- A stream that is new is listened to, and so it might have been before there was one. -/
lemma mayListen_append (streams : List Stream) (name : String) (mode : AckMode) :
    mayListen (streams ++ [{ queue := name, mode }]) = mayListen streams := by
  funext i
  rw [mayListen, mayListen]
  rcases Nat.lt_trichotomy i streams.length with hlt | rfl | hgt
  · rw [List.getElem?_append_left hlt]
  · rw [List.getElem?_concat_length, List.getElem?_eq_none (Nat.le_refl _)]
    rfl
  · rw [List.getElem?_eq_none (by simp; omega), List.getElem?_eq_none (by omega)]

/-- What feeds streams does not say who listens to them. -/
lemma Fed.mayListen_eq (h : b.Fed b') : mayListen b'.streams = mayListen b.streams := by
  funext i
  rw [mayListen, mayListen]
  cases hs' : b'.streams[i]? with
  | none =>
    rw [List.getElem?_eq_none_iff, h.length_eq] at hs'
    rw [List.getElem?_eq_none hs']
  | some s' =>
    obtain ⟨s, hs, -, -, hlistening, -⟩ := h.stream hs'
    rw [hs, Option.map_some, Option.map_some, hlistening]

lemma mayListen_abandon_le (streams : List Stream) (i j : Nat)
    (h : mayListen (streams.modify i Stream.abandon) j = true) : mayListen streams j = true := by
  rw [mayListen, List.getElem?_modify] at h
  rw [mayListen]
  cases hs : streams[j]? with
  | none => rfl
  | some s =>
    rw [hs] at h
    by_cases hij : i = j
    · simp [hij, Stream.abandon] at h
    · simpa [hij] using h

/-! ## What a broker does, done by two that are alike -/

namespace Alike

lemma updateQueue (h : b.Alike b') {result result' : Queue × List Handover}
    (hq : result.1.prune (mayListen b.streams) = result'.1.prune (mayListen b.streams))
    (hcarried : result.2 = result'.2) : (b.updateQueue name result).Alike (b'.updateQueue name result') := by
  have hset : (b.setQueue name result.1).Alike (b'.setQueue name result'.1) := h.setQueue hq
  have hcarry := hset.withStreams (result.2.foldl carry b.streams) fun i hi => by
    rwa [mayListen_foldl_carry] at hi
  rw [Broker.updateQueue, Broker.updateQueue, carryAll, carryAll, ← hcarried, setQueue_streams, setQueue_streams,
    ← h.streams_eq]
  exact hcarry

/-- Whoever listens may listen, so the queues of two such brokers dispatch alike. -/
lemma listening_le (h : b.Alike b') (i : Nat) (hi : b'.isListening i = true) :
    mayListen b.streams i = true := by
  rw [← h.isListening_eq] at hi
  exact mayListen_of_isListening hi

lemma route (h : b.Alike b') (name : String) (payload : Bytes) :
    (b.route name payload).Alike (b'.route name payload) := by
  rcases h.queue?_cases name with ⟨hq, hq'⟩ | ⟨q, q', hq, hq', hprune⟩
  · rwa [route_of_none hq, route_of_none hq']
  · rw [route_of_some hq, route_of_some hq', h.isListening_eq, Queue.dispatch_congr h.listening_le hprune]
    exact h.updateQueue rfl rfl

lemma connect (h : b.Alike b') : b.connect.1 = b'.connect.1 ∧ b.connect.2.Alike b'.connect.2 := by
  -- the consumers do not matter here
  have hcommutes : ∀ b : Broker, b.swept.connect = (b.connect.1, b.connect.2.swept) := by
    intro b
    have hrefusals : b.swept.refusals = b.refusals := rfl
    have hfault : b.swept.channelFault = b.channelFault := rfl
    unfold Broker.connect
    rw [hrefusals, hfault]
    split
    · rfl
    · split <;> rfl
  have hsame := congrArg Broker.connect h
  rw [hcommutes, hcommutes] at hsame
  exact Prod.mk.inj hsame

lemma declare (h : b.Alike b') (session : Nat) (name : String) :
    (b.declare session name).1 = (b'.declare session name).1 ∧
      (b.declare session name).2.Alike (b'.declare session name).2 := by
  unfold Broker.declare
  rw [h.isOpen_eq]
  split
  · exact ⟨rfl, h⟩
  · rcases h.queue?_cases name with ⟨hq, hq'⟩ | ⟨q, q', hq, hq', -⟩
    · have hmore : ∀ b : Broker, (b.declared name).swept = b.swept.declared name := by
        intro b
        simp only [swept, declared, List.map_append]
        rfl
      have hdeclared : (b.declared name).Alike (b'.declared name) := by
        rw [Alike, hmore, hmore, h]
      rw [hq, hq']
      exact ⟨rfl, hdeclared⟩
    · rw [hq, hq']
      exact ⟨rfl, h⟩

lemma consume (h : b.Alike b') (session : Nat) (name : String) (mode : AckMode) :
    (b.consume session name mode).1 = (b'.consume session name mode).1 ∧
      (b.consume session name mode).2.Alike (b'.consume session name mode).2 := by
  unfold Broker.consume
  rw [h.isOpen_eq]
  split
  · exact ⟨rfl, h⟩
  · rcases h.queue?_cases name with ⟨hq, hq'⟩ | ⟨q, q', hq, hq', hprune⟩
    · rw [hq, hq']
      exact ⟨rfl, h⟩
    · rw [hq, hq']
      have hnew := mayListen_append b.streams name mode
      have hjoined := h.withStreams (b.streams ++ [{ queue := name, mode }]) fun i hi => by rwa [hnew] at hi
      simp only [← h.streams_eq, true_and]
      rw [← hnew] at hprune
      obtain ⟨hqueue, hcarried⟩ :=
        Queue.subscribe_congr hjoined.listening_le hprune ⟨session, mode, b.streams.length⟩
      rw [hjoined.isListening_eq]
      exact hjoined.updateQueue hqueue hcarried

lemma publish (h : b.Alike b') (session : Nat) (name : String) (payload : Bytes) :
    (b.publish session name payload).1 = (b'.publish session name payload).1 ∧
      (b.publish session name payload).2.Alike (b'.publish session name payload).2 := by
  unfold Broker.publish
  rw [h.isOpen_eq]
  split
  · exact ⟨rfl, h⟩
  · exact ⟨rfl, h.route name payload⟩

lemma releaseQueue (h : b.Alike b') (session : Nat) (name : String) :
    (Broker.releaseQueue session b name).Alike (Broker.releaseQueue session b' name) := by
  unfold Broker.releaseQueue
  rcases h.queue?_cases name with ⟨hq, hq'⟩ | ⟨q, q', hq, hq', hprune⟩
  · rwa [hq, hq']
  · rw [hq, hq']
    obtain ⟨hqueue, hcarried⟩ := Queue.release_congr h.listening_le hprune session
    simp only [h.isListening_eq]
    exact h.updateQueue hqueue hcarried

lemma releaseQueues (h : b.Alike b') (session : Nat) (names : List String) :
    (b.releaseQueues session names).Alike (b'.releaseQueues session names) := by
  rw [releaseQueues_eq_foldl, releaseQueues_eq_foldl]
  induction names generalizing b b' with
  | nil => exact h
  | cons name rest ih => exact ih (h.releaseQueue session name)

lemma close (h : b.Alike b') (session : Nat) : (b.close session).Alike (b'.close session) := by
  cases hopen : b.isOpen session with
  | false =>
    have hopen' := (h.isOpen_eq session).symm.trans hopen
    rwa [close_of_not_open hopen, close_of_not_open hopen']
  | true =>
    have hopen' := (h.isOpen_eq session).symm.trans hopen
    have hangUp : (b.hangUp session).Alike (b'.hangUp session) :=
      congrArg (fun b : Broker => b.hangUp session) h
    rw [close_of_open hopen, close_of_open hopen', h.names_eq]
    exact hangUp.releaseQueues session _

/-- Whether a stream that was not dropped is fed can be told without those who are gone. -/
lemma isFed_eq (h : b.Alike b') (hi : mayListen b.streams i = true) : b.isFed i = b'.isFed i := by
  have hswept : ∀ b : Broker, mayListen b.streams i = true → b.swept.isFed i = b.isFed i := by
    intro b hi
    unfold isFed swept
    simp only [List.any_map, Function.comp_def, Queue.prune, List.any_filter]
    congr 1
    funext p
    congr 1
    funext slot
    by_cases hslot : slot.stream = i
    · rw [hslot, hi, Bool.true_and]
    · simp [hslot]
  have hi' : mayListen b'.streams i = true := by rwa [← h.streams_eq]
  rw [← hswept b hi, ← hswept b' hi']
  exact congrArg (fun b : Broker => b.isFed i) h

lemma poll (h : b.Alike b') (hi : mayListen b.streams i = true) :
    (b.poll i).1 = (b'.poll i).1 ∧ (b.poll i).2.Alike (b'.poll i).2 := by
  unfold Broker.poll
  rw [← h.streams_eq, ← h.isFed_eq hi]
  cases hs : b.streams[i]? with
  | none => exact ⟨rfl, h⟩
  | some s =>
    cases hbuffer : s.buffer with
    | nil =>
      simp only [hbuffer, true_and]
      exact h
    | cons e rest =>
      simp only [hbuffer, true_and]
      have hsame : mayListen (b.streams.set i { s with buffer := rest }) = mayListen b.streams := mayListen_set hs rfl
      exact h.withStreams _ fun j hj => by rwa [hsame] at hj

lemma dropStream (h : b.Alike b') (i : Nat) : (b.dropStream i).Alike (b'.dropStream i) := by
  rw [dropStream_eq, dropStream_eq, modifyStream, modifyStream, ← h.streams_eq]
  exact h.withStreams _ (mayListen_abandon_le b.streams i)

lemma settle (h : b.Alike b') (verdict : Verdict) (d : Delivery) :
    (b.settle verdict d).1 = (b'.settle verdict d).1 ∧
      (b.settle verdict d).2.Alike (b'.settle verdict d).2 := by
  unfold Broker.settle
  split
  · exact ⟨rfl, h⟩
  · rcases h.queue?_cases d.queue with ⟨hq, hq'⟩ | ⟨q, q', hq, hq', hprune⟩
    · rw [hq, hq']
      exact ⟨rfl, h⟩
    · rw [hq, hq']
      have hawaits : q.awaits d.tag = q'.awaits d.tag := (congrArg (fun q : Queue => q.awaits d.tag) hprune :)
      simp only [hawaits]
      split
      · refine ⟨rfl, h.setQueue ?_⟩
        have hsettled : ∀ q : Queue, (settled q d.tag verdict).prune (mayListen b.streams) =
            settled (q.prune (mayListen b.streams)) d.tag verdict := by
          intro q
          cases verdict <;> rfl
        exact (hsettled q).trans ((congrArg (fun q => settled q d.tag verdict) hprune).trans (hsettled q').symm)
      · exact ⟨rfl, h⟩

lemma stats (h : b.Alike b') (name : String) :
    (b.stats name).1 = (b'.stats name).1 ∧ (b.stats name).2.Alike (b'.stats name).2 := by
  unfold Broker.stats
  rcases h.queue?_cases name with ⟨hq, hq'⟩ | ⟨q, q', hq, hq', hprune⟩
  · rw [hq, hq']
    exact ⟨rfl, h⟩
  · rw [hq, hq', h.isListening_eq]
    simp only [Queue.prune_congr h.listening_le hprune, true_and]
    exact h.setQueue rfl

end Alike

/-- Two results with the same answer and brokers that are alike. -/
lemma exists_results {α : Type} {result result' : α × Broker}
    (h : result.1 = result'.1 ∧ result.2.Alike result'.2) :
    ∃ answer b b', result = (answer, b) ∧ result' = (answer, b') ∧ b.Alike b' :=
  ⟨result.1, result.2, result'.2, rfl, Prod.ext h.1.symm rfl, h.2⟩

/-- **To count is to forget some who are gone**, and nothing else. -/
lemma stats_alike (hb : b.Sound) (hnamed : b.Named) (name : String) : b.Alike (b.stats name).2 := by
  unfold stats
  cases hq : b.queue? name with
  | none => rfl
  | some q =>
    -- whoever of the consumers is forgotten has dropped the stream, for the others listen to a stream that there is
    have hprune : (q.prune b.isListening).prune (mayListen b.streams) = q.prune (mayListen b.streams) := by
      have hslots : q.slots.filter (fun slot => b.isListening slot.stream) =
          q.slots.filter fun slot => mayListen b.streams slot.stream := by
        apply List.filter_congr
        intro slot hslot
        obtain ⟨s, hs, -, -⟩ := hb.slot hq hslot
        rw [isListening, mayListen, hs]
        rfl
      have hsame : q.prune b.isListening = q.prune (mayListen b.streams) := by
        rw [Queue.prune, Queue.prune, hslots]
      rw [hsame, Queue.prune_prune fun _ => id]
    have hset : b.setQueue name q = b := setQueue_self hnamed hq
    have hforgot : (b.setQueue name q).Alike (b.setQueue name (q.prune b.isListening)) :=
      Alike.setQueue rfl hprune.symm
    rwa [hset] at hforgot

end Broker

/-! ## Commands -/

namespace Desk

variable {desk desk' : Desk} {i : Nat}

/-- Two desks whose brokers differ in nothing but consumers that have dropped their streams. -/
structure Alike (desk desk' : Desk) : Prop where
  broker : desk.broker.Alike desk'.broker
  deliveries : desk.deliveries = desk'.deliveries

/-- **A command does the same at two desks that are alike**, if it does not look into a stream that was dropped. -/
lemma Alike.step (h : desk.Alike desk') {c : Command}
    (hnext : ∀ i, c = .next i → mayListen desk.broker.streams i = true) :
    (desk.step c).1 = (desk'.step c).1 ∧ (desk.step c).2.Alike (desk'.step c).2 := by
  obtain ⟨b, deliveries⟩ := desk
  obtain ⟨b', deliveries'⟩ := desk'
  obtain ⟨hb, rfl⟩ : b.Alike b' ∧ deliveries = deliveries' := ⟨h.broker, h.deliveries⟩
  cases c with
  | connect =>
    obtain ⟨answer, c, c', heq, heq', hafter⟩ := Broker.exists_results hb.connect
    simp only [Desk.step, heq, heq']
    cases answer <;> exact ⟨rfl, hafter, rfl⟩
  | declare session queue =>
    obtain ⟨hanswer, hafter⟩ := hb.declare session queue
    exact ⟨congrArg Answer.ofUnit hanswer, hafter, rfl⟩
  | consume session queue mode =>
    obtain ⟨answer, c, c', heq, heq', hafter⟩ := Broker.exists_results (hb.consume session queue mode)
    simp only [Desk.step, heq, heq']
    cases answer <;> exact ⟨rfl, hafter, rfl⟩
  | publish session queue payload =>
    obtain ⟨hanswer, hafter⟩ := hb.publish session queue payload
    exact ⟨congrArg Answer.ofUnit hanswer, hafter, rfl⟩
  | close session => exact ⟨rfl, hb.close session, rfl⟩
  | next stream =>
    obtain ⟨answer, c, c', heq, heq', hafter⟩ := Broker.exists_results (hb.poll (hnext stream rfl))
    simp only [Desk.step, heq, heq']
    cases answer <;> exact ⟨rfl, hafter, rfl⟩
  | settle verdict n =>
    simp only [Desk.step]
    split
    · next d _ =>
      obtain ⟨hanswer, hafter⟩ := hb.settle verdict d
      exact ⟨congrArg Answer.ofUnit hanswer, hafter, rfl⟩
    · exact ⟨rfl, hb, rfl⟩
  | dropStream stream => exact ⟨rfl, hb.dropStream stream, rfl⟩
  | control c =>
    cases c with
    | inject queue payload => exact ⟨rfl, hb.route queue payload, rfl⟩
    | stats queue =>
      obtain ⟨hanswer, hafter⟩ := hb.stats queue
      exact ⟨congrArg (fun counts => Answer.control (.stats counts)) hanswer, hafter, rfl⟩
    | openSessions =>
      have hcount : b.openSessions = b'.openSessions := (congrArg Broker.openSessions hb :)
      exact ⟨congrArg (fun n => Answer.control (.count n)) hcount, hb, rfl⟩
    | refuseConnects n => exact ⟨rfl, (congrArg (fun b : Broker => b.refuseConnects n) hb :), rfl⟩
    | refuseChannel => exact ⟨rfl, (congrArg Broker.refuseChannel hb :), rfl⟩

/-- Whoever drops a stream has it no more; all others may listen to theirs as before. -/
lemma Effect.mayListen_eq {c : Command} (h : desk.Effect c desk') (hc : c ≠ .dropStream i) :
    mayListen desk'.broker.streams i = mayListen desk.broker.streams i := by
  cases h with
  | connect => rw [Broker.connect_streams]
  | consume session queue mode =>
    rcases Broker.consume_cases desk.broker session queue mode with ⟨e, heq⟩ | ⟨q, -, -, heq⟩ <;> rw [heq]
    rw [(Broker.fed_routeAll _ queue q.ready).mayListen_eq, Broker.enlist_streams, Broker.mayListen_append]
  | publish _ queue payload | inject queue payload =>
    exact congrFun (Broker.fed_route desk.broker queue payload).mayListen_eq i
  | close session => exact congrFun (Broker.fed_close desk.broker session).mayListen_eq i
  | @next stream => exact congrFun (Broker.mayListen_modify (f := Stream.behead) (fun _ => rfl) _ stream) i
  | dropStream stream =>
    have hne : stream ≠ i := fun heq => hc (by rw [heq])
    simp only [Broker.dropStream_eq, mayListen, Broker.modifyStream_streams]
    cases desk.broker.streams[i]? <;> simp [hne]
  | _ => rfl

lemma mayListen_step (desk : Desk) {c : Command} (hc : c ≠ .dropStream i) :
    mayListen (desk.step c).2.broker.streams i = mayListen desk.broker.streams i :=
  (step_effect desk c).mayListen_eq hc

/-! ## Runs -/

/-- A run, and in between somebody who counts what is in queues: a queue's name stands where it is counted. -/
abbrev Watched :=
  List (String ⊕ Command)

namespace Watched

/-- All that is done. -/
def commands (w : Watched) : List Command :=
  w.map (Sum.elim (fun queue => .control (.stats queue)) id)

/-- What is done without whoever counts. -/
def undisturbed (w : Watched) : List Command :=
  w.filterMap Sum.getRight?

/-- From the answers to all that is done, those that whoever counts does not get. -/
def others : Watched → List Answer → List Answer
  | .inl _ :: w, _ :: answers => others w answers
  | .inr _ :: w, answer :: answers => answer :: others w answers
  | _, _ => []

end Watched

/-- Two desks that are alike answer alike, and stay alike, when at one of them somebody counts in between. -/
lemma Alike.run {w : Watched} (h : desk.Alike desk') (hsound : desk'.Sound) (hnamed : desk'.broker.Named)
    (hdropped : ∀ i, .next i ∈ w.undisturbed → mayListen desk.broker.streams i = true)
    (hdrop : w.undisturbed.Pairwise fun c later => ∀ i, c = .dropStream i → later ≠ .next i) :
    w.others (desk'.run w.commands).1 = (desk.run w.undisturbed).1 ∧
      (desk.run w.undisturbed).2.Alike (desk'.run w.commands).2 := by
  induction w generalizing desk desk' with
  | nil => exact ⟨rfl, h⟩
  | cons entry w ih =>
    cases entry with
    | inl queue =>
      have hcounted : desk.Alike (desk'.step (.control (.stats queue))).2 :=
        ⟨h.broker.trans (Broker.stats_alike hsound.broker hnamed queue), h.deliveries⟩
      exact ih hcounted (hsound.step (.control (.stats queue))) (Broker.step_named _ (.control (.stats queue)) hnamed)
        hdropped hdrop
    | inr c =>
      obtain ⟨hfirst, hrest⟩ := List.pairwise_cons.1 hdrop
      obtain ⟨hanswer, hafter⟩ := h.step (c := c) fun i hi => hdropped i (hi ▸ List.mem_cons_self)
      have hlater : ∀ i, .next i ∈ Watched.undisturbed w →
          mayListen (desk.step c).2.broker.streams i = true := by
        intro i hi
        rw [mayListen_step desk fun hc => hfirst _ hi i hc rfl]
        exact hdropped i (List.mem_cons_of_mem c hi)
      obtain ⟨hanswers, hend⟩ := ih hafter (hsound.step c) (Broker.step_named _ c hnamed) hlater hrest
      exact ⟨congrArg₂ List.cons hanswer.symm hanswers, hend⟩

/-- **To count what is in queues disturbs nobody.**  Whoever counts may do so at any moment and ask for any name:
everybody else gets the answers that they would get otherwise, and in the end the same messages are in the same
streams and the same deliveries wait to be settled.

Whoever drops a stream has it no more, so there is no command to look into it after that. -/
theorem counting_disturbs_nobody (w : Watched)
    (hdrop : w.undisturbed.Pairwise fun c later => ∀ i, c = .dropStream i → later ≠ .next i) :
    let watched := ({} : Desk).run w.commands
    let alone := ({} : Desk).run w.undisturbed
    w.others watched.1 = alone.1 ∧
      watched.2.broker.streams = alone.2.broker.streams ∧ watched.2.deliveries = alone.2.deliveries := by
  have hstart : ({} : Desk).Alike {} := ⟨rfl, rfl⟩
  obtain ⟨hanswers, hend⟩ := hstart.run sound_empty List.nodup_nil (fun _ _ => rfl) hdrop
  exact ⟨hanswers, hend.broker.streams_eq.symm, hend.deliveries.symm⟩

/-- Three consumers take turns and one leaves.  Where nobody counts, the queue finds out only with the next message,
and it has to find the next in turn among the same two as after a count. -/
def visitedRun : Watched :=
  [.inr .connect, .inl "r", .inr (.declare 0 "q"), .inr (.consume 0 "q" .manual), .inr (.consume 0 "q" .manual),
    .inr (.consume 0 "q" .auto), .inr (.publish 0 "q" [1]), .inr (.next 0), .inr (.dropStream 0), .inl "q",
    .inr (.publish 0 "q" [2]), .inr (.publish 0 "q" [3]), .inl "q", .inr (.next 1), .inr (.next 2),
    .inr (.control (.stats "q"))]

theorem counting_disturbs_nobody_visitedRun :
    let watched := ({} : Desk).run visitedRun.commands
    let alone := ({} : Desk).run visitedRun.undisturbed
    watched.1.length = 16 ∧ .delivery 1 ⟨"q", 2, [3], true⟩ ∈ alone.1 ∧
      visitedRun.others watched.1 = alone.1 ∧
      watched.2.broker.streams = alone.2.broker.streams ∧ watched.2.deliveries = alone.2.deliveries :=
  ⟨by decide, by decide, counting_disturbs_nobody visitedRun
    (by simp [visitedRun, Watched.undisturbed, List.filterMap_cons])⟩

end Desk

end MessageRelay
