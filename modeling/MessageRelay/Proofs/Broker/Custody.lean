import MessageRelay.Proofs.Broker.Order
import MessageRelay.Proofs.Broker.Upkeep
import Mathlib.Logic.Relation

/-!
# What a client can rely on while others use the broker

A client of a broker shares it with clients that it does not know.  `Desk.Regular` collects what holds
of a broker and of the deliveries that were taken from it at every moment of every run, in whatever
modes its consumers settle.  Three things follow for a client that holds a stream or has left messages
behind, whatever the others do: its session stays open (`Works.isOpen_eq`), what is in its stream stays
there (`Works.holds`), and an unsettled message that is in no stream stays unsettled (`Works.leftBehind`).

`Works` is what is done with a broker by commands of a certain kind.
-/

namespace MessageRelay

namespace Broker

variable {b b' : Broker} {owner : Nat → Nat} {name other : String} {q q' : Queue} {payload : Bytes}
  {session tag : Nat}

/-! ## Tags that are in no stream -/

/-- A tag of a queue was given out, and no message in a stream has it. -/
structure Gone (name : String) (tag : Nat) (b : Broker) : Prop where
  given : ∃ q, b.queue? name = some q ∧ tag < q.nextTag
  absent : ∀ {i : Nat} {s : Stream} {e : Nat × Bytes}, b.streams[i]? = some s → s.queue = name →
    e ∈ s.buffer → e.1 ≠ tag

/-- Tags stay given out. -/
lemma Gone.of_later (hg : b.Gone name tag) (hl : b.Later b') (hs : b'.streams = b.streams) :
    b'.Gone name tag := by
  obtain ⟨q, hq, hlt⟩ := hg.given
  obtain ⟨q', hq', hlater⟩ := hl hq
  exact ⟨⟨q', hq', Nat.lt_of_lt_of_le hlt hlater.nextTag_le⟩, by rw [hs]; exact hg.absent⟩

lemma Gone.route (hg : b.Gone other tag) (hb : b.Sound) (name : String) (payload : Bytes) :
    (b.route name payload).Gone other tag := by
  cases h : b.queue? name with
  | none => rwa [route_of_none h]
  | some q =>
    rcases route_cases h payload with ⟨slot, hslot, -, heq⟩ | ⟨-, heq⟩
    · obtain ⟨q₁, hq₁, hlt⟩ := hg.given
      obtain ⟨q₂, hq₂, hlater⟩ := later_route b name payload hq₁
      refine ⟨⟨q₂, hq₂, Nat.lt_of_lt_of_le hlt hlater.nextTag_le⟩, ?_⟩
      intro i s' e hi hqueue he
      rw [heq] at hi
      obtain ⟨s, hs, hqs, -, he | ⟨-, hname, -, rfl⟩⟩ := hb.mem_buffer_handOver h hslot hi he
      · exact hg.absent hs (hqs ▸ hqueue) he
      · -- the tag that is given out now is later than all others
        have hsame : other = name := by rw [← hqueue, hqs, hname]
        rw [hsame, h, Option.some.injEq] at hq₁
        subst hq₁
        exact Nat.ne_of_gt hlt
    · rw [heq]
      exact hg.of_later (later_store h) rfl

lemma Gone.routeAll (hg : b.Gone other tag) (hb : b.Sound) (name : String) (payloads : List Bytes) :
    (b.routeAll name payloads).Gone other tag :=
  (routeAll_induction (P := fun b => b.Sound ∧ b.Gone other tag) payloads
    (fun _ payload h => ⟨h.1.route name payload, h.2.route h.1 name payload⟩) ⟨hb, hg⟩).2

lemma Gone.enlist (hg : b.Gone other tag) (h : b.queue? name = some q) (session : Nat)
    (mode : AckMode) : (b.enlist session name mode q).Gone other tag := by
  obtain ⟨q₁, hq₁, hlt⟩ := hg.given
  obtain ⟨q₂, hq₂, hlater⟩ := later_enlist h session mode hq₁
  refine ⟨⟨q₂, hq₂, Nat.lt_of_lt_of_le hlt hlater.nextTag_le⟩, ?_⟩
  intro i s e hi hqueue he
  rw [enlist_streams] at hi
  rcases getElem?_append_cases hi with hi | ⟨-, rfl⟩
  · exact hg.absent hi hqueue he
  · cases he

lemma Gone.consume (hg : b.Gone other tag) (hb : b.Sound) (session : Nat) (name : String)
    (mode : AckMode) : (b.consume session name mode).2.Gone other tag := by
  rcases consume_cases b session name mode with ⟨e, heq⟩ | ⟨q, -, hq, heq⟩
  · rwa [heq]
  · rw [heq]
    exact (hg.enlist hq session mode).routeAll (hb.enlist hq session mode) name q.ready

lemma Gone.close (hg : b.Gone other tag) (hb : b.Sound) (session : Nat) :
    (b.close session).Gone other tag := by
  cases hopen : b.isOpen session with
  | false => rwa [close_of_not_open hopen]
  | true =>
    rw [close_of_open hopen]
    refine (releaseQueues_induction (b := b.hangUp session)
      (P := fun b => b.Sound ∧ b.Gone other tag) session _ ?_ ?_
      ⟨hb.congr rfl rfl, hg.given, hg.absent⟩).2
    · rintro b name q hq ⟨hb, hg⟩
      exact ⟨hb.dismiss hq session, hg.of_later (later_dismiss hq session) rfl⟩
    · rintro b name payload ⟨hb, hg⟩
      exact ⟨hb.route name payload, hg.route hb name payload⟩

/-- A stream may lose messages. -/
lemma Gone.modifyStream (hg : b.Gone other tag) (i : Nat) {f : Stream → Stream}
    (hqueue : ∀ s, (f s).queue = s.queue) (hbuffer : ∀ s, (f s).buffer ⊆ s.buffer) :
    (b.modifyStream i f).Gone other tag := by
  refine ⟨hg.given, ?_⟩
  intro j s' e hj hname he
  rw [modifyStream_streams] at hj
  obtain ⟨s, hs, rfl⟩ := Option.map_eq_some_iff.1 hj
  rw [apply_ite Stream.queue, hqueue, ite_self] at hname
  refine hg.absent hs hname ?_
  split at he
  · exact hbuffer s he
  · exact he

/-! ## Who gets what has been waiting -/

/-- Messages that are routed while only one consumer of their queue listens go to this consumer. -/
lemma routeAll_sole {i : Nat} {s : Stream} (payloads : List Bytes) (hq : b.queue? name = some q)
    (hsole : ∀ slot ∈ q.slots, b.isListening slot.stream = true → slot.stream = i)
    (hmem : ∃ slot ∈ q.slots, b.isListening slot.stream = true) (hs : b.streams[i]? = some s) :
    ∃ front : List (Nat × Bytes), front.map (·.2) = payloads ∧
      (b.routeAll name payloads).streams[i]? = some { s with buffer := s.buffer ++ front } := by
  induction payloads generalizing b q s with
  | nil => exact ⟨[], rfl, by simpa using hs⟩
  | cons payload rest ih =>
    rcases route_cases hq payload with ⟨slot, hslot, hlisten, heq⟩ | ⟨hnone, heq⟩
    · have hi := hsole slot hslot hlisten
      have hq' : (b.route name payload).queue? name = some (q.handed b.isListening slot payload) := by
        rw [heq, handOver_queue? hq, if_pos rfl]
      have hsame : (b.route name payload).isListening = b.isListening := by
        rw [heq, handOver, isListening_carryAll]
        rfl
      have hs' : (b.route name payload).streams[i]? =
          some { s with buffer := s.buffer ++ [(q.nextTag, payload)] } := by
        rw [heq, handOver_streams, getElem?_carry, hs]
        simp [hi]
      obtain ⟨front, hfront, hrest⟩ := ih hq'
        (by rw [hsame]; exact fun t ht => hsole t (List.filter_subset_self _ ht))
        (by rw [hsame]; exact ⟨slot, List.mem_filter.2 ⟨hslot, hlisten⟩, hlisten⟩) hs'
      refine ⟨(q.nextTag, payload) :: front, by rw [List.map_cons, hfront], ?_⟩
      rw [routeAll_cons, hrest]
      simp
    · obtain ⟨slot, hslot, hlisten⟩ := hmem
      rw [hnone slot hslot] at hlisten
      cases hlisten

/-- What has been waiting in a queue goes to the consumer that subscribes, for nobody else listens. -/
lemma consume_front (hb : b.Sound) (hi : b.Idle) {stream : Nat} {mode : AckMode}
    (h : b.consume session name mode = (.ok stream, b')) :
    b.isOpen session = true ∧ stream = b.streams.length ∧
      ∃ front : List (Nat × Bytes), front.map (·.2) = b.readyOf name ∧
        b'.streams[stream]? = some { queue := name, mode, buffer := front } := by
  rcases consume_cases b session name mode with ⟨e, herr⟩ | ⟨q, hopen, hq, hok⟩
  · rw [herr] at h
    cases h
  · rw [hok] at h
    cases h
    refine ⟨hopen, rfl, ?_⟩
    have hnew : (b.enlist session name mode q).streams[b.streams.length]? =
        some { queue := name, mode } := by
      rw [enlist_streams]
      exact List.getElem?_concat_length
    rw [readyOf_of_some hq]
    cases hr : q.ready with
    | nil => exact ⟨[], rfl, hnew⟩
    | cons first rest =>
      -- something has been waiting, so no consumer that was there before listens
      have hself : (b.enlist session name mode q).queue? name =
          some { q with slots := q.slots ++ [⟨session, mode, b.streams.length⟩], ready := [] } := by
        rw [enlist_queue? hq, if_pos rfl]
      have hlisten : (b.enlist session name mode q).isListening b.streams.length = true := by
        rw [isListening, hnew]
        rfl
      obtain ⟨front, hfront, hs⟩ := routeAll_sole (first :: rest) hself (i := b.streams.length)
        (by
          intro slot hslot hl
          rw [List.mem_append, List.mem_singleton] at hslot
          rcases hslot with hslot | rfl
          · obtain ⟨s, hs, -⟩ := hb.slot hq hslot
            have hlt : slot.stream < b.streams.length := (List.getElem?_eq_some_iff.1 hs).1
            have hsame : (b.enlist session name mode q).isListening slot.stream =
                b.isListening slot.stream := isListening_append b _ hlt
            rw [hsame, hi hq (by rw [hr]; exact List.cons_ne_nil _ _) slot hslot] at hl
            cases hl
          · rfl)
        ⟨_, List.mem_append_right _ (List.mem_singleton.2 rfl), hlisten⟩ hnew
      exact ⟨front, hfront, hs⟩

/-! ## Sessions that are counted -/

@[simp] lemma route_openSessions (b : Broker) (name : String) (payload : Bytes) :
    (b.route name payload).openSessions = b.openSessions := by
  unfold route
  split <;> rfl

lemma consume_sessions_eq (b : Broker) (session : Nat) (name : String) (mode : AckMode) :
    (b.consume session name mode).2.sessions = b.sessions ∧
      (b.consume session name mode).2.openSessions = b.openSessions := by
  rcases consume_cases b session name mode with ⟨e, heq⟩ | ⟨q, -, -, heq⟩
  · rw [heq]; exact ⟨rfl, rfl⟩
  · rw [heq]
    exact routeAll_induction (b := b.enlist session name mode q)
      (P := fun b' => b'.sessions = b.sessions ∧ b'.openSessions = b.openSessions) q.ready
      (fun b' payload h => ⟨by rw [route_sessions, h.1], by rw [route_openSessions, h.2]⟩) ⟨rfl, rfl⟩

/-- The broker knows how many sessions are open. -/
def Counted (b : Broker) : Prop :=
  b.openSessions = b.sessions.count true

/-- The number of sessions that are open besides one. -/
def openOthers (b : Broker) (session : Nat) : Nat :=
  (b.sessions.set session false).count true

lemma isOpen_eq_getElem (h : session < b.sessions.length) : b.isOpen session = b.sessions[session] := by
  simp [isOpen, List.getElem?_eq_getElem h]

lemma count_set_false (b : Broker) (h : session < b.sessions.length) :
    b.sessions.count true = b.openOthers session + if b.isOpen session then 1 else 0 := by
  rw [openOthers, List.count_set h, isOpen_eq_getElem h]
  cases hv : b.sessions[session] with
  | false => simp
  | true =>
    have hpos : 0 < b.sessions.count true :=
      List.count_pos_iff.2 (hv ▸ List.getElem_mem h)
    simp only [BEq.rfl, if_true, Bool.false_beq, Bool.not_true, Bool.false_eq_true, if_false]
    omega

lemma Counted.connect (hc : b.Counted) : b.connect.2.Counted := by
  rw [Counted] at hc
  unfold Broker.connect Counted
  split
  · exact hc
  · split
    · exact hc
    · simp [hc]

lemma close_sessions (b : Broker) (session : Nat) :
    (b.close session).sessions = b.sessions.set session false := by
  cases ho : b.isOpen session with
  | true =>
    rw [close_of_open ho, (releaseQueues_fields _ session _).1]
    rfl
  | false =>
    rw [close_of_not_open ho]
    apply List.ext_getElem?
    intro i
    rw [List.getElem?_set]
    split
    · next heq =>
      subst heq
      split
      · next hlt =>
        rw [isOpen_eq_getElem hlt] at ho
        rw [List.getElem?_eq_getElem hlt, ho]
      · next hge => exact List.getElem?_eq_none (Nat.le_of_not_lt hge)
    · rfl

lemma isOpen_close_self (b : Broker) (session : Nat) : (b.close session).isOpen session = false := by
  rw [← Bool.not_eq_true, isOpen_close]
  exact fun h => h.1 rfl

lemma Counted.close (hc : b.Counted) (session : Nat) : (b.close session).Counted := by
  cases ho : b.isOpen session with
  | false => rwa [close_of_not_open ho]
  | true =>
    rw [Counted] at hc ⊢
    have hcount := count_set_false b (lt_of_isOpen ho)
    rw [if_pos ho] at hcount
    rw [close_sessions, close_of_open ho, (releaseQueues_fields _ session _).2]
    have hsub : (b.hangUp session).openSessions = b.openSessions - 1 := rfl
    rw [hsub, hc, hcount, openOthers]
    omega

/-- After the end of a session, the number of open sessions is that of the others. -/
lemma Counted.openSessions_eq (hc : b.Counted) (h : session < b.sessions.length) :
    b.openSessions = b.openOthers session + if b.isOpen session then 1 else 0 := by
  rw [hc, count_set_false b h]

end Broker

namespace Desk

open Broker (Gone)

variable {desk desk' : Desk} {owner : Nat → Nat} {name : String} {u : Unsettled} {session : Nat}

/-! ## What holds at every moment -/

/-- All that holds of a broker and of the deliveries that were taken from it, when `owner` says which
session a stream belongs to. -/
structure Regular (owner : Nat → Nat) (desk : Desk) : Prop where
  sound : desk.Sound
  idle : desk.broker.Idle
  owned : desk.broker.Owned owner
  attended : desk.broker.Attended
  counted : desk.broker.Counted
  /-- What was taken from a stream is in no stream any more. -/
  taken : ∀ {n : Nat} {d : Delivery}, desk.deliveries[n]? = some (some d) →
    desk.broker.Gone d.queue d.tag

/-- Which session the streams belong to that there are is as before. -/
def SameOwners (desk : Desk) (owner owner' : Nat → Nat) : Prop :=
  ∀ i < desk.broker.streams.length, owner' i = owner i

lemma regular_empty (owner : Nat → Nat) : ({} : Desk).Regular owner where
  sound := sound_empty
  idle := Broker.idle_empty
  owned :=
    { slot := fun h _ => by simp [Broker.queue?] at h
      owner_lt := fun h => by simp at h
      unsettled := fun h _ _ _ _ => by simp at h
      ordered := fun h => by simp at h
      apart := fun h _ _ _ _ _ => by simp at h }
  attended := fun _ _ h => by simp [Broker.queue?] at h
  counted := rfl
  taken h := by simp at h

lemma Regular.connect (h : desk.Regular owner) : (desk.step .connect).2.Regular owner := by
  have hsound := h.sound.step .connect
  have hidle := idle_step h.sound h.idle .connect
  rw [step_connect] at hsound hidle ⊢
  exact
    { sound := hsound
      idle := hidle
      owned := h.owned.connect
      attended := h.attended.connect
      counted := h.counted.connect
      taken := fun hd => (h.taken hd).of_later
        (.of_queue?_eq (Broker.connect_queue? _)) (Broker.connect_streams _) }

/-- A new stream belongs to the session that subscribes. -/
lemma Regular.consume (h : desk.Regular owner) (session : Nat) (queue : String) (mode : AckMode) :
    (desk.step (.consume session queue mode)).2.Regular
      (Function.update owner desk.broker.streams.length session) := by
  have hsound := h.sound.step (.consume session queue mode)
  have hidle := idle_step h.sound h.idle (.consume session queue mode)
  rw [step_consume] at hsound hidle ⊢
  obtain ⟨hsessions, hopen⟩ := Broker.consume_sessions_eq desk.broker session queue mode
  refine ⟨hsound, hidle, ?_, ?_, ?_, ?_⟩
  · rcases Broker.consume_cases desk.broker session queue mode with ⟨e, heq⟩ | ⟨q, ho, hq, heq⟩
    · rw [heq]
      -- nobody has a stream with the number that was not given out
      have hold : ∀ {i s}, desk.broker.streams[i]? = some s →
          Function.update owner desk.broker.streams.length session i = owner i := by
        intro i s hi
        exact Function.update_of_ne (Nat.ne_of_lt (List.getElem?_eq_some_iff.1 hi).1) _ _
      exact
        { slot := fun hq hslot => by
            obtain ⟨s, hs, -⟩ := h.sound.broker.slot hq hslot
            rw [hold hs, h.owned.slot hq hslot]
          owner_lt := fun hi => by rw [hold hi]; exact h.owned.owner_lt hi
          unsettled := fun hi hm ho he hq => by
            rw [hold hi] at ho ⊢
            exact h.owned.unsettled hi hm ho he hq
          ordered := h.owned.ordered
          apart := h.owned.apart }
    · rw [heq]
      exact (Broker.routeAll_induction
        (P := fun b => b.Sound ∧ b.Owned (Function.update owner desk.broker.streams.length session))
        q.ready (fun _ payload h => ⟨h.1.route queue payload, h.2.route h.1 queue payload⟩)
        ⟨h.sound.broker.enlist hq session mode,
          h.owned.enlist h.sound.broker hq ho mode⟩).2
  · rcases Broker.consume_cases desk.broker session queue mode with ⟨e, heq⟩ | ⟨q, ho, hq, heq⟩
    · rw [heq]; exact h.attended
    · rw [heq]
      exact Broker.routeAll_induction q.ready (fun _ payload h => h.route queue payload)
        (h.attended.enlist hq ho mode)
  · rw [Broker.Counted, hsessions, hopen]
    exact h.counted
  · intro n d hd
    exact (h.taken hd).consume h.sound.broker session queue mode

/-- Messages that are routed, by whomever. -/
lemma Regular.route (h : desk.Regular owner) (queue : String) (payload : Bytes) :
    ({ desk with broker := desk.broker.route queue payload } : Desk).Regular owner where
  sound := h.sound.step (.control (.inject queue payload))
  idle := h.idle.route queue payload
  owned := h.owned.route h.sound.broker queue payload
  attended := h.attended.route queue payload
  counted := by
    rw [Broker.Counted, Broker.route_openSessions, Broker.route_sessions]
    exact h.counted
  taken hd := (h.taken hd).route h.sound.broker queue payload

lemma Regular.close (h : desk.Regular owner) (session : Nat) :
    (desk.step (.close session)).2.Regular owner where
  sound := h.sound.step (.close session)
  idle := h.idle.close session
  owned := h.owned.close h.sound.broker session
  attended := h.attended.close session
  counted := h.counted.close session
  taken hd := (h.taken hd).close h.sound.broker session

/-- The message that is taken from a stream is in no stream any more. -/
lemma gone_behead (h : desk.Regular owner) {i tag : Nat} {s : Stream} {payload : Bytes}
    {rest : List (Nat × Bytes)} (hs : desk.broker.streams[i]? = some s)
    (hbuf : s.buffer = (tag, payload) :: rest) :
    (desk.broker.modifyStream i Stream.behead).Gone s.queue tag := by
  have hhead : (tag, payload) ∈ s.buffer := by rw [hbuf]; exact List.mem_cons_self
  obtain ⟨q, hq, hissued⟩ := h.sound.broker.issued hs hhead
  exact ⟨⟨q, hq, hissued.lt⟩, fun ht hst he => h.owned.tag_ne_head hs hbuf ht hst he⟩

lemma Regular.next (h : desk.Regular owner) {stream tag : Nat} {s : Stream} {payload : Bytes}
    {rest : List (Nat × Bytes)} (hs : desk.broker.streams[stream]? = some s)
    (hbuf : s.buffer = (tag, payload) :: rest) :
    ({ broker := desk.broker.modifyStream stream Stream.behead
       deliveries := desk.deliveries ++ [some ⟨s.queue, tag, payload, s.mode = .manual⟩] } :
      Desk).Regular owner where
  sound := h.sound.take hs hbuf
  idle := h.idle.modifyStream stream (f := Stream.behead) fun _ h => h
  owned := h.owned.behead stream
  attended := h.attended
  counted := h.counted
  taken {n d} hd := by
    rcases Nat.lt_or_ge n desk.deliveries.length with hlt | hge
    · rw [List.getElem?_append_left hlt] at hd
      exact (h.taken hd).modifyStream stream (fun _ => rfl)
        fun s => (List.tail_sublist s.buffer).subset
    · rw [List.getElem?_append_right hge, List.getElem?_singleton] at hd
      split at hd
      · cases hd
        exact gone_behead h hs hbuf
      · cases hd

lemma Regular.dropStream (h : desk.Regular owner) (stream : Nat) :
    (desk.step (.dropStream stream)).2.Regular owner where
  sound := h.sound.step (.dropStream stream)
  idle := idle_step h.sound h.idle (.dropStream stream)
  owned := h.owned.dropStream stream
  attended := h.attended
  counted := h.counted
  taken hd := (h.taken hd).modifyStream stream (fun _ => rfl) fun _ => List.nil_subset _

lemma mem_of_getElem?_set_none {n k : Nat} {d : Delivery}
    (hd : (desk.deliveries.set n none)[k]? = some (some d)) :
    desk.deliveries[k]? = some (some d) := by
  rw [List.getElem?_set] at hd
  split at hd
  · split at hd <;> cases hd
  · exact hd

/-- **Every command leaves everything in order**, and streams do not change hands. -/
lemma Effect.regular {c : Command} (he : desk.Effect c desk') (h : desk.Regular owner) :
    ∃ owner', desk'.Regular owner' ∧ desk.SameOwners owner owner' := by
  have hsound := he.sound h.sound
  have hidle := he.idle h.sound h.idle
  have hsame : desk.SameOwners owner owner := fun _ _ => rfl
  cases he with
  | nothing => exact ⟨owner, h, hsame⟩
  | connect =>
    have hconnect := h.connect
    rw [step_connect] at hconnect
    exact ⟨owner, hconnect, hsame⟩
  | declare _ hnone =>
    exact ⟨owner, ⟨hsound, hidle, h.owned.declared hnone h.sound.broker, h.attended.declared hnone,
      h.counted, fun hd => (h.taken hd).of_later (Broker.later_declared hnone) rfl⟩, hsame⟩
  | consume session queue mode =>
    have hconsume := h.consume session queue mode
    rw [step_consume] at hconsume
    exact ⟨_, hconsume, fun i hi => Function.update_of_ne (Nat.ne_of_lt hi) _ _⟩
  | publish _ queue payload | inject queue payload => exact ⟨owner, h.route queue payload, hsame⟩
  | close session => exact ⟨owner, h.close session, hsame⟩
  | next hs hbuf => exact ⟨owner, h.next hs hbuf, hsame⟩
  | forget =>
    exact ⟨owner, ⟨hsound, hidle, h.owned, h.attended, h.counted,
      fun hd => h.taken (mem_of_getElem?_set_none hd)⟩, hsame⟩
  | settle verdict hn _ hq _ =>
    refine ⟨owner, ⟨hsound, hidle, h.owned.setQueue_settled hq verdict (h.taken hn).absent, ?_, h.counted,
      fun hd => ?_⟩, hsame⟩
    · exact h.attended.setQueue hq (by simp)
        (by rw [Broker.settled_unacked]; exact List.filter_subset_self _)
    · exact (h.taken (mem_of_getElem?_set_none hd)).of_later
        (Broker.later_setQueue hq (Broker.later_settled _ verdict)) rfl
  | dropStream stream => exact ⟨owner, h.dropStream stream, hsame⟩
  | stats hq =>
    exact ⟨owner, ⟨hsound, hidle, h.owned.setQueue hq (List.filter_subset_self _) fun _ _ _ _ hu => hu,
      h.attended.setQueue hq (List.filter_subset_self _) (List.Subset.refl _), h.counted,
      fun hd => (h.taken hd).of_later
        (Broker.later_setQueue hq (Queue.later_of_sublist (List.Sublist.refl _) rfl)) rfl⟩, hsame⟩
  | refuseConnects | refuseChannel =>
    exact ⟨owner, ⟨hsound, hidle,
      ⟨h.owned.slot, h.owned.owner_lt, h.owned.unsettled, h.owned.ordered, h.owned.apart⟩,
      h.attended, h.counted, fun hd => ⟨(h.taken hd).given, (h.taken hd).absent⟩⟩, hsame⟩

lemma Regular.step (h : desk.Regular owner) (c : Command) :
    ∃ owner', (desk.step c).2.Regular owner' ∧ desk.SameOwners owner owner' :=
  (step_effect desk c).regular h

/-- Everything is in order at every moment of every run. -/
lemma regular_run (cs : List Command) : ∃ owner, (({} : Desk).run cs).2.Regular owner := by
  have hrun : ∀ {desk : Desk} {owner : Nat → Nat}, desk.Regular owner →
      ∃ owner', (desk.run cs).2.Regular owner' := by
    induction cs with
    | nil => exact fun h => ⟨_, h⟩
    | cons c rest ih =>
      intro desk owner h
      obtain ⟨owner', h', -⟩ := h.step c
      exact ih h'
  exact hrun (regular_empty fun _ => 0)

/-! ## What is not settled and in no stream -/

/-- A message is not settled, in no stream, and nobody has taken it. -/
structure LeftBehind (name : String) (u : Unsettled) (desk : Desk) : Prop where
  left : desk.broker.Left name u
  untaken : ∀ {n : Nat} {d : Delivery}, desk.deliveries[n]? = some (some d) → d.queue = name →
    d.tag ≠ u.tag

/-- What was left behind stays there as long as its session does not end. -/
lemma Effect.leftBehind {c : Command} (he : desk.Effect c desk') (hl : desk.LeftBehind name u)
    (h : desk.Regular owner) (hc : c ≠ .close u.session) : desk'.LeftBehind name u := by
  obtain ⟨hleft, huntaken⟩ := hl
  have hb := h.sound.broker
  cases he with
  | nothing => exact ⟨hleft, huntaken⟩
  | connect => exact ⟨hleft.congr (Broker.connect_queue? _) (Broker.connect_streams _), huntaken⟩
  | declare _ hnone => exact ⟨hleft.declared hnone, huntaken⟩
  | consume session queue mode =>
    refine ⟨?_, huntaken⟩
    rcases Broker.consume_cases desk.broker session queue mode with ⟨e, heq⟩ | ⟨q, -, hq, heq⟩
    · rwa [heq]
    · rw [heq]
      exact (hleft.enlist hq session mode).routeAll (hb.enlist hq session mode) queue q.ready
  | publish _ queue payload | inject queue payload => exact ⟨hleft.route hb queue payload, huntaken⟩
  | close session =>
    refine ⟨hleft.close hb ?_, huntaken⟩
    rintro rfl
    exact hc rfl
  | @next stream tag payload rest s hs hbuf =>
    refine ⟨hleft.modifyStream stream (fun _ => rfl) fun s => (List.tail_sublist s.buffer).subset, ?_⟩
    intro n d hd hname
    rcases Nat.lt_or_ge n desk.deliveries.length with hlt | hge
    · rw [List.getElem?_append_left hlt] at hd
      exact huntaken hd hname
    · rw [List.getElem?_append_right hge, List.getElem?_singleton] at hd
      split at hd
      · cases hd
        exact hleft.absent hs hname (e := (tag, payload)) (by rw [hbuf]; exact List.mem_cons_self)
      · cases hd
  | forget => exact ⟨hleft, fun hd => huntaken (mem_of_getElem?_set_none hd)⟩
  | settle verdict hn _ hq _ =>
    refine ⟨hleft.setQueue hq ?_, fun hd => huntaken (mem_of_getElem?_set_none hd)⟩
    -- the verdict is about a message that somebody has taken
    intro hname hu
    rw [Broker.settled_unacked, List.mem_filter]
    exact ⟨hu, by simpa using Ne.symm (huntaken hn hname.symm)⟩
  | dropStream stream =>
    exact ⟨hleft.modifyStream stream (fun _ => rfl) fun _ => List.nil_subset _, huntaken⟩
  | stats hq => exact ⟨hleft.setQueue hq fun _ hu => hu, huntaken⟩
  | refuseConnects | refuseChannel => exact ⟨hleft.congr rfl rfl, huntaken⟩

lemma LeftBehind.step (hl : desk.LeftBehind name u) (h : desk.Regular owner) {c : Command}
    (hc : c ≠ .close u.session) : (desk.step c).2.LeftBehind name u :=
  (step_effect desk c).leftBehind hl h hc

/-- What is in a stream of an open session is left behind when the stream is dropped. -/
lemma leftBehind_dropStream (h : desk.Regular owner) {i : Nat} {s : Stream} {e : Nat × Bytes}
    (hs : desk.broker.streams[i]? = some s) (hm : s.mode = .manual)
    (ho : desk.broker.isOpen (owner i) = true) (he : e ∈ s.buffer) :
    (desk.step (.dropStream i)).2.LeftBehind s.queue ⟨e.1, owner i, e.2⟩ := by
  obtain ⟨q, hq, -⟩ := h.sound.broker.issued hs he
  refine ⟨⟨⟨q, hq, h.owned.unsettled hs hm ho he hq⟩, ?_⟩, ?_⟩
  · intro j s' e' hj hqueue he'
    have hj' : (desk.broker.dropStream i).streams[j]? = some s' := hj
    rw [Broker.dropStream_eq, Broker.modifyStream_streams] at hj'
    obtain ⟨t, ht, rfl⟩ := Option.map_eq_some_iff.1 hj'
    by_cases hij : i = j
    · rw [if_pos hij] at he'
      cases he'
    · rw [if_neg hij] at he' hqueue
      exact Ne.symm (h.owned.apart hs ht hij hqueue.symm he he')
  · intro n d hd hqueue
    exact Ne.symm ((h.taken hd).absent hs hqueue.symm he)

/-! ## Streams and sessions, command by command -/

/-- The streams that there were have lost nothing, and only those that somebody listens to have got
something; there may be new ones. -/
structure Fuller (b b' : Broker) : Prop where
  grows : Grows b.streams b'.streams
  fed : ∃ b₀ : Broker, (∃ new, b₀.streams = b.streams ++ new) ∧ b₀.Fed b'

lemma fuller_of_eq {b b' : Broker} (h : b'.streams = b.streams) : Fuller b b' where
  grows := by rw [h]; exact Grows.refl _
  fed := ⟨b, ⟨[], (List.append_nil _).symm⟩, .of_streams_eq h⟩

lemma fuller_of_fed {b b' : Broker} (hg : Grows b.streams b'.streams) (hf : b.Fed b') : Fuller b b' :=
  ⟨hg, b, ⟨[], (List.append_nil _).symm⟩, hf⟩

/-- **What a command does to the streams**: one loses its oldest message, one is dropped, or nothing is
lost. -/
lemma Effect.streams {c : Command} (h : desk.Effect c desk') :
    Fuller desk.broker desk'.broker ∨
      (∃ i, c = .next i ∧ desk'.broker.streams = desk.broker.streams.modify i Stream.behead) ∨
      (∃ i, c = .dropStream i ∧ desk'.broker.streams = desk.broker.streams.modify i Stream.abandon) := by
  cases h with
  | nothing | forget | declare | settle | stats | refuseConnects | refuseChannel =>
    exact Or.inl (fuller_of_eq rfl)
  | connect => exact Or.inl (fuller_of_eq (Broker.connect_streams _))
  | consume session queue mode =>
    refine Or.inl ⟨Broker.grows_consume _ session queue mode, ?_⟩
    rcases Broker.consume_cases desk.broker session queue mode with ⟨e, heq⟩ | ⟨q, -, -, heq⟩
    · rw [heq]
      exact ⟨desk.broker, ⟨[], (List.append_nil _).symm⟩, .of_streams_eq rfl⟩
    · rw [heq]
      exact ⟨_, ⟨_, Broker.enlist_streams session mode⟩, Broker.fed_routeAll _ queue q.ready⟩
  | publish _ queue payload | inject queue payload =>
    exact Or.inl (fuller_of_fed (Broker.grows_route _ queue payload) (Broker.fed_route _ queue payload))
  | close session =>
    exact Or.inl (fuller_of_fed (Broker.grows_close _ session) (Broker.fed_close _ session))
  | @next stream => exact Or.inr (Or.inl ⟨stream, rfl, rfl⟩)
  | dropStream stream => exact Or.inr (Or.inr ⟨stream, rfl, rfl⟩)

lemma step_streams (desk : Desk) (c : Command) :
    Fuller desk.broker (desk.step c).2.broker ∨
      (∃ i, c = .next i ∧ (desk.step c).2.broker.streams =
        desk.broker.streams.modify i Stream.behead) ∨
      (∃ i, c = .dropStream i ∧ (desk.step c).2.broker.streams =
        desk.broker.streams.modify i Stream.abandon) :=
  (step_effect desk c).streams

/-- **What a command does to the sessions**: there is a new one, one ends, or they are as they were. -/
lemma Effect.sessions {c : Command} (h : desk.Effect c desk') :
    desk'.broker.sessions = desk.broker.sessions ∨
      (c = .connect ∧ desk'.broker.sessions = desk.broker.sessions ++ [true]) ∨
      (∃ s, c = .close s ∧ desk'.broker.sessions = desk.broker.sessions.set s false) := by
  cases h with
  | connect =>
    rcases Broker.connect_cases desk.broker with ⟨-, hs⟩ | ⟨-, hs⟩
    · exact Or.inl hs
    · exact Or.inr (Or.inl ⟨rfl, hs⟩)
  | consume session queue mode => exact Or.inl (Broker.consume_sessions_eq _ session queue mode).1
  | publish _ queue payload | inject queue payload => exact Or.inl (Broker.route_sessions _ queue payload)
  | close session => exact Or.inr (Or.inr ⟨session, rfl, Broker.close_sessions _ session⟩)
  | _ => exact Or.inl rfl

lemma step_sessions (desk : Desk) (c : Command) :
    (desk.step c).2.broker.sessions = desk.broker.sessions ∨
      (c = .connect ∧ (desk.step c).2.broker.sessions = desk.broker.sessions ++ [true]) ∨
      (∃ s, c = .close s ∧ (desk.step c).2.broker.sessions = desk.broker.sessions.set s false) :=
  (step_effect desk c).sessions

/-! ## What others cannot touch -/

/-- A stream from the given queue has at least the given messages in it, in front of all others. -/
def Holds (i : Nat) (name : String) (mode : AckMode) (front : List (Nat × Bytes)) (desk : Desk) :
    Prop :=
  ∃ s, desk.broker.streams[i]? = some s ∧ s.queue = name ∧ s.mode = mode ∧ front <+: s.buffer

variable {i : Nat} {mode : AckMode} {front : List (Nat × Bytes)}

/-- What is in a stream stays there as long as nobody takes from the stream or drops it. -/
lemma Holds.step (hh : desk.Holds i name mode front) {c : Command} (hn : c ≠ .next i)
    (hd : c ≠ .dropStream i) : (desk.step c).2.Holds i name mode front := by
  obtain ⟨s, hs, hname, hmode, hfront⟩ := hh
  -- a change of another stream is of no concern
  have hother : ∀ {j : Nat} {f : Stream → Stream}, j ≠ i →
      (desk.step c).2.broker.streams = desk.broker.streams.modify j f →
      (desk.step c).2.Holds i name mode front := by
    intro j f hne heq
    refine ⟨s, ?_, hname, hmode, hfront⟩
    rw [heq, List.getElem?_modify, hs]
    simp [hne]
  rcases step_streams desk c with hfull | ⟨j, rfl, heq⟩ | ⟨j, rfl, heq⟩
  · obtain ⟨s', more, hs', hq', hm', hb'⟩ := hfull.grows hs
    refine ⟨s', hs', hq'.trans hname, hm'.trans hmode, ?_⟩
    rw [hb']
    exact hfront.trans (List.prefix_append _ _)
  · exact hother (by rintro rfl; exact hn rfl) heq
  · exact hother (by rintro rfl; exact hd rfl) heq

/-- Nobody listens to a stream, and nothing is in it. -/
def Deserted (i : Nat) (desk : Desk) : Prop :=
  ∃ s, desk.broker.streams[i]? = some s ∧ s.listening = false ∧ s.buffer = []

lemma deserted_dropStream (desk : Desk) (h : i < desk.broker.streams.length) :
    (desk.step (.dropStream i)).2.Deserted i := by
  refine ⟨(desk.broker.streams[i]).abandon, ?_, rfl, rfl⟩
  have hs : desk.broker.streams[i]? = some desk.broker.streams[i] := List.getElem?_eq_getElem h
  change (desk.broker.modifyStream i Stream.abandon).streams[i]? = _
  rw [Broker.modifyStream_streams, hs]
  simp

/-- A stream that was left stays deserted. -/
lemma Deserted.step (hd : desk.Deserted i) (c : Command) : (desk.step c).2.Deserted i := by
  obtain ⟨s, hs, hl, hb⟩ := hd
  -- to take from such a stream or to drop it changes nothing
  have hsame : ∀ {j : Nat} {f : Stream → Stream}, (f s).listening = false → (f s).buffer = [] →
      (desk.step c).2.broker.streams = desk.broker.streams.modify j f →
      (desk.step c).2.Deserted i := by
    intro j f hlf hbf heq
    by_cases hij : j = i
    · exact ⟨f s, by rw [heq, List.getElem?_modify, hs]; simp [hij], hlf, hbf⟩
    · exact ⟨s, by rw [heq, List.getElem?_modify, hs]; simp [hij], hl, hb⟩
  rcases step_streams desk c with ⟨-, b₀, ⟨new, hnew⟩, hfed⟩ | ⟨j, -, heq⟩ | ⟨j, -, heq⟩
  · have hlt : i < desk.broker.streams.length := (List.getElem?_eq_some_iff.1 hs).1
    have hs₀ : b₀.streams[i]? = some s := by rw [hnew, List.getElem?_append_left hlt, hs]
    have hlt' : i < (desk.step c).2.broker.streams.length := by
      rw [hfed.length_eq]
      exact (List.getElem?_eq_some_iff.1 hs₀).1
    have hs' := List.getElem?_eq_getElem hlt'
    obtain ⟨s₁, hs₁, -, -, hl', hb'⟩ := hfed.stream hs'
    rw [hs₀, Option.some.injEq] at hs₁
    subst hs₁
    exact ⟨_, hs', hl'.trans hl, by rw [hb' hl, hb]⟩
  · exact hsame (f := Stream.behead) hl (by simp [Stream.behead, hb]) heq
  · exact hsame (f := Stream.abandon) rfl rfl heq

/-- A session that there is ends by being closed and in no other way. -/
lemma isOpen_step (hlt : session < desk.broker.sessions.length) {c : Command}
    (hc : c ≠ .close session) :
    (desk.step c).2.broker.isOpen session = desk.broker.isOpen session := by
  rcases step_sessions desk c with heq | ⟨rfl, heq⟩ | ⟨s, rfl, heq⟩
  · rw [Broker.isOpen, heq]
    rfl
  · rw [Broker.isOpen, heq, List.getElem?_append_left hlt]
    rfl
  · have hne : s ≠ session := by
      rintro rfl
      exact hc rfl
    rw [Broker.isOpen, heq, List.getElem?_set_ne hne]
    rfl

/-- There are never fewer streams or sessions. -/
lemma length_le_step (desk : Desk) (c : Command) :
    desk.broker.streams.length ≤ (desk.step c).2.broker.streams.length ∧
      desk.broker.sessions.length ≤ (desk.step c).2.broker.sessions.length := by
  constructor
  · rcases step_streams desk c with hfull | ⟨i, -, heq⟩ | ⟨i, -, heq⟩
    · exact hfull.grows.length_le
    · rw [heq, List.length_modify]
    · rw [heq, List.length_modify]
  · rcases step_sessions desk c with heq | ⟨-, heq⟩ | ⟨s, -, heq⟩
    · rw [heq]
    · rw [heq, List.length_append]
      exact Nat.le_add_right _ _
    · rw [heq, List.length_set]

/-! ## What is done by commands of a certain kind -/

/-- One thing that is done with a broker: a command, or a delivery that was settled is forgotten. -/
inductive Work (ok : Command → Prop) : Desk → Desk → Prop
  | command {desk : Desk} (c : Command) (h : ok c) : Work ok desk (desk.step c).2
  | clear (b : Broker) (deliveries : List (Option Delivery)) :
      Work ok ⟨b, deliveries ++ [none]⟩ ⟨b, deliveries⟩

/-- What is done with a broker, one thing after the other. -/
abbrev Works (ok : Command → Prop) : Desk → Desk → Prop :=
  Relation.ReflTransGen (Work ok)

variable {ok ok' : Command → Prop}

lemma Works.mono (h : Works ok desk desk') (hok : ∀ c, ok c → ok' c) : Works ok' desk desk' := by
  refine Relation.ReflTransGen.mono ?_ desk desk' h
  intro d d' hw
  cases hw with
  | command c hc => exact .command c (hok c hc)
  | clear b deliveries => exact .clear b deliveries

lemma works_command (c : Command) (h : ok c) : Works ok desk (desk.step c).2 :=
  .single (.command c h)

lemma getElem?_append_none {deliveries : List (Option Delivery)} {n : Nat} {d : Delivery}
    (h : deliveries[n]? = some (some d)) : (deliveries ++ [none])[n]? = some (some d) := by
  rw [List.getElem?_append_left (List.getElem?_eq_some_iff.1 h).1, h]

lemma Works.wider (hw : Works ok desk desk') :
    desk.broker.streams.length ≤ desk'.broker.streams.length ∧
      desk.broker.sessions.length ≤ desk'.broker.sessions.length := by
  induction hw with
  | refl => exact ⟨Nat.le_refl _, Nat.le_refl _⟩
  | tail _ hwork ih =>
    cases hwork with
    | command c _ =>
      obtain ⟨hs, hn⟩ := length_le_step _ c
      exact ⟨Nat.le_trans ih.1 hs, Nat.le_trans ih.2 hn⟩
    | clear b deliveries => exact ih

lemma Sound.clear {b : Broker} {deliveries : List (Option Delivery)}
    (hd : (⟨b, deliveries ++ [none]⟩ : Desk).Sound) : (⟨b, deliveries⟩ : Desk).Sound :=
  ⟨hd.broker, fun h => hd.delivery (getElem?_append_none h)⟩

lemma Works.sound (hd : desk.Sound) (hw : Works ok desk desk') : desk'.Sound := by
  induction hw with
  | refl => exact hd
  | tail _ hwork ih =>
    cases hwork with
    | command c _ => exact ih.step c
    | clear b deliveries => exact ih.clear

lemma Works.regular (h : desk.Regular owner) (hw : Works ok desk desk') :
    ∃ owner', desk'.Regular owner' ∧ desk.SameOwners owner owner' := by
  induction hw with
  | refl => exact ⟨owner, h, fun _ _ => rfl⟩
  | tail hw₁ hwork ih =>
    obtain ⟨owner₁, h₁, hsame₁⟩ := ih
    cases hwork with
    | command c _ =>
      obtain ⟨owner₂, h₂, hsame₂⟩ := h₁.step c
      refine ⟨owner₂, h₂, ?_⟩
      intro i hi
      rw [hsame₂ i (Nat.lt_of_lt_of_le hi (Works.wider hw₁).1), hsame₁ i hi]
    | clear b deliveries =>
      refine ⟨owner₁, ?_, hsame₁⟩
      exact
        { sound := h₁.sound.clear
          idle := h₁.idle
          owned := h₁.owned
          attended := h₁.attended
          counted := h₁.counted
          taken := fun hd => h₁.taken (getElem?_append_none hd) }

lemma Works.leftBehind (h : desk.Regular owner) (hl : desk.LeftBehind name u)
    (hw : Works ok desk desk') (hok : ∀ c, ok c → c ≠ .close u.session) :
    desk'.LeftBehind name u := by
  induction hw with
  | refl => exact hl
  | tail hw₁ hwork ih =>
    obtain ⟨owner₁, h₁, -⟩ := Works.regular h hw₁
    cases hwork with
    | command c hc => exact ih.step h₁ (hok c hc)
    | clear b deliveries => exact ⟨ih.left, fun hd => ih.untaken (getElem?_append_none hd)⟩

lemma Works.holds (hh : desk.Holds i name mode front) (hw : Works ok desk desk')
    (hok : ∀ c, ok c → c ≠ .next i ∧ c ≠ .dropStream i) : desk'.Holds i name mode front := by
  induction hw with
  | refl => exact hh
  | tail _ hwork ih =>
    cases hwork with
    | command c hc => exact ih.step (hok c hc).1 (hok c hc).2
    | clear b deliveries => exact ih

lemma Works.deserted (hd : desk.Deserted i) (hw : Works ok desk desk') : desk'.Deserted i := by
  induction hw with
  | refl => exact hd
  | tail _ hwork ih =>
    cases hwork with
    | command c _ => exact ih.step c
    | clear b deliveries => exact ih

lemma Works.isOpen_eq (hlt : session < desk.broker.sessions.length) (hw : Works ok desk desk')
    (hok : ∀ c, ok c → c ≠ .close session) :
    desk'.broker.isOpen session = desk.broker.isOpen session := by
  induction hw with
  | refl => rfl
  | tail hw₁ hwork ih =>
    cases hwork with
    | command c hc => rw [isOpen_step (Nat.lt_of_lt_of_le hlt (Works.wider hw₁).2) (hok c hc), ih]
    | clear b deliveries => exact ih

/-- A session that has ended stays so. -/
lemma Works.not_isOpen (hw : Works ok desk desk') (hlt : session < desk.broker.sessions.length)
    (hended : desk.broker.isOpen session = false) :
    desk'.broker.isOpen session = false := by
  induction hw with
  | refl => exact hended
  | tail hw₁ hwork ih =>
    cases hwork with
    | command c hc =>
      by_cases hclose : c = .close session
      · subst hclose
        exact Broker.isOpen_close_self _ session
      · rwa [isOpen_step (Nat.lt_of_lt_of_le hlt (Works.wider hw₁).2) hclose]
    | clear b deliveries => exact ih

/-- A message that is taken from a stream and settled at once. -/
lemma works_settle {d : Delivery} {b : Broker} {v : Verdict} (hnext : ok (.next i))
    (hsettle : ∀ n, ok (.settle v n)) (hpoll : desk.broker.poll i = (.delivery d, b)) :
    Works ok desk { desk with broker := (b.settle v d).2 } := by
  have htake : (desk.step (.next i)).2 = ⟨b, desk.deliveries ++ [some d]⟩ := by
    simp [Desk.step, hpoll]
  have hget : (desk.deliveries ++ [some d])[desk.deliveries.length]? = some (some d) := by simp
  have hset : ((desk.step (.next i)).2.step (.settle v desk.deliveries.length)).2 =
      ⟨(b.settle v d).2, desk.deliveries ++ [none]⟩ := by
    rw [htake]
    simp only [Desk.step, hget]
    simp
  refine .tail (.tail (works_command _ hnext) (.command _ (hsettle desk.deliveries.length))) ?_
  rw [hset]
  exact .clear _ _

end Desk

end MessageRelay
