import MessageRelay.Proofs.Relay.Crew

/-!
# What is left when joins and a close have returned

Whatever the order in which the calls at a relay go on, there are never two consumers for one queue, and
when all calls have returned nothing is left of the relay: no consumer, no place in a queue, and no
message that is not settled.  The session has ended once, and what a join had drained from a queue before
it found the relay closed has come back (`join_and_close_leave_nothing`).

Two invariants carry this.  `Crewed` is about the relay alone; `Kept` is about the broker: which streams
belong to the relay, and where the messages are that a join has drained.
-/

namespace MessageRelay

namespace Desk

variable {desk : Desk} {name : String}

lemma readyOf_step (desk : Desk) {c : Command} (hc : c.isQuiet = true) (name : String) :
    (desk.step c).2.broker.readyOf name = desk.broker.readyOf name := by
  have heffect := desk.step_effect c
  generalize (desk.step c).2 = desk' at heffect ⊢
  cases heffect with
  | nothing | next | forget | dropStream => rfl
  | declare _ hnone =>
    simp only [Broker.readyOf, Broker.declared_queue? hnone]
    split
    · next h => simp [h, hnone]
    · rfl
  | @settle n d q verdict _ _ hq _ =>
    have hhands := Broker.hands_setQueue hq (Broker.settled q d.tag verdict) (by simp) (by simp) name
    simpa using hhands.payloads
  | connect | consume | publish | close | inject | stats | refuseConnects | refuseChannel => cases hc

/-- What waits, and what was handed over by a command, is what waited and what came. -/
lemma readyOf_add_handed (hd : desk.Sound) (hi : desk.broker.Idle) (name : String) (c : Command) :
    ((handedBy name desk c).map (·.2) : Multiset Bytes) +
        ((desk.step c).2.broker.readyOf name : List Bytes) =
      (desk.broker.readyOf name : Multiset Bytes) +
        (routedBy name desk c ++ requeuedBy name desk c : List Bytes) := by
  obtain ⟨handed, hperm, hhands⟩ := handsBy_step hd hi name c
  have hmap : ((handedBy name desk c).map (·.2) : Multiset Bytes) = (handed.map (·.2) : List Bytes) :=
    Multiset.coe_eq_coe.2 (hperm.map _)
  rw [hmap, Multiset.coe_add, hhands.payloads, Multiset.coe_add]

/-- Messages that a session has left behind are among those that come round again when it ends. -/
lemma le_unsettledOf {session : Nat} {us : List Unsettled} (hnodup : (us.map (·.tag)).Nodup)
    (hus : ∀ u ∈ us, u.session = session ∧ desk.LeftBehind name u) :
    (us.map (·.payload) : Multiset Bytes) ≤ (desk.broker.unsettledOf session name : List Bytes) := by
  cases hq : desk.broker.queue? name with
  | none =>
    -- there is nothing to be left behind
    have hnil : us = [] := by
      cases us with
      | nil => rfl
      | cons u rest =>
        obtain ⟨q, hq', -⟩ := (hus u List.mem_cons_self).2.left.waits
        rw [hq] at hq'
        cases hq'
    rw [hnil]
    exact Multiset.zero_le _
  | some q =>
    have hsub : us ⊆ q.unacked.filter (·.session == session) := by
      intro u hu
      obtain ⟨hsession, hleft⟩ := hus u hu
      obtain ⟨q', hq', hmem⟩ := hleft.left.waits
      rw [hq, Option.some.injEq] at hq'
      subst hq'
      exact List.mem_filter.2 ⟨hmem, by simpa using hsession⟩
    have hle := Multiset.map_le_map (f := Unsettled.payload)
      (Multiset.coe_le.2 (List.subperm_of_subset (List.Nodup.of_map _ hnodup) hsub))
    simpa [Broker.unsettledOf, hq, Queue.unsettledOf] using hle

end Desk

namespace Race

variable {link : Link} {desk desk' : Desk} {r r' r'' : Race} {session : Nat} {config : QueueConfig} {owner : Nat → Nat}
  {i k : Nat} {j : Join} {stage : Stage}
  {mine : Nat → Prop}

/-! ## The broker -/

/-- What consumers have been handed of a queue since the session has ended. -/
def passedOnOf (r : Race) (name : String) : List Bytes :=
  (r.passedOn.filter fun p => p.1 = name).map (·.2)

/-- What waits in a queue, and what consumers have been handed of it since the session has ended. -/
def onHand (r : Race) (name : String) : Multiset Bytes :=
  (r.desk.broker.readyOf name : Multiset Bytes) + (r.passedOnOf name : List Bytes)

/-- What a join has drained is left behind, under the name of the session. -/
def LeftBy (session : Nat) (j : Join) (desk : Desk) : Prop :=
  ∃ us : List Unsettled, us.map (·.payload) = j.drained ∧ (us.map (·.tag)).Nodup ∧
    ∀ u ∈ us, u.session = session ∧ desk.LeftBehind j.queue u

/-- Which streams belong to the relay, and where the messages are that joins have drained. -/
structure Kept (session : Nat) (config : QueueConfig) (owner : Nat → Nat) (r : Race) : Prop where
  session_eq : r.station.relay.session = session
  config_eq : r.station.relay.config = config
  regular : r.desk.Regular owner
  session_lt : session < r.desk.broker.sessions.length
  isOpen_eq : r.desk.broker.isOpen session = !r.ended
  owned : ∀ i ∈ r.streams, i < r.desk.broker.streams.length ∧ owner i = session
  manned : ∀ c ∈ r.crew, c.2 ∈ r.streams
  /-- A stream that was given out has a consumer, or is in the hands of a join, or is deserted. -/
  tended : ∀ i ∈ r.streams, (∃ c ∈ r.crew, c.2 = i) ∨
    (∃ (k : Nat) (j : Join), r.joins[k]? = some j ∧ j.stage = .subscribed i) ∨ r.desk.Deserted i
  /-- What a join has drained is in the stream that it has in its hands. -/
  held : ∀ {k i : Nat} {j : Join}, r.joins[k]? = some j → j.stage = .subscribed i →
    i ∈ r.streams ∧ (∀ c ∈ r.crew, c.2 ≠ i) ∧
      ∃ front : List (Nat × Bytes), front.map (·.2) = j.drained ∧
        r.desk.Holds i j.queue config.ackMode front
  fresh : ∀ {k : Nat} {j : Join}, r.joins[k]? = some j → j.isEarly = true → j.drained = []
  /-- What a join had drained that has failed is left behind, until it comes back. -/
  left : config.ackMode = .manual → r.ended = false → ∀ {k : Nat} {j : Join},
    r.joins[k]? = some j → j.failed = true → LeftBy session j r.desk
  back : config.ackMode = .manual → r.ended = true → ∀ {k : Nat} {j : Join},
    r.joins[k]? = some j → j.failed = true → (j.drained : Multiset Bytes) ≤ r.onHand j.queue

lemma LeftBy.works (h : LeftBy session j desk) (hregular : desk.Regular owner) {ok : Desk.Command → Prop}
    (hw : Desk.Works ok desk desk') (hclose : ∀ c, ok c → c ≠ .close session) :
    LeftBy session j desk' := by
  obtain ⟨us, hmap, hnodup, hus⟩ := h
  refine ⟨us, hmap, hnodup, fun u hu => ?_⟩
  obtain ⟨hsession, hleft⟩ := hus u hu
  refine ⟨hsession, Desk.Works.leftBehind hregular hleft hw ?_⟩
  rw [hsession]
  exact hclose

/-- What is left behind stays there until the session ends. -/
lemma LeftBy.step (h : LeftBy session j desk) (hregular : desk.Regular owner) {c : Desk.Command}
    (hc : c ≠ .close session) : LeftBy session j (desk.step c).2 := by
  have hw : Desk.Works (· = c) desk (desk.step c).2 := Desk.works_command c rfl
  exact h.works hregular hw fun _ heq => heq ▸ hc

/-- What is done with the broker, but for the end of the session, as long as the streams are left alone
that joins have in their hands. -/
lemma Kept.works (h : Kept session config owner r) {ok : Desk.Command → Prop}
    (hw : Desk.Works ok r.desk r'.desk) (hclose : ∀ c, ok c → c ≠ .close session)
    (hheld : ∀ c, ok c → ∀ {k i : Nat} {j : Join}, r.joins[k]? = some j → j.stage = .subscribed i →
      c ≠ .next i ∧ c ≠ .dropStream i)
    (hsession : r'.station.relay.session = r.station.relay.session)
    (hconfig : r'.station.relay.config = r.station.relay.config)
    (hcrew : r'.crew ⊆ r.crew)
    (hlost : ∀ c ∈ r.crew, c ∉ r'.crew → c.2 < r.desk.broker.streams.length →
      r'.desk.Deserted c.2)
    (hjoins : r'.joins = r.joins) (hclosing : r'.closing = r.closing)
    (hstreams : r'.streams = r.streams)
    (hback : r.ended = true → ∀ name, r.onHand name ≤ r'.onHand name) :
    ∃ owner', Kept session config owner' r' := by
  obtain ⟨owner', hregular, hsame⟩ := Desk.Works.regular h.regular hw
  have hended : r'.ended = r.ended := by rw [ended, hclosing, ended]
  refine ⟨owner',
    { session_eq := hsession.trans h.session_eq
      config_eq := hconfig.trans h.config_eq
      regular := hregular
      session_lt := Nat.lt_of_lt_of_le h.session_lt (Desk.Works.wider hw).2
      isOpen_eq := by
        rw [Desk.Works.isOpen_eq h.session_lt hw hclose, hended]
        exact h.isOpen_eq
      owned := ?_
      manned := by rw [hstreams]; exact fun c hc => h.manned c (hcrew hc)
      tended := ?_
      held := ?_
      fresh := by rw [hjoins]; exact h.fresh
      left := ?_
      back := ?_ }⟩
  · rw [hstreams]
    intro i hi
    obtain ⟨hlt, howner⟩ := h.owned i hi
    exact ⟨Nat.lt_of_lt_of_le hlt (Desk.Works.wider hw).1, (hsame i hlt).trans howner⟩
  · rw [hstreams, hjoins]
    intro i hi
    rcases h.tended i hi with ⟨c, hc, rfl⟩ | hj | hd
    · by_cases hc' : c ∈ r'.crew
      · exact Or.inl ⟨c, hc', rfl⟩
      · exact Or.inr (Or.inr (hlost c hc hc' (h.owned c.2 hi).1))
    · exact Or.inr (Or.inl hj)
    · exact Or.inr (Or.inr (Desk.Works.deserted hd hw))
  · rw [hjoins, hstreams]
    intro k i j hj hs
    obtain ⟨hi, hfree, front, hfront, hholds⟩ := h.held hj hs
    exact ⟨hi, fun c hc => hfree c (hcrew hc), front, hfront,
      Desk.Works.holds hholds hw fun c hc => hheld c hc hj hs⟩
  · intro hm he k j hj hf
    rw [hended] at he
    rw [hjoins] at hj
    exact (h.left hm he hj hf).works h.regular hw hclose
  · intro hm he k j hj hf
    rw [hended] at he
    rw [hjoins] at hj
    exact le_trans (h.back hm he hj hf) (hback he j.queue)

lemma readyOf_works {ok : Desk.Command → Prop} {desk desk' : Desk} (hw : Desk.Works ok desk desk')
    (hok : ∀ c, ok c → c.isQuiet = true) (name : String) :
    desk'.broker.readyOf name = desk.broker.readyOf name := by
  induction hw with
  | refl => rfl
  | tail _ hwork ih =>
    cases hwork with
    | command c hc => rw [Desk.readyOf_step _ (hok c hc), ih]
    | clear b deliveries => exact ih

lemma Kept.yields (h : Kept session config owner r)
    (hy : Yields (fun i => ∃ c ∈ r.crew, c.2 = i) r r') :
    ∃ owner', Kept session config owner' r' := by
  refine h.works hy.works ?_ ?_ hy.session_eq hy.config_eq hy.crew.subset hy.lost hy.joins_eq
    hy.closing_eq hy.streams_eq ?_
  · rintro c ⟨hquiet, -⟩ rfl
    cases hquiet
  · rintro c ⟨-, hmine⟩ k i j hj hs
    obtain ⟨-, hfree, -⟩ := h.held hj hs
    have hnot : ¬ ∃ c ∈ r.crew, c.2 = i := fun ⟨c, hc, heq⟩ => hfree c hc heq
    exact ⟨fun hc => hnot (hmine i (Or.inl hc)), fun hc => hnot (hmine i (Or.inr hc))⟩
  · intro _ name
    rw [onHand, onHand, readyOf_works hy.works (fun c hc => hc.1) name, passedOnOf, passedOnOf,
      hy.passedOn_eq]

/-- A join that has no stream comes further, or returns. -/
lemma Kept.move (h : Kept session config owner r) (hj : r.joins[i]? = some j)
    (hearly : j.isEarly = true) (hstage : ∀ stream, stage ≠ .subscribed stream) :
    Kept session config owner (r.move i stage) := by
  have hdrained := h.fresh hj hearly
  refine
    { session_eq := h.session_eq
      config_eq := h.config_eq
      regular := h.regular
      session_lt := h.session_lt
      isOpen_eq := h.isOpen_eq
      owned := h.owned
      manned := h.manned
      tended := ?_
      held := ?_
      fresh := ?_
      left := ?_
      back := ?_ }
  · intro s hs
    rcases h.tended s hs with hc | ⟨k, l, hl, hsub⟩ | hd
    · exact Or.inl hc
    · refine Or.inr (Or.inl ⟨k, l, ?_, hsub⟩)
      have hne : i ≠ k := by
        rintro rfl
        rw [hj, Option.some.injEq] at hl
        subst hl
        simp [Join.isEarly, hsub] at hearly
      rw [Race.move, List.getElem?_modify, hl]
      simp [hne]
    · exact Or.inr (Or.inr hd)
  · intro k s l hl hs
    rcases move_joins_of hj hl with ⟨-, rfl⟩ | ⟨-, hl⟩
    · exact absurd hs (hstage s)
    · exact h.held hl hs
  · intro k l hl hl'
    rcases move_joins_of hj hl with ⟨-, rfl⟩ | ⟨-, hl⟩
    · exact hdrained
    · exact h.fresh hl hl'
  · intro hm he k l hl hf
    rcases move_joins_of hj hl with ⟨-, rfl⟩ | ⟨-, hl⟩
    · exact ⟨[], hdrained.symm, List.nodup_nil, fun u hu => by cases hu⟩
    · exact h.left hm he hl hf
  · intro hm he k l hl hf
    rcases move_joins_of hj hl with ⟨-, rfl⟩ | ⟨-, hl⟩
    · simp only [hdrained, Multiset.coe_nil]
      exact Multiset.zero_le _
    · exact h.back hm he hl hf

/-- A command that hands nothing over and is none of a consumer. -/
lemma Kept.quiet (h : Kept session config owner r) {c : Desk.Command} (hc : c.isQuiet = true)
    (hn : ∀ i, c ≠ .next i ∧ c ≠ .dropStream i) {b : Broker} (hb : (r.desk.step c).2.broker = b)
    (hd : (r.desk.step c).2.deliveries = r.desk.deliveries) :
    ∃ owner', Kept session config owner' (r.put r.station b) := by
  have hdesk : (r.desk.step c).2 = (r.put r.station b).desk := by
    simp only [put, ← hb, ← hd]
  have hw : Desk.Works (· = c) r.desk (r.put r.station b).desk := by
    rw [← hdesk]
    exact Desk.works_command c rfl
  refine h.works hw ?_ ?_ rfl rfl (List.Subset.refl _) (fun c hc hnot => absurd hc hnot) rfl rfl rfl ?_
  · rintro c' rfl rfl
    cases hc
  · rintro c' rfl k i j - -
    exact hn i
  · intro _ name
    have hready := Desk.readyOf_step r.desk hc name
    rw [hdesk] at hready
    rw [onHand, onHand, hready]
    exact le_refl _

lemma Kept.declare (h : Kept session config owner r) (link : Link) (queue : String) :
    ∃ owner', Kept session config owner'
      (r.put r.station (link.declare r.station.relay.session queue r.desk.broker).2) := by
  cases hl : link.declareError with
  | some reason =>
    refine ⟨owner, ?_⟩
    rw [Link.declare, hl]
    exact h
  | none =>
    refine h.quiet (c := .declare r.station.relay.session queue) rfl (fun i => by simp) ?_ rfl
    rw [Link.declare, hl]
    rfl

/-- A join gets its stream, and what was waiting in the queue is in it. -/
lemma Kept.giveStream (h : Kept session config owner r) (hcrewed : Crewed r) {queue : String}
    {drained : List Bytes} {stream : Nat} {b : Broker}
    (hj : r.joins[i]? = some ⟨queue, .entered, drained⟩)
    (hconsume : r.desk.broker.consume session queue config.ackMode = (.ok stream, b)) :
    ∃ owner', Kept session config owner' (r.giveStream i queue stream b) := by
  obtain ⟨-, hstream, front, hfront, hnew⟩ :=
    Broker.consume_front h.regular.sound.broker h.regular.idle hconsume
  have hstep : (r.desk.step (.consume session queue config.ackMode)).2 =
      (r.giveStream i queue stream b).desk := by
    rw [Desk.step_consume, hconsume]
    rfl
  have hregular := h.regular.consume session queue config.ackMode
  have hnotEnded : r.ended = false := hcrewed.ended_eq_false hj rfl
  have hne : Desk.Command.consume session queue config.ackMode ≠ .close session := by simp
  have hlt : i < r.joins.length := (List.getElem?_eq_some_iff.1 hj).1
  have hgrow := Desk.length_le_step r.desk (.consume session queue config.ackMode)
  rw [hstep] at hregular hgrow
  have hnewlt : stream < (r.giveStream i queue stream b).desk.broker.streams.length :=
    (List.getElem?_eq_some_iff.1 hnew).1
  refine ⟨_,
    { session_eq := h.session_eq
      config_eq := h.config_eq
      regular := hregular
      session_lt := Nat.lt_of_lt_of_le h.session_lt hgrow.2
      isOpen_eq := ?_
      owned := ?_
      manned := fun c hc => List.mem_append_left _ (h.manned c hc)
      tended := ?_
      held := ?_
      fresh := ?_
      left := ?_
      back := ?_ }⟩
  · rw [← hstep, Desk.isOpen_step h.session_lt hne]
    exact h.isOpen_eq
  · intro s hs
    rcases List.mem_append.1 hs with hs | hs
    · obtain ⟨hslt, howner⟩ := h.owned s hs
      exact ⟨Nat.lt_of_lt_of_le hslt hgrow.1, by
        rw [Function.update_of_ne (Nat.ne_of_lt hslt)]; exact howner⟩
    · rw [List.mem_singleton.1 hs]
      exact ⟨hnewlt, by rw [hstream]; exact Function.update_self _ _ _⟩
  · intro s hs
    rcases List.mem_append.1 hs with hs | hs
    · rcases h.tended s hs with hc | ⟨k, l, hl, hsub⟩ | hd
      · exact Or.inl hc
      · refine Or.inr (Or.inl ⟨k, l, ?_, hsub⟩)
        have hki : i ≠ k := by
          rintro rfl
          rw [hj, Option.some.injEq] at hl
          subst hl
          cases hsub
        rw [Race.giveStream, List.getElem?_set_ne hki, hl]
      · refine Or.inr (Or.inr ?_)
        rw [← hstep]
        exact hd.step _
    · rw [List.mem_singleton.1 hs]
      exact Or.inr (Or.inl ⟨i, _, List.getElem?_set_self hlt, rfl⟩)
  · intro k s l hl hs
    rcases set_joins hl with ⟨rfl, rfl⟩ | ⟨hki, hl⟩
    · cases hs
      refine ⟨List.mem_append_right _ (List.mem_singleton.2 rfl), ?_, front, hfront, ?_⟩
      · -- the stream is new, so no consumer has it
        intro c hc heq
        have hclt := (h.owned c.2 (h.manned c hc)).1
        rw [heq, hstream] at hclt
        exact Nat.lt_irrefl _ hclt
      · exact ⟨_, hnew, rfl, rfl, List.prefix_refl _⟩
    · exact absurd (hcrewed.eq_of_subscribed hj rfl hl hs) hki
  · intro k l hl hearly
    rcases set_joins hl with ⟨rfl, rfl⟩ | ⟨-, hl⟩
    · cases hearly
    · exact h.fresh hl hearly
  · intro hm he k l hl hf
    rcases set_joins hl with ⟨rfl, rfl⟩ | ⟨-, hl⟩
    · cases hf
    · rw [← hstep]
      exact (h.left hm hnotEnded hl hf).step h.regular hne
  · intro _ he
    have he' : r.ended = true := he
    rw [hnotEnded] at he'
    cases he'

/-- A join starts its consumer on the stream that it has in its hands. -/
lemma Kept.startTask (h : Kept session config owner r) (hcrewed : Crewed r) {queue : String}
    {drained : List Bytes} {stream : Nat}
    (hj : r.joins[i]? = some ⟨queue, .subscribed stream, drained⟩) :
    Kept session config owner
      (r.startTask i queue stream (r.station.relay.withConsumer queue stream) r.desk.broker) := by
  have hcrew := crew_startTask r i queue stream r.desk.broker
  obtain ⟨hmem, -, -⟩ := h.held hj rfl
  refine
    { session_eq := h.session_eq
      config_eq := h.config_eq
      regular := h.regular
      session_lt := h.session_lt
      isOpen_eq := h.isOpen_eq
      owned := h.owned
      manned := ?_
      tended := ?_
      held := ?_
      fresh := ?_
      left := ?_
      back := ?_ }
  · intro c hc
    rw [hcrew, List.mem_append, List.mem_singleton] at hc
    rcases hc with hc | rfl
    · exact h.manned c hc
    · exact hmem
  · intro s hs
    rw [hcrew]
    rcases h.tended s hs with ⟨c, hc, heq⟩ | ⟨k, l, hl, hsub⟩ | hd
    · exact Or.inl ⟨c, List.mem_append_left _ hc, heq⟩
    · have hki := hcrewed.eq_of_subscribed hj rfl hl hsub
      subst hki
      rw [hj, Option.some.injEq] at hl
      subst hl
      cases hsub
      exact Or.inl ⟨_, List.mem_append_right _ (List.mem_singleton.2 rfl), rfl⟩
    · exact Or.inr (Or.inr hd)
  · intro k s l hl hs
    rcases move_joins_of hj hl with ⟨rfl, rfl⟩ | ⟨hki, hl⟩
    · cases hs
    · exact absurd (hcrewed.eq_of_subscribed hj rfl hl hs) hki
  · intro k l hl hearly
    rcases move_joins_of hj hl with ⟨rfl, rfl⟩ | ⟨-, hl⟩
    · cases hearly
    · exact h.fresh hl hearly
  · intro hm he k l hl hf
    rcases move_joins_of hj hl with ⟨rfl, rfl⟩ | ⟨-, hl⟩
    · cases hf
    · exact h.left hm he hl hf
  · intro hm he k l hl hf
    rcases move_joins_of hj hl with ⟨rfl, rfl⟩ | ⟨-, hl⟩
    · cases hf
    · exact h.back hm he hl hf

/-- What a join has drained is left behind when its stream is dropped. -/
lemma Kept.leftBy_dropStream (h : Kept session config owner r) (hm : config.ackMode = .manual)
    (hended : r.ended = false) (hj : r.joins[i]? = some j) {stream : Nat} (hs : j.stage = .subscribed stream) :
    LeftBy session j (r.desk.step (.dropStream stream)).2 := by
  obtain ⟨hmem, -, front, hfront, s, hstream, hqueue, hmode, hpre⟩ := h.held hj hs
  obtain ⟨-, howner⟩ := h.owned stream hmem
  have hopen : r.desk.broker.isOpen (owner stream) = true := by
    rw [howner, h.isOpen_eq, hended]
    rfl
  -- the messages that were drained are the first ones in the stream
  have hsub : front ⊆ s.buffer := hpre.subset
  have hordered : front.Pairwise fun a b => a.1 < b.1 :=
    (h.regular.owned.ordered hstream).sublist hpre.sublist
  refine ⟨front.map fun p => ⟨p.1, session, p.2⟩, ?_, ?_, fun u hu => ?_⟩
  · rw [List.map_map]
    exact hfront
  · rw [List.map_map]
    exact (List.pairwise_map.2 hordered).imp Nat.ne_of_lt
  · obtain ⟨p, hp, rfl⟩ := List.mem_map.1 hu
    have hleft := Desk.leftBehind_dropStream h.regular hstream (hmode.trans hm) hopen (hsub hp)
    rw [hqueue, howner] at hleft
    exact ⟨rfl, hleft⟩

/-- A join that finds the relay closed drops its stream, and what it had drained is left behind. -/
lemma Kept.turnBack (h : Kept session config owner r) (hcrewed : Crewed r) {queue : String}
    {drained : List Bytes} {stream : Nat} {e : RelayError}
    (hj : r.joins[i]? = some ⟨queue, .subscribed stream, drained⟩) :
    ∃ owner', Kept session config owner'
      ((r.put r.station (r.desk.broker.dropStream stream)).move i (.returned (.error e))) := by
  obtain ⟨hmem, -, -⟩ := h.held hj rfl
  have hnotEnded : r.ended = false := hcrewed.ended_eq_false hj rfl
  have hlength := Desk.length_le_step r.desk (.dropStream stream)
  -- the broker does not take part in the move
  have hput : (r.put r.station (r.desk.broker.dropStream stream)).joins[i]? =
      some ⟨queue, .subscribed stream, drained⟩ := hj
  refine ⟨owner,
    { session_eq := h.session_eq
      config_eq := h.config_eq
      regular := h.regular.dropStream stream
      session_lt := h.session_lt
      isOpen_eq := h.isOpen_eq
      owned := fun t ht => ⟨Nat.lt_of_lt_of_le (h.owned t ht).1 hlength.1, (h.owned t ht).2⟩
      manned := h.manned
      tended := ?_
      held := ?_
      fresh := ?_
      left := ?_
      back := ?_ }⟩
  · intro t ht
    by_cases heq : t = stream
    · subst heq
      exact Or.inr (Or.inr (Desk.deserted_dropStream r.desk (h.owned t hmem).1))
    · rcases h.tended t ht with hc | ⟨k, l, hl, hsub⟩ | hd
      · exact Or.inl hc
      · have hki := hcrewed.eq_of_subscribed hj rfl hl hsub
        subst hki
        rw [hj, Option.some.injEq] at hl
        subst hl
        cases hsub
        exact absurd rfl heq
      · exact Or.inr (Or.inr (hd.step (.dropStream stream)))
  · intro k t l hl hsub
    rcases move_joins_of hput hl with ⟨rfl, rfl⟩ | ⟨hki, hl⟩
    · cases hsub
    · exact absurd (hcrewed.eq_of_subscribed hj rfl hl hsub) hki
  · intro k l hl hearly
    rcases move_joins_of hput hl with ⟨rfl, rfl⟩ | ⟨-, hl⟩
    · cases hearly
    · exact h.fresh hl hearly
  · intro hm he k l hl hf
    rcases move_joins_of hput hl with ⟨rfl, rfl⟩ | ⟨-, hl⟩
    · exact h.leftBy_dropStream hm hnotEnded hj rfl
    · exact (h.left hm hnotEnded hl hf).step h.regular (c := .dropStream stream) (by simp)
  · intro _ he
    have he' : r.ended = true := he
    rw [hnotEnded] at he'
    cases he'

lemma handedOn_eq (r : Race) (c : Desk.Command) (name : String) :
    ((handedOn r.desk.broker (r.desk.step c).2.broker).filter fun p => p.1 = name).map (·.2) =
      (Desk.handedBy name r.desk c).map (·.2) := by
  simp [handedOn, Desk.handedBy, List.filter_map, Function.comp_def]

/-- What other clients do. -/
lemma Kept.letOthers (h : Kept session config owner r) {c : Desk.Command}
    (hc : r.isForeign c = true) : ∃ owner', Kept session config owner' (r.letOthers c) := by
  have hw : Desk.Works (· = c) r.desk (r.letOthers c).desk := Desk.works_command c rfl
  refine h.works hw ?_ ?_ rfl rfl (List.Subset.refl _) (fun c hc hnot => absurd hc hnot) rfl rfl rfl ?_
  · rintro c' rfl rfl
    simp [isForeign, h.session_eq] at hc
  · rintro c' rfl k i j hj hs
    obtain ⟨hi, -, -⟩ := h.held hj hs
    constructor
    · rintro rfl
      simp [isForeign, hi] at hc
    · rintro rfl
      simp [isForeign, hi] at hc
  · -- what leaves the queue is handed over
    intro he name
    have hadd := Desk.readyOf_add_handed h.regular.sound h.regular.idle name c
    have hpassed : (r.letOthers c).passedOnOf name =
        r.passedOnOf name ++ (Desk.handedBy name r.desk c).map (·.2) := by
      rw [← handedOn_eq, passedOnOf, Race.letOthers, if_pos he, List.filter_append, List.map_append]
      rfl
    rw [onHand, onHand, hpassed, ← Multiset.coe_add]
    calc (r.desk.broker.readyOf name : Multiset Bytes) + (r.passedOnOf name : List Bytes)
        ≤ ((r.desk.broker.readyOf name : Multiset Bytes) +
            (Desk.routedBy name r.desk c ++ Desk.requeuedBy name r.desk c : List Bytes)) +
            (r.passedOnOf name : List Bytes) := by
          gcongr
          exact Multiset.le_add_right _ _
      _ = _ := by
          rw [← hadd]
          have hdesk : (r.letOthers c).desk = (r.desk.step c).2 := rfl
          rw [hdesk]
          abel

/-- The session ends, and what was left behind comes back. -/
lemma Kept.endSession (h : Kept session config owner r) (hcrewed : Crewed r) {tasks : List Nat}
    (hc : r.closing = .waiting tasks) (result : Except RelayError Unit) :
    Kept session config owner (r.endSession result (r.desk.broker.close session)) := by
  have hnotEnded : r.ended = false := by rw [ended, hc]
  have hopen : r.desk.broker.isOpen session = true := by
    rw [h.isOpen_eq, hnotEnded]
    rfl
  have hregular := h.regular.close session
  have hlength := Desk.length_le_step r.desk (.close session)
  have hfree := (hcrewed.awaited hc).1
  have hended : (r.endSession result (r.desk.broker.close session)).ended = true := rfl
  refine
    { session_eq := h.session_eq
      config_eq := h.config_eq
      regular := hregular
      session_lt := Nat.lt_of_lt_of_le h.session_lt hlength.2
      isOpen_eq := ?_
      owned := fun t ht => ⟨Nat.lt_of_lt_of_le (h.owned t ht).1 hlength.1, (h.owned t ht).2⟩
      manned := h.manned
      tended := ?_
      held := ?_
      fresh := h.fresh
      left := fun _ he => by rw [hended] at he; cases he
      back := ?_ }
  · have hiff := Broker.isOpen_close r.desk.broker session session
    rw [hended, Bool.not_true, ← Bool.not_eq_true]
    exact fun ho => (hiff.1 ho).1 rfl
  · intro t ht
    rcases h.tended t ht with hc | hj | hd
    · exact Or.inl hc
    · exact Or.inr (Or.inl hj)
    · exact Or.inr (Or.inr (hd.step (.close session)))
  · intro k t l hl hsub
    have hin := inside_of_isFree hfree hl
    simp [Join.inside, hsub] at hin
  · intro hm _ k l hl hf
    obtain ⟨us, hmap, hnodup, hus⟩ := h.left hm hnotEnded hl hf
    have hadd := Desk.readyOf_add_handed h.regular.sound h.regular.idle l.queue (.close session)
    have hrouted : Desk.routedBy l.queue r.desk (.close session) = [] := rfl
    rw [hrouted, List.nil_append, Desk.requeuedBy_close h.regular.sound, if_pos hopen] at hadd
    have hpassed : (r.endSession result (r.desk.broker.close session)).passedOnOf l.queue =
        (Desk.handedBy l.queue r.desk (.close session)).map (·.2) := by
      rw [← handedOn_eq]
      rfl
    rw [onHand, hpassed, ← hmap]
    calc (us.map (·.payload) : Multiset Bytes)
        ≤ (r.desk.broker.unsettledOf session l.queue : List Bytes) := Desk.le_unsettledOf hnodup hus
      _ ≤ (r.desk.broker.readyOf l.queue : Multiset Bytes) +
            (r.desk.broker.unsettledOf session l.queue : List Bytes) := Multiset.le_add_left _ _
      _ = _ := by
          rw [← hadd, add_comm]
          rfl

/-- Only the calls change, and no join is any further. -/
lemma Kept.withClosing (h : Kept session config owner r) (hdesk : r'.desk = r.desk)
    (hsession : r'.station.relay.session = r.station.relay.session)
    (hconfig : r'.station.relay.config = r.station.relay.config) (hcrew : r'.crew = r.crew)
    (hjoins : r'.joins = r.joins) (hended : r'.ended = r.ended) (hstreams : r'.streams = r.streams)
    (hpassed : r'.passedOn = r.passedOn) : Kept session config owner r' where
  session_eq := hsession.trans h.session_eq
  config_eq := hconfig.trans h.config_eq
  regular := by rw [hdesk]; exact h.regular
  session_lt := by rw [hdesk]; exact h.session_lt
  isOpen_eq := by rw [hdesk, hended]; exact h.isOpen_eq
  owned := by rw [hdesk, hstreams]; exact h.owned
  manned := by rw [hcrew, hstreams]; exact h.manned
  tended := by rw [hdesk, hcrew, hstreams, hjoins]; exact h.tended
  held := by rw [hdesk, hcrew, hstreams, hjoins]; exact h.held
  fresh := by rw [hjoins]; exact h.fresh
  left := by rw [hdesk, hjoins, hended]; exact h.left
  back := by
    have hhand : r'.onHand = r.onHand := by
      funext name
      rw [onHand, onHand, passedOnOf, passedOnOf, hdesk, hpassed]
    rw [hhand, hjoins, hended]
    exact h.back

/-! ## Whatever happens -/

/-- Everything is in order at the relay and at the broker. -/
def InOrder (session : Nat) (config : QueueConfig) (r : Race) : Prop :=
  Crewed r ∧ ∃ owner, Kept session config owner r

lemma InOrder.yields (h : InOrder session config r)
    (hy : Yields (fun i => ∃ c ∈ r.crew, c.2 = i) r r') : InOrder session config r' := by
  obtain ⟨hcrewed, owner, hkept⟩ := h
  exact ⟨hcrewed.yields hy, hkept.yields hy⟩

lemma InOrder.begin (h : InOrder session config r) (hact : r.act link (.begin i) = some r') :
    InOrder session config r' := by
  obtain ⟨hcrewed, owner, hkept⟩ := h
  simp only [act] at hact
  split at hact
  · next queue drained hj =>
    split at hact
    · cases hact
      exact ⟨hcrewed.move fun _ => rfl, owner, hkept.move hj rfl fun _ => by simp⟩
    · split at hact
      · cases hact
        exact ⟨hcrewed.move fun _ => rfl, owner, hkept.move hj rfl fun _ => by simp⟩
      · cases hact
        exact ⟨hcrewed.move fun _ => rfl, owner, hkept.move hj rfl fun _ => by simp⟩
  · cases hact

lemma InOrder.declare (h : InOrder session config r) (hact : r.act link (.declare i) = some r') :
    InOrder session config r' := by
  obtain ⟨hcrewed, owner, hkept⟩ := h
  simp only [act] at hact
  split at hact
  · next queue drained hj =>
    obtain ⟨owner', hkept'⟩ := hkept.declare link queue
    split at hact
    · next e b heq =>
      cases hact
      rw [heq] at hkept'
      exact ⟨(hcrewed.put b).move fun _ => rfl, owner', hkept'.move hj rfl fun _ => by simp⟩
    · next b heq =>
      cases hact
      rw [heq] at hkept'
      exact ⟨(hcrewed.put b).move fun _ => rfl, owner', hkept'.move hj rfl fun _ => by simp⟩
  · cases hact

lemma InOrder.enter (h : InOrder session config r) (hact : r.act link (.enter i) = some r') :
    InOrder session config r' := by
  obtain ⟨hcrewed, owner, hkept⟩ := h
  simp only [act] at hact
  split at hact
  · next queue drained hj =>
    split at hact
    · cases hact
    · next hfree =>
      split at hact
      · cases hact
        exact ⟨hcrewed.move fun _ => rfl, owner, hkept.move hj rfl fun _ => by simp⟩
      · next htasks =>
        split at hact
        · cases hact
          exact ⟨hcrewed.move fun _ => rfl, owner, hkept.move hj rfl fun _ => by simp⟩
        · next hc =>
          cases hact
          exact ⟨hcrewed.enter hj (by simpa using hfree) (Bool.eq_false_iff.2 htasks)
            (by simpa using hc), owner, hkept.move hj rfl fun _ => by simp⟩
  · cases hact

lemma InOrder.subscribe (h : InOrder session config r)
    (hact : r.act link (.subscribe i) = some r') : InOrder session config r' := by
  obtain ⟨hcrewed, owner, hkept⟩ := h
  simp only [act] at hact
  split at hact
  · next queue drained hj =>
    rw [hkept.session_eq, hkept.config_eq] at hact
    split at hact
    · next e b heq =>
      cases hact
      -- a session that was refused a stream has changed nothing
      rcases Broker.consume_cases r.desk.broker session queue config.ackMode with
        ⟨e', herr⟩ | ⟨q, -, -, hok⟩
      · rw [herr] at heq
        cases heq
        exact ⟨hcrewed.move fun _ => rfl, owner, hkept.move hj rfl fun _ => by simp⟩
      · rw [hok] at heq
        cases heq
    · next stream b heq =>
      cases hact
      exact ⟨hcrewed.giveStream hj stream b, hkept.giveStream hcrewed hj heq⟩
  · cases hact

lemma InOrder.start (h : InOrder session config r) (hact : r.act link (.start i) = some r') :
    InOrder session config r' := by
  obtain ⟨hcrewed, owner, hkept⟩ := h
  simp only [act] at hact
  split at hact
  · next queue stream drained hj =>
    cases hc : r.station.relay.closed with
    | true =>
      rw [Relay.startConsumer_of_closed hc] at hact
      cases hact
      exact ⟨(hcrewed.put _).move fun _ => rfl, hkept.turnBack hcrewed hj⟩
    | false =>
      rw [Relay.startConsumer_of_open hc] at hact
      cases hact
      exact ⟨hcrewed.startTask hj hc r.desk.broker, owner, hkept.startTask hcrewed hj⟩
  · cases hact

lemma InOrder.close (h : InOrder session config r) (hact : r.act link .close = some r') :
    InOrder session config r' := by
  obtain ⟨hcrewed, owner, hkept⟩ := h
  simp only [act] at hact
  split at hact
  · next hc =>
    cases hact
    exact ⟨hcrewed.markClosed hc, owner,
      hkept.withClosing rfl rfl rfl rfl rfl (by rw [ended, ended, hc]; rfl) rfl rfl⟩
  · cases hact

lemma InOrder.drain (h : InOrder session config r) (hact : r.act link .drain = some r') :
    InOrder session config r' := by
  obtain ⟨hcrewed, owner, hkept⟩ := h
  simp only [act] at hact
  split at hact
  · next hc =>
    split at hact
    · next hfree =>
      cases hact
      exact ⟨hcrewed.takeTasks hc hfree, owner,
        hkept.withClosing rfl rfl rfl rfl rfl (by rw [ended, ended, hc]; rfl) rfl rfl⟩
    · cases hact
  · cases hact

lemma InOrder.finish (h : InOrder session config r) (hact : r.act link .finish = some r') :
    InOrder session config r' := by
  obtain ⟨hcrewed, owner, hkept⟩ := h
  simp only [act] at hact
  split at hact
  · next tasks hc =>
    split at hact
    · cases hact
    · next hlive =>
      cases hact
      have hclose : (link.close r.station.relay.session r.desk.broker).2 =
          r.desk.broker.close session := by
        rw [hkept.session_eq, Link.close]
        split <;> rfl
      rw [hclose]
      exact ⟨hcrewed.endSession hc (by simpa using hlive) _ _, owner,
        hkept.endSession hcrewed hc _⟩
  · cases hact

/-- A consumer that has not stopped has one of the streams of the crew. -/
lemma mine_of_isIdle {stream : Nat} (h : r.isIdle stream = true) :
    r.isLive stream = true ∧ ∃ c ∈ r.crew, c.2 = stream := by
  have hlive : r.isLive stream = true := by
    simp only [isIdle, Bool.and_eq_true] at h
    exact h.1.1
  exact ⟨hlive, (isLive_iff stream).1 hlive⟩

lemma InOrder.abandon (h : InOrder session config r) {stream : Nat}
    (hact : r.act link (.abandon stream) = some r') : InOrder session config r' := by
  simp only [act] at hact
  split at hact
  · next hidle =>
    simp only [Bool.and_eq_true] at hidle
    obtain ⟨-, hmine⟩ := mine_of_isIdle hidle.1.1
    split at hact
    · next d b hpoll =>
      cases hact
      exact h.yields ((yields_settle hmine hpoll).trans (yields_stop _ hmine))
    · cases hact
  · cases hact

lemma InOrder.stop (h : InOrder session config r) (stream : Nat) (guard : Bool)
    (hguard : guard = true → r.isLive stream = true)
    (hact : (if guard then some (r.put (r.station.stopConsumer stream r.desk.broker).1
      (r.station.stopConsumer stream r.desk.broker).2) else none) = some r') :
    InOrder session config r' := by
  split at hact
  · next hg =>
    cases hact
    exact h.yields (yields_stop r ((isLive_iff stream).1 (hguard hg)))
  · cases hact

lemma yields_breakStream (r : Race) (stream : Nat) :
    Yields mine r { r with station := r.station.breakStream stream } := by
  have hcrew : ({ r with station := r.station.breakStream stream } : Race).crew = r.crew := by
    simp only [crew, Station.breakStream, List.map_map]
    apply List.map_congr_left
    intro c _
    simp only [Function.comp_apply]
    split <;> rfl
  refine
    { joins_eq := rfl
      closing_eq := rfl
      tasks_eq := rfl
      signal_eq := rfl
      streams_eq := rfl
      passedOn_eq := rfl
      session_eq := rfl
      config_eq := rfl
      closed_eq := rfl
      crew := by rw [hcrew]
      lost := fun c hc hnot => ?_
      posters := fun hp => ?_
      works := .refl }
  · rw [hcrew] at hnot
    exact absurd hc hnot
  · rw [Posters, hcrew]
    exact hp

lemma yields_discardMailbox (hp : r.Posters) :
    Yields (fun i => ∃ c ∈ r.crew, c.2 = i) r (r.put (r.station.discardMailbox r.desk.broker).1
      (r.station.discardMailbox r.desk.broker).2) := by
  have hempty : Yields (fun i => ∃ c ∈ r.crew, c.2 = i) r
      { r with station := { r.station with mailbox := r.station.mailbox.discard.2 } } :=
    yields_mailbox fun p hp => by cases hp
  refine hempty.trans (yields_stopConsumers _ _ ?_)
  -- only consumers wait for a place
  intro i hi
  obtain ⟨sender, hs, hsome⟩ := List.mem_filterMap.1 hi
  obtain ⟨p, hmem, rfl⟩ := List.mem_map.1 hs
  obtain ⟨c, hc, heq⟩ := hp p (by
    rw [List.mem_append] at hmem ⊢
    exact hmem.symm)
  rw [heq] at hsome
  exact ⟨c, hc, by simpa using hsome⟩

lemma InOrder.useGrant (h : InOrder session config r) (hact : r.act link .useGrant = some r') :
    InOrder session config r' := by
  simp only [act] at hact
  split at hact
  · next sender m hm =>
    cases hact
    obtain ⟨event, rest, hgranted, rfl⟩ := Mailbox.useGrant_eq_some hm
    refine h.yields (yields_mailbox fun p hp => Or.inl ?_)
    rw [hgranted, List.mem_append]
    rw [List.mem_append] at hp
    exact hp.imp_right (List.mem_cons_of_mem _)
  · cases hact

lemma InOrder.others (h : InOrder session config r) {c : Desk.Command}
    (hact : r.act link (.others c) = some r') : InOrder session config r' := by
  obtain ⟨hcrewed, owner, hkept⟩ := h
  simp only [act] at hact
  split at hact
  · next hc =>
    cases hact
    refine ⟨?_, hkept.letOthers hc⟩
    exact ⟨hcrewed.closed_iff, hcrewed.nodup, hcrewed.alone, hcrewed.unjoined, hcrewed.known,
      hcrewed.awaited, hcrewed.finished, hcrewed.warned, hcrewed.posters⟩
  · cases hact

/-- **Whatever happens, everything stays in order.** -/
lemma InOrder.act (h : InOrder session config r) {a : Action} (hact : r.act link a = some r') :
    InOrder session config r' := by
  cases a with
  | begin i => exact h.begin hact
  | declare i => exact h.declare hact
  | enter i => exact h.enter hact
  | subscribe i => exact h.subscribe hact
  | start i => exact h.start hact
  | close => exact h.close hact
  | drain => exact h.drain hact
  | finish => exact h.finish hact
  | awake stream =>
    simp only [Race.act] at hact
    split at hact
    · cases hact
      have hy := yields_refl (fun i => ∃ c ∈ r.crew, c.2 = i) r
      exact h.yields ⟨rfl, rfl, rfl, rfl, rfl, rfl, rfl, rfl, rfl, hy.crew, hy.lost, hy.posters, .refl⟩
    · cases hact
  | serve stream =>
    simp only [Race.act] at hact
    split at hact
    · next hidle =>
      simp only [Bool.and_eq_true] at hidle
      obtain ⟨hlive, hmine⟩ := mine_of_isIdle hidle.1
      cases hact
      exact h.yields (yields_serve hlive hmine)
    · cases hact
  | abandon stream => exact h.abandon hact
  | obey stream =>
    refine h.stop stream (r.isLive stream && r.signal) ?_ hact
    simp only [Bool.and_eq_true]
    exact And.left
  | fail stream =>
    refine h.stop stream (r.isIdle stream && r.isBroken stream) ?_ hact
    simp only [Bool.and_eq_true]
    exact fun hg => (mine_of_isIdle hg.1).1
  | breakStream stream =>
    cases hact
    exact h.yields (yields_breakStream r stream)
  | takeEvents limit =>
    cases hact
    refine h.yields (yields_mailbox fun p hp => Or.inl ?_)
    have hold := Mailbox.mem_of_grant hp
    exact hold
  | grant =>
    cases hact
    exact h.yields (yields_mailbox fun p hp => Or.inl (Mailbox.mem_of_grant hp))
  | useGrant => exact h.useGrant hact
  | discardMailbox =>
    cases hact
    exact h.yields (yields_discardMailbox h.1.posters)
  | others c => exact h.others hact

lemma InOrder.run (h : InOrder session config r) {actions : List Action}
    (hrun : r.run link actions = some r') : InOrder session config r' := by
  induction actions generalizing r with
  | nil =>
    cases hrun
    exact h
  | cons a rest ih =>
    simp only [Race.run] at hrun
    split at hrun
    · next r₁ hact => exact ih (h.act hact) hrun
    · cases hrun

/-- Whoever connects has a session that is open, and there was none of its number before. -/
lemma isOpen_of_connected (h : desk.step .connect = (.session session, desk')) :
    desk'.broker.isOpen session = true ∧ session < desk'.broker.sessions.length := by
  simp only [Desk.step] at h
  split at h
  · next s b heq =>
    cases h
    rcases Broker.connect_cases desk.broker with ⟨⟨e, he⟩, -⟩ | ⟨hok, hsessions⟩
    · rw [heq] at he
      cases he
    · rw [heq, Except.ok.injEq] at hok
      have hget : b.sessions[session]? = some true := by
        rw [heq] at hsessions
        rw [hsessions, hok]
        exact List.getElem?_concat_length
      exact ⟨by simp [Broker.isOpen, hget], (List.getElem?_eq_some_iff.1 hget).1⟩
  · cases h

/-- Every join of a relay that has just come up is called, and has drained nothing. -/
lemma opening_joins {desk : Desk} {capacity : Nat} {queues : List String}
    (hj : (opening desk session config capacity queues).joins[i]? = some j) :
    j.stage = .called ∧ j.drained = [] := by
  obtain ⟨queue, -, rfl⟩ := List.mem_map.1 (List.mem_of_getElem? hj)
  exact ⟨rfl, rfl⟩

lemma crewed_opening (desk : Desk) (session : Nat) (config : QueueConfig) (capacity : Nat)
    (queues : List String) : Crewed (opening desk session config capacity queues) := by
  have hfree : ∀ {k : Nat} {j : Join},
      (opening desk session config capacity queues).joins[k]? = some j → j.inside = false := by
    intro k j hj
    simp [Join.inside, (opening_joins hj).1]
  exact
    { closed_iff := by simp [opening]
      nodup := List.nodup_nil
      alone := fun hj _ hin => by rw [hfree hj] at hin; cases hin
      unjoined := fun hj hin => by rw [hfree hj] at hin; cases hin
      known := fun _ => List.nil_subset _
      awaited := fun hw => by cases hw
      finished := fun he => by cases he
      warned := fun hc => by cases hc
      posters := fun p hp => by cases hp }

lemma kept_opening (hregular : desk.Regular owner) (hopen : desk.broker.isOpen session = true)
    (hlt : session < desk.broker.sessions.length) (config : QueueConfig) (capacity : Nat)
    (queues : List String) : Kept session config owner (opening desk session config capacity queues) where
  session_eq := rfl
  config_eq := rfl
  regular := hregular
  session_lt := hlt
  isOpen_eq := hopen
  owned i hi := by cases hi
  manned c hc := by cases hc
  tended i hi := by cases hi
  held hj hs := by
    rw [(opening_joins hj).1] at hs
    cases hs
  fresh hj _ := (opening_joins hj).2
  left _ _ _ _ hj hf := by simp [Join.failed, (opening_joins hj).1] at hf
  back _ _ _ _ hj hf := by simp [Join.failed, (opening_joins hj).1] at hf

lemma inOrder_opening {before : List Desk.Command} {desk : Desk}
    (hconnect : (({} : Desk).run before).2.step .connect = (.session session, desk))
    (config : QueueConfig) (capacity : Nat) (queues : List String) :
    InOrder session config (opening desk session config capacity queues) := by
  obtain ⟨owner, hregular⟩ := Desk.regular_run before
  have hregular' := hregular.connect
  rw [hconnect] at hregular'
  obtain ⟨hopen, hlt⟩ := isOpen_of_connected hconnect
  exact ⟨crewed_opening desk session config capacity queues, owner,
    kept_opening hregular' hopen hlt config capacity queues⟩

/-! ## Nobody is stuck -/

/-- How much a join still has to do; the last step of one that succeeds makes a consumer, who has to
stop. -/
def Stage.rest : Stage → Nat
  | .called => 6
  | .begun => 5
  | .declared => 4
  | .entered => 3
  | .subscribed _ => 2
  | .returned _ => 0

/-- How much the call that closes the relay still has to do. -/
def Closing.rest : Closing → Nat
  | .uncalled => 3
  | .called => 2
  | .waiting _ => 1
  | .returned _ => 0

/-- How much there is to be done until all calls have returned. -/
def rest (r : Race) : Nat :=
  (r.joins.map fun j => j.stage.rest).sum + r.closing.rest + r.crew.length

lemma sum_map_set {l : List Join} (g : Join → Nat) (new : Join) (h : l[i]? = some j) :
    ((l.set i new).map g).sum + g j = (l.map g).sum + g new := by
  induction l generalizing i with
  | nil => simp at h
  | cons a l ih =>
    cases i with
    | zero =>
      simp only [List.getElem?_cons_zero, Option.some.injEq] at h
      subst h
      simp only [List.set_cons_zero, List.map_cons, List.sum_cons]
      omega
    | succ i =>
      have := ih (i := i) (by simpa using h)
      simp only [List.set_cons_succ, List.map_cons, List.sum_cons]
      omega

lemma move_joins_eq (h : r.joins[i]? = some j) :
    (r.move i stage).joins = r.joins.set i { j with stage } := by
  apply List.ext_getElem?
  intro k
  rw [move, List.getElem?_modify, List.getElem?_set]
  by_cases hik : i = k
  · subst hik
    rw [if_pos rfl, if_pos (List.getElem?_eq_some_iff.1 h).1, h]
    simp
  · cases r.joins[k]? <;> simp [hik]

/-- A join that has come further has less to do. -/
lemma rest_move (h : r.joins[i]? = some j) (hs : stage.rest < j.stage.rest) :
    (r.move i stage).rest < r.rest := by
  have hsum := sum_map_set (fun j => j.stage.rest) { j with stage } h
  have hjoins : (r.move i stage).joins = r.joins.set i { j with stage } := move_joins_eq h
  have hclosing : (r.move i stage).closing = r.closing := rfl
  have hcrew : (r.move i stage).crew = r.crew := rfl
  simp only [rest, hjoins, hclosing, hcrew]
  simp only at hsum
  omega

/-- One of the calls, or a consumer that was told to stop, can do something, and then there is less to
be done. -/
def CanGoOn (link : Link) (r : Race) : Prop :=
  ∃ a r', a.isOwn = true ∧ r.act link a = some r' ∧ r'.rest < r.rest

/-- A join that gets its stream has less to do. -/
lemma rest_giveStream {queue : String} {drained : List Bytes} (stream : Nat) (b : Broker)
    (hj : r.joins[i]? = some ⟨queue, .entered, drained⟩) :
    (r.giveStream i queue stream b).rest < r.rest := by
  have hsum := sum_map_set (fun j => j.stage.rest)
    ⟨queue, .subscribed stream, r.desk.broker.readyOf queue⟩ hj
  have hentered : Stage.entered.rest = 3 := rfl
  have hsubscribed : (Stage.subscribed stream).rest = 2 := rfl
  have hclosing : (r.giveStream i queue stream b).closing = r.closing := rfl
  have hcrew : (r.giveStream i queue stream b).crew = r.crew := rfl
  have hjoins : (r.giveStream i queue stream b).joins =
      r.joins.set i ⟨queue, .subscribed stream, r.desk.broker.readyOf queue⟩ := rfl
  simp only [rest, hclosing, hcrew, hjoins]
  simp only at hsum
  omega

/-- A join that starts its consumer has less to do, also if the consumer's end is counted. -/
lemma rest_startTask {queue : String} {stream : Nat} {drained : List Bytes} (b : Broker)
    (hj : r.joins[i]? = some ⟨queue, .subscribed stream, drained⟩) :
    (r.startTask i queue stream (r.station.relay.withConsumer queue stream) b).rest < r.rest := by
  have hsum := sum_map_set (fun j => j.stage.rest) ⟨queue, .returned (.ok ()), drained⟩ hj
  have hsubscribed : (Stage.subscribed stream).rest = 2 := rfl
  have hreturned : (Stage.returned (.ok ())).rest = 0 := rfl
  have hjoins : (r.startTask i queue stream (r.station.relay.withConsumer queue stream) b).joins =
      r.joins.set i ⟨queue, .returned (.ok ()), drained⟩ := move_joins_eq hj
  have hclosing : (r.startTask i queue stream
      (r.station.relay.withConsumer queue stream) b).closing = r.closing := rfl
  simp only [rest, hjoins, hclosing, crew_startTask, List.length_append, List.length_singleton]
  simp only at hsum
  omega

/-- A join that is inside can go on. -/
lemma canGoOn_inside (link : Link) (hj : r.joins[i]? = some j) (hin : j.inside = true) :
    CanGoOn link r := by
  obtain ⟨queue, stage, drained⟩ := j
  cases stage with
  | entered =>
    obtain ⟨result, b, hconsume⟩ : ∃ result b, r.desk.broker.consume r.station.relay.session queue
        r.station.relay.config.ackMode = (result, b) := ⟨_, _, rfl⟩
    cases result with
    | error e =>
      have hact : r.act link (.subscribe i) =
          some ((r.put r.station b).move i (.returned (.error e))) := by
        simp only [act, hj, hconsume]
      exact ⟨_, _, rfl, hact, rest_move (r := r.put r.station b) hj (by simp [Stage.rest])⟩
    | ok stream =>
      have hact : r.act link (.subscribe i) = some (r.giveStream i queue stream b) := by
        simp only [act, hj, hconsume]
      exact ⟨_, _, rfl, hact, rest_giveStream stream b hj⟩
  | subscribed stream =>
    cases hc : r.station.relay.closed with
    | true =>
      have hact : r.act link (.start i) =
          some ((r.put r.station (r.desk.broker.dropStream stream)).move i
            (.returned (.error
              ⟨.closed, "queue relay closed while joining '" ++ queue ++ "'"⟩))) := by
        simp only [act, hj, Relay.startConsumer_of_closed hc]
      exact ⟨_, _, rfl, hact, rest_move (r := r.put r.station _) hj (by simp [Stage.rest])⟩
    | false =>
      have hact : r.act link (.start i) = some (r.startTask i queue stream
          (r.station.relay.withConsumer queue stream) r.desk.broker) := by
        simp only [act, hj, Relay.startConsumer_of_open hc]
      exact ⟨_, _, rfl, hact, rest_startTask r.desk.broker hj⟩
  | called => cases hin
  | begun => cases hin
  | declared => cases hin
  | returned result => cases hin

/-- When nobody is inside, a join that has not returned can go on. -/
lemma canGoOn_join (link : Link) (hfree : r.isFree = true) (hj : r.joins[i]? = some j)
    (hover : j.isOver = false) : CanGoOn link r := by
  have hin := inside_of_isFree hfree hj
  obtain ⟨queue, stage, drained⟩ := j
  cases stage with
  | called =>
    suffices h : ∃ stage : Stage, stage.rest < Stage.called.rest ∧
        r.act link (.begin i) = some (r.move i stage) by
      obtain ⟨stage, hless, hact⟩ := h
      exact ⟨_, _, rfl, hact, rest_move hj hless⟩
    simp only [act, hj]
    split
    · exact ⟨_, by simp [Stage.rest], rfl⟩
    · split
      · exact ⟨_, by simp [Stage.rest], rfl⟩
      · exact ⟨_, by simp [Stage.rest], rfl⟩
  | begun =>
    suffices h : ∃ (stage : Stage) (b : Broker), stage.rest < Stage.begun.rest ∧
        r.act link (.declare i) = some ((r.put r.station b).move i stage) by
      obtain ⟨stage, b, hless, hact⟩ := h
      exact ⟨_, _, rfl, hact, rest_move (r := r.put r.station b) hj hless⟩
    simp only [act, hj]
    split
    · exact ⟨_, _, by simp [Stage.rest], rfl⟩
    · exact ⟨_, _, by simp [Stage.rest], rfl⟩
  | declared =>
    suffices h : ∃ stage : Stage, stage.rest < Stage.declared.rest ∧
        r.act link (.enter i) = some (r.move i stage) by
      obtain ⟨stage, hless, hact⟩ := h
      exact ⟨_, _, rfl, hact, rest_move hj hless⟩
    simp only [act, hj, hfree, Bool.not_true, Bool.false_eq_true, if_false]
    split
    · exact ⟨_, by simp [Stage.rest], rfl⟩
    · split
      · exact ⟨_, by simp [Stage.rest], rfl⟩
      · exact ⟨_, by simp [Stage.rest], rfl⟩
  | entered => cases hin
  | subscribed stream => cases hin
  | returned result => cases hover

/-- When no join is inside, the call that closes the relay can go on, or a consumer for which it waits
can stop. -/
lemma canGoOn_closing (h : InOrder session config r) (link : Link) (hfree : r.isFree = true)
    (hended : r.ended = false) : CanGoOn link r := by
  obtain ⟨hcrewed, -⟩ := h
  cases hc : r.closing with
  | uncalled =>
    refine ⟨_, _, rfl, act_close link hc, ?_⟩
    have hcrew : r.markClosed.crew = r.crew := rfl
    have hjoins : r.markClosed.joins = r.joins := rfl
    have hclosing : r.markClosed.closing = .called := rfl
    simp only [rest, hcrew, hjoins, hclosing, hc, Closing.rest]
    omega
  | called =>
    refine ⟨_, _, rfl, act_drain link hc hfree, ?_⟩
    have hcrew : r.takeTasks.crew = r.crew := rfl
    have hjoins : r.takeTasks.joins = r.joins := rfl
    have hclosing : r.takeTasks.closing = .waiting (r.tasks.map (·.2)) := rfl
    simp only [rest, hcrew, hjoins, hclosing, hc, Closing.rest]
    omega
  | waiting tasks =>
    cases hlive : tasks.any r.isLive with
    | false =>
      refine ⟨_, _, rfl, act_finish link hc hlive, ?_⟩
      simp only [rest, hc, Closing.rest, endSession]
      simp only [crew, put]
      omega
    | true =>
      -- a consumer that is waited for has been told to stop
      obtain ⟨stream, -, hs⟩ := List.any_eq_true.1 hlive
      obtain ⟨c, hmem, heq⟩ := (isLive_iff stream).1 hs
      have hsignal : r.signal = true :=
        hcrewed.warned (hcrewed.closed_iff.2 (by simp [hc])) (List.ne_nil_of_mem hmem)
      have hact : r.act link (.obey stream) = some (r.put
          (r.station.stopConsumer stream r.desk.broker).1
          (r.station.stopConsumer stream r.desk.broker).2) := by
        simp only [act, hs, hsignal, Bool.and_self, if_true]
      refine ⟨_, _, rfl, hact, ?_⟩
      have hless : (r.station.relay.consumers.filter (·.stream != stream)).length <
          r.station.relay.consumers.length := by
        obtain ⟨t, ht, rfl⟩ := List.mem_map.1 hmem
        refine List.length_filter_lt_length_iff_exists.2 ⟨t, ht, ?_⟩
        simpa using heq
      simp only [rest, crew, put, Station.stopConsumer, Relay.withoutConsumer, List.length_map]
      omega
  | returned result => simp [ended, hc] at hended

/-- As long as not all calls have returned, one can go on without anybody's help. -/
lemma canGoOn (h : InOrder session config r) (link : Link) (hover : r.isOver = false) :
    CanGoOn link r := by
  cases hfree : r.isFree with
  | false =>
    obtain ⟨j, hj, hin⟩ := List.all_eq_false.1 hfree
    obtain ⟨i, hi⟩ := List.getElem?_of_mem hj
    exact canGoOn_inside link hi (by simpa using hin)
  | true =>
    cases hjoins : r.joins.all Join.isOver with
    | false =>
      obtain ⟨j, hj, hnot⟩ := List.all_eq_false.1 hjoins
      obtain ⟨i, hi⟩ := List.getElem?_of_mem hj
      exact canGoOn_join link hfree hi (by simpa using hnot)
    | true =>
      refine canGoOn_closing h link hfree ?_
      simpa [isOver, hjoins] using hover

/-- All calls can return, without anybody's help. -/
lemma exists_isOver (h : InOrder session config r) (link : Link) :
    ∃ actions r', (∀ a ∈ actions, a.isOwn = true) ∧ r.run link actions = some r' ∧
      r'.isOver = true := by
  induction hn : r.rest using Nat.strong_induction_on generalizing r with
  | _ n ih =>
    cases hover : r.isOver with
    | true => exact ⟨[], r, by simp, rfl, hover⟩
    | false =>
      obtain ⟨a, r₁, hown, hact, hless⟩ := canGoOn h link hover
      obtain ⟨actions, r', howns, hrun, hend⟩ := ih r₁.rest (hn ▸ hless) (h.act hact) rfl
      refine ⟨a :: actions, r', ?_, ?_, hend⟩
      · intro a' ha'
        rcases List.mem_cons.1 ha' with rfl | ha'
        · exact hown
        · exact howns a' ha'
      · simp only [Race.run, hact]
        exact hrun

/-! ## The result -/

/-- What holds of a relay when all calls have returned: it has no consumer, no queue knows of its session,
its streams are deserted, and what failed joins had drained from a queue waits there again or was handed
to others. -/
structure Gone (session : Nat) (config : QueueConfig) (r : Race) : Prop where
  consumers : r.station.relay.consumers = []
  queues : ∀ {name : String} {q : Queue}, r.desk.broker.queue? name = some q →
    (∀ slot ∈ q.slots, slot.session ≠ session) ∧ ∀ u ∈ q.unacked, u.session ≠ session
  streams : ∀ i ∈ r.streams, r.desk.Deserted i
  drained : config.ackMode = .manual → ∀ j ∈ r.joins, j.failed = true →
    (j.drained : Multiset Bytes) ≤
      (r.desk.broker.readyOf j.queue : Multiset Bytes) + (r.passedOnOf j.queue : List Bytes)

lemma InOrder.gone (h : InOrder session config r) (hover : r.isOver = true) : Gone session config r := by
  obtain ⟨hcrewed, owner, hkept⟩ := h
  obtain ⟨hended, hjoins⟩ : r.ended = true ∧ r.joins.all Join.isOver = true := by
    simpa [isOver] using hover
  have hcrew := (hcrewed.finished hended).2
  have hclosed : r.desk.broker.isOpen session = false := by
    rw [hkept.isOpen_eq, hended]
    rfl
  refine ⟨List.map_eq_nil_iff.1 hcrew, ?_, ?_, ?_⟩
  · -- only open sessions are known to queues
    intro name q hq
    have hwithin := hkept.regular.attended name hq
    constructor
    · rintro slot hslot rfl
      rw [hwithin.slots slot hslot] at hclosed
      cases hclosed
    · rintro u hu rfl
      rw [hwithin.unacked u hu] at hclosed
      cases hclosed
  · intro i hi
    rcases hkept.tended i hi with ⟨c, hc, -⟩ | ⟨k, j, hj, hs⟩ | hd
    · rw [hcrew] at hc
      cases hc
    · have hj' := List.all_eq_true.1 hjoins j (List.mem_of_getElem? hj)
      simp [Join.isOver, hs] at hj'
    · exact hd
  · intro hm j hj hf
    obtain ⟨k, hk⟩ := List.getElem?_of_mem hj
    exact hkept.back hm hended hk hf

/-- **Joining and closing at the same time.**  A relay has a new session at a broker that was used in any
way before.  Any number of joins and one close are called at it and go on in any order, while consumers
take, settle and post messages or stop, and other clients use the broker.  At every moment no queue has
two consumers of the relay, and its session counts as one open session until it has ended and as none
afterwards; the calls can always return without anybody's help; and when they have, nothing is left of
the relay. -/
theorem join_and_close_leave_nothing (link : Link) (before : List Desk.Command) (session : Nat)
    (desk : Desk) (config : QueueConfig) (capacity : Nat) (queues : List String)
    (hconnect : (({} : Desk).run before).2.step .connect = (.session session, desk))
    (actions : List Action) (r : Race)
    (hrun : (opening desk session config capacity queues).run link actions = some r) :
    r.station.relay.joined.Nodup ∧
    r.desk.broker.openSessions =
      r.desk.broker.openOthers session + (if r.ended then 0 else 1) ∧
    (∃ more r', (∀ a ∈ more, a.isOwn = true) ∧ r.run link more = some r' ∧ r'.isOver = true) ∧
    (r.isOver = true → r.ended = true ∧ Gone session config r) := by
  have h := (inOrder_opening hconnect config capacity queues).run hrun
  have ⟨hcrewed, owner, hkept⟩ := h
  refine ⟨?_, ?_, exists_isOver h link, fun hover => ⟨?_, h.gone hover⟩⟩
  · simpa [crew, Relay.joined, List.map_map, Function.comp_def] using hcrewed.nodup
  · rw [hkept.regular.counted.openSessions_eq hkept.session_lt, hkept.isOpen_eq]
    cases r.ended <;> rfl
  · simp only [isOver, Bool.and_eq_true] at hover
    exact hover.1

/-- What was done with the broker before: another client has left two messages in a queue. -/
def stocked : List Desk.Command :=
  [.connect, .declare 0 "room", .publish 0 "room" [1], .publish 0 "room" [2]]

/-- Two joins and a close: the first join has its consumer in time, and the second gets its stream, with
the two messages in it, after the relay was marked as closed.  In the end the other client is handed
them. -/
def interrupted : List Action :=
  [.begin 0, .declare 0, .begin 1, .declare 1, .enter 0, .subscribe 0, .start 0, .awake 0, .enter 1,
    .close, .subscribe 1, .obey 0, .start 1, .drain, .finish, .others (.consume 0 "room" .manual)]

theorem join_and_close_leave_nothing_interrupted :
    ∃ desk r, (({} : Desk).run stocked).2.step .connect = (.session 1, desk) ∧
      (opening desk 1 {} 4 ["hall", "room"]).run {} interrupted = some r ∧
      (r.isOver = true ∧ (r.joins.map (·.drained)) = [[], [[1], [2]]] ∧
        r.passedOn = [("room", [1]), ("room", [2])]) ∧
      r.station.relay.joined.Nodup ∧
      r.desk.broker.openSessions = r.desk.broker.openOthers 1 + (if r.ended then 0 else 1) ∧
      (∃ more r', (∀ a ∈ more, a.isOwn = true) ∧ r.run {} more = some r' ∧ r'.isOver = true) ∧
      (r.isOver = true → r.ended = true ∧ Gone 1 {} r) := by
  have hconnect : (({} : Desk).run stocked).2.step .connect =
      (.session 1, ((({} : Desk).run stocked).2.step .connect).2) := by decide
  have hrun : ((opening ((({} : Desk).run stocked).2.step .connect).2 1 {} 4 ["hall", "room"]).run {}
      interrupted).any (fun r => r.isOver ∧ r.joins.map (·.drained) = [[], [[1], [2]]] ∧
        r.passedOn = [("room", [1]), ("room", [2])]) = true := by decide +kernel
  obtain ⟨r, hr, hend⟩ := (Option.any_eq_true _ _).1 hrun
  exact ⟨_, r, hconnect, hr, by simpa using hend,
    join_and_close_leave_nothing {} stocked 1 _ {} 4 ["hall", "room"] hconnect interrupted r hr⟩

end Race

end MessageRelay
