import MessageRelay.Proofs.Exchange.Operations
import MessageRelay.Proofs.Relay.Race

/-!
# The consumers of a relay that is joined and closed

Who is inside, which consumers there are and who knows of them (`Race.Crewed`), while joins and a close
go on in any order.  What consumers do is of one kind (`Race.Yields`): the calls stay where they are, and
the broker is used through the streams of the relay only.

Calls that nobody interrupts do what `Relay.beginJoin`, `Relay.finishJoin` and `Station.close` say
(`Race.join_uninterrupted`, `Race.close_uninterrupted`).
-/

namespace MessageRelay

namespace Desk

/-- Whether a command brings no message to a queue and hands none over. -/
def Command.isQuiet : Command → Bool
  | .next _ | .settle .. | .dropStream _ | .declare .. => true
  | .connect | .consume .. | .publish .. | .close _ | .control _ => false

end Desk

namespace Race

variable {link : Link} {r r' r'' : Race} {session : Nat} {config : QueueConfig} {owner : Nat → Nat}
  {i k : Nat} {j : Join} {stage : Stage}

/-! ## Joins -/

/-- The consumers that have not stopped, each with its queue and its stream. -/
def crew (r : Race) : List (String × Nat) :=
  r.station.relay.consumers.map fun c => (c.queue, c.stream)

/-- Whether a join has not got a stream yet. -/
def Join.isEarly (j : Join) : Bool :=
  match j.stage with
  | .called | .begun | .declared | .entered => true
  | .subscribed _ | .returned _ => false

lemma isLive_iff (stream : Nat) : r.isLive stream = true ↔ ∃ c ∈ r.crew, c.2 = stream := by
  simp [isLive, crew]

lemma move_joins (h : (r.move i stage).joins[k]? = some j) :
    (k = i ∧ ∃ j₀, r.joins[i]? = some j₀ ∧ j = { j₀ with stage }) ∨ (k ≠ i ∧ r.joins[k]? = some j) := by
  rw [move, List.getElem?_modify] at h
  cases hk : r.joins[k]? with
  | none => simp [hk] at h
  | some j₀ =>
    rw [hk] at h
    by_cases hik : i = k
    · subst hik
      refine Or.inl ⟨rfl, j₀, hk, ?_⟩
      simpa using h.symm
    · refine Or.inr ⟨Ne.symm hik, ?_⟩
      simpa [hik] using h

/-- The join that moves is known, and the others are where they were. -/
lemma move_joins_of {j₀ : Join} (hj : r.joins[i]? = some j₀) (h : (r.move i stage).joins[k]? = some j) :
    (k = i ∧ j = { j₀ with stage }) ∨ (k ≠ i ∧ r.joins[k]? = some j) := by
  rcases move_joins h with ⟨hk, j₁, hj₁, rfl⟩ | hother
  · rw [hj, Option.some.injEq] at hj₁
    exact Or.inl ⟨hk, by rw [hj₁]⟩
  · exact Or.inr hother

lemma inside_of_isFree (h : r.isFree = true) (hj : r.joins[i]? = some j) : j.inside = false := by
  have hall := List.all_eq_true.1 h j (List.mem_of_getElem? hj)
  simpa using hall

lemma isFree_eq_false (hj : r.joins[i]? = some j) (hin : j.inside = true) : r.isFree = false := by
  by_contra hfree
  rw [Bool.not_eq_false] at hfree
  rw [inside_of_isFree hfree hj] at hin
  cases hin

lemma isFree_iff :
    r.isFree = true ↔ ∀ {i : Nat} {j : Join}, r.joins[i]? = some j → j.inside = false := by
  constructor
  · intro h i j hj
    exact inside_of_isFree h hj
  · intro h
    refine List.all_eq_true.2 fun j hj => ?_
    obtain ⟨i, hi⟩ := List.getElem?_of_mem hj
    simp [h hi]

lemma isFree_move (h : r.isFree = true) (hs : ∀ j : Join, { j with stage }.inside = false) :
    (r.move i stage).isFree = true := by
  rw [isFree_iff] at h ⊢
  intro k j hj
  rcases move_joins hj with ⟨-, j₀, -, rfl⟩ | ⟨-, hj⟩
  · exact hs j₀
  · exact h hj

/-! ## What consumers do -/

/-- Those who wait for a place in the mailbox, or were given one, are consumers that have not
stopped. -/
def Posters (r : Race) : Prop :=
  ∀ p ∈ r.station.mailbox.waiting ++ r.station.mailbox.granted, ∃ c ∈ r.crew, p.1 = .consumer c.2

/-- `r'` is `r` after consumers have gone on or stopped, or the user has looked into the mailbox: the
calls are where they were, and the broker was used only through the streams `mine`. -/
structure Yields (mine : Nat → Prop) (r r' : Race) : Prop where
  joins_eq : r'.joins = r.joins
  closing_eq : r'.closing = r.closing
  tasks_eq : r'.tasks = r.tasks
  signal_eq : r'.signal = r.signal
  streams_eq : r'.streams = r.streams
  passedOn_eq : r'.passedOn = r.passedOn
  session_eq : r'.station.relay.session = r.station.relay.session
  config_eq : r'.station.relay.config = r.station.relay.config
  closed_eq : r'.station.relay.closed = r.station.relay.closed
  crew : r'.crew.Sublist r.crew
  /-- Who has stopped has dropped his stream. -/
  lost : ∀ c ∈ r.crew, c ∉ r'.crew → c.2 < r.desk.broker.streams.length → r'.desk.Deserted c.2
  posters : r.Posters → r'.Posters
  works : Desk.Works (fun c => c.isQuiet = true ∧ ∀ i, c = .next i ∨ c = .dropStream i → mine i)
    r.desk r'.desk

variable {mine : Nat → Prop}

lemma Yields.trans (h : Yields mine r r') (h' : Yields mine r' r'') : Yields mine r r'' where
  joins_eq := h'.joins_eq.trans h.joins_eq
  closing_eq := h'.closing_eq.trans h.closing_eq
  tasks_eq := h'.tasks_eq.trans h.tasks_eq
  signal_eq := h'.signal_eq.trans h.signal_eq
  streams_eq := h'.streams_eq.trans h.streams_eq
  passedOn_eq := h'.passedOn_eq.trans h.passedOn_eq
  session_eq := h'.session_eq.trans h.session_eq
  config_eq := h'.config_eq.trans h.config_eq
  closed_eq := h'.closed_eq.trans h.closed_eq
  crew := h'.crew.trans h.crew
  lost c hc hnot hlt := by
    by_cases hmid : c ∈ r'.crew
    · exact h'.lost c hmid hnot (Nat.lt_of_lt_of_le hlt (Desk.Works.wider h.works).1)
    · exact Desk.Works.deserted (h.lost c hc hmid hlt) h'.works
  posters hp := h'.posters (h.posters hp)
  works := h.works.trans h'.works

/-- The consumers stay, and only the mailbox changes. -/
lemma yields_mailbox {m : Mailbox}
    (hm : ∀ p ∈ m.waiting ++ m.granted,
      p ∈ r.station.mailbox.waiting ++ r.station.mailbox.granted ∨ ∃ c ∈ r.crew, p.1 = .consumer c.2) :
    Yields mine r { r with station := { r.station with mailbox := m } } where
  joins_eq := rfl
  closing_eq := rfl
  tasks_eq := rfl
  signal_eq := rfl
  streams_eq := rfl
  passedOn_eq := rfl
  session_eq := rfl
  config_eq := rfl
  closed_eq := rfl
  crew := List.Sublist.refl _
  lost c hc hnot := absurd hc hnot
  posters hp p hmem := by
    rcases hm p hmem with hold | hnew
    · exact hp p hold
    · exact hnew
  works := .refl

/-- A consumer takes a message and settles it. -/
lemma yields_settle {stream : Nat} {d : Delivery} {b : Broker} (hmine : mine stream)
    (hpoll : r.desk.broker.poll stream = (.delivery d, b)) :
    Yields mine r (r.put r.station (Relay.settle b d).2) where
  joins_eq := rfl
  closing_eq := rfl
  tasks_eq := rfl
  signal_eq := rfl
  streams_eq := rfl
  passedOn_eq := rfl
  session_eq := rfl
  config_eq := rfl
  closed_eq := rfl
  crew := List.Sublist.refl _
  lost c hc hnot := absurd hc hnot
  posters hp := hp
  works := by
    refine Desk.works_settle (i := stream) (v := (Relay.eventOf d.payload).2) ⟨rfl, ?_⟩
      (fun n => ⟨rfl, ?_⟩) hpoll
    · rintro i (h | h) <;> cases h
      exact hmine
    · rintro i (h | h) <;> cases h

/-- A consumer stops. -/
lemma yields_stop (r : Race) {stream : Nat} (hmine : mine stream) :
    Yields mine r (r.put (r.station.stopConsumer stream r.desk.broker).1
      (r.station.stopConsumer stream r.desk.broker).2) where
  joins_eq := rfl
  closing_eq := rfl
  tasks_eq := rfl
  signal_eq := rfl
  streams_eq := rfl
  passedOn_eq := rfl
  session_eq := rfl
  config_eq := rfl
  closed_eq := rfl
  crew := List.filter_sublist.map _
  lost c hc hnot hlt := by
    have hstream : c.2 = stream := by
      by_contra hne
      obtain ⟨t, ht, rfl⟩ := List.mem_map.1 hc
      exact hnot (List.mem_map.2 ⟨t, List.mem_filter.2 ⟨ht, by simpa using hne⟩, rfl⟩)
    subst hstream
    exact Desk.deserted_dropStream r.desk hlt
  posters hp p hmem := by
    have hmem' : p ∈ r.station.mailbox.waiting ++ r.station.mailbox.granted ∧
        p.1 ≠ .consumer stream := by
      simpa [put, Station.stopConsumer, Mailbox.forget, List.mem_append, ← or_and_right] using hmem
    obtain ⟨c, hc, heq⟩ := hp p hmem'.1
    refine ⟨c, ?_, heq⟩
    obtain ⟨t, ht, rfl⟩ := List.mem_map.1 hc
    refine List.mem_map.2 ⟨t, List.mem_filter.2 ⟨ht, ?_⟩, rfl⟩
    have hne : t.stream ≠ stream := by
      intro h
      exact hmem'.2 (by rw [heq, ← h])
    simpa using hne
  works := by
    refine Desk.works_command (.dropStream stream) ⟨rfl, ?_⟩
    rintro i (h | h) <;> cases h
    exact hmine

lemma yields_refl (mine : Nat → Prop) (r : Race) : Yields mine r r := by
  have h : Yields mine r { r with station := { r.station with mailbox := r.station.mailbox } } :=
    yields_mailbox fun p hp => Or.inl hp
  exact h

/-- A consumer looks once for a message. -/
lemma yields_serve {stream : Nat} (hlive : r.isLive stream = true) (hmine : mine stream) :
    Yields mine r (r.put (Station.consume stream 1 r.station r.desk.broker).1
      (Station.consume stream 1 r.station r.desk.broker).2) := by
  obtain ⟨c, hc, hstream⟩ := (isLive_iff stream).1 hlive
  rcases Broker.poll_cases r.desk.broker stream with
    (hp | hp) | ⟨s, tag, payload, rest, -, -, hp⟩
  · simp only [Station.consume, hp]
    exact yields_refl mine r
  · simp only [Station.consume, hp]
    exact yields_stop r hmine
  · have hsettle := yields_settle (r := r) hmine hp
    unfold Station.consume
    rw [hp]
    simp only
    cases hoffer : r.station.mailbox.offer (.consumer stream)
        (Relay.settle (r.desk.broker.modifyStream stream Stream.behead)
          ⟨s.queue, tag, payload, s.mode = .manual⟩).1 with
    | posted m =>
      obtain ⟨-, -, rfl⟩ := Mailbox.offer_eq_posted hoffer
      exact hsettle.trans (yields_mailbox fun p hp => Or.inl hp)
    | waits m =>
      obtain ⟨-, -, rfl⟩ := Mailbox.offer_eq_waits hoffer
      refine hsettle.trans (yields_mailbox fun p hp => ?_)
      simp only [List.mem_append, List.mem_singleton] at hp
      rcases hp with (hp | rfl) | hp
      · exact Or.inl (List.mem_append_left _ hp)
      · exact Or.inr ⟨c, hc, by rw [hstream]⟩
      · exact Or.inl (List.mem_append_right _ hp)
    | refused => exact hsettle.trans (yields_stop _ hmine)

lemma yields_stopConsumers (r : Race) (streams : List Nat) (hmine : ∀ i ∈ streams, mine i) :
    Yields mine r (r.put (r.station.stopConsumers streams r.desk.broker).1
      (r.station.stopConsumers streams r.desk.broker).2) := by
  induction streams generalizing r with
  | nil => exact yields_refl mine r
  | cons stream rest ih =>
    have hfirst := yields_stop r (hmine stream List.mem_cons_self)
    exact hfirst.trans (ih _ fun i hi => hmine i (List.mem_cons_of_mem _ hi))

/-! ## The relay -/

/-- Who is inside, which consumers there are, and who knows of them. -/
structure Crewed (r : Race) : Prop where
  closed_iff : r.station.relay.closed = true ↔ r.closing ≠ .uncalled
  /-- No queue has two consumers. -/
  nodup : (r.crew.map (·.1)).Nodup
  /-- A join that is inside is alone there. -/
  alone : ∀ {i k : Nat} {j l : Join}, r.joins[i]? = some j → r.joins[k]? = some l →
    j.inside = true → l.inside = true → i = k
  /-- The queue of a join that is inside has no consumer. -/
  unjoined : ∀ {i : Nat} {j : Join}, r.joins[i]? = some j → j.inside = true →
    ∀ c ∈ r.crew, c.1 ≠ j.queue
  /-- Until the list is taken, all consumers are on it. -/
  known : r.closing = .uncalled ∨ r.closing = .called → r.crew ⊆ r.tasks
  /-- Who closes the relay waits for all consumers there are. -/
  awaited : ∀ {tasks : List Nat}, r.closing = .waiting tasks →
    r.isFree = true ∧ ∀ c ∈ r.crew, c.2 ∈ tasks
  /-- When the session has ended there are none. -/
  finished : r.ended = true → r.isFree = true ∧ r.crew = []
  /-- The consumers of a relay that is closed have been told to stop. -/
  warned : r.station.relay.closed = true → r.crew ≠ [] → r.signal = true
  posters : r.Posters

lemma closing_of_not_closed (h : Crewed r) (hc : r.station.relay.closed = false) :
    r.closing = .uncalled := by
  by_contra hne
  rw [h.closed_iff.2 hne] at hc
  cases hc

lemma not_ended_of_uncalled (h : r.closing = .uncalled) : r.ended = false := by
  rw [ended, h]

/-- As long as a join is inside the session does not end. -/
lemma Crewed.ended_eq_false (h : Crewed r) (hj : r.joins[i]? = some j) (hin : j.inside = true) :
    r.ended = false := by
  by_contra hended
  rw [Bool.not_eq_false] at hended
  have hfree := (h.finished hended).1
  rw [isFree_eq_false hj hin] at hfree
  cases hfree

/-- Who has a stream in his hands is the one who is inside. -/
lemma Crewed.eq_of_subscribed (h : Crewed r) {l : Join} {stream : Nat} (hj : r.joins[i]? = some j)
    (hin : j.inside = true) (hl : r.joins[k]? = some l) (hs : l.stage = .subscribed stream) : k = i :=
  h.alone hl hj (by simp [Join.inside, hs]) hin

lemma Crewed.yields (h : Crewed r) (hy : Yields mine r r') : Crewed r' := by
  have hfree : r'.isFree = r.isFree := by rw [isFree, hy.joins_eq, isFree]
  have hsub : r'.crew ⊆ r.crew := hy.crew.subset
  refine
    { closed_iff := by rw [hy.closed_eq, hy.closing_eq]; exact h.closed_iff
      nodup := h.nodup.sublist (hy.crew.map _)
      alone := by rw [hy.joins_eq]; exact h.alone
      unjoined := by
        rw [hy.joins_eq]
        exact fun hj hin c hc => h.unjoined hj hin c (hsub hc)
      known := by
        rw [hy.closing_eq, hy.tasks_eq]
        exact fun hc => List.Subset.trans hsub (h.known hc)
      awaited := ?_
      finished := ?_
      warned := ?_
      posters := hy.posters h.posters }
  · intro tasks hc
    rw [hy.closing_eq] at hc
    rw [hfree]
    exact ⟨(h.awaited hc).1, fun c hc' => (h.awaited hc).2 c (hsub hc')⟩
  · intro he
    rw [ended, hy.closing_eq] at he
    have hfin := h.finished he
    refine ⟨by rw [hfree]; exact hfin.1, ?_⟩
    exact List.eq_nil_of_subset_nil (hfin.2 ▸ hsub)
  · intro hc hne
    rw [hy.closed_eq] at hc
    rw [hy.signal_eq]
    refine h.warned hc ?_
    intro hnil
    exact hne (List.eq_nil_of_subset_nil (hnil ▸ hsub))

/-- A join that does not go inside. -/
lemma Crewed.move (h : Crewed r) (hs : ∀ j : Join, { j with stage }.inside = false) :
    Crewed (r.move i stage) where
  closed_iff := h.closed_iff
  nodup := h.nodup
  alone {k l j j'} hj hj' hin hin' := by
    rcases move_joins hj with ⟨-, j₀, -, rfl⟩ | ⟨-, hj⟩
    · rw [hs] at hin
      cases hin
    · rcases move_joins hj' with ⟨-, j₀, -, rfl⟩ | ⟨-, hj'⟩
      · rw [hs] at hin'
        cases hin'
      · exact h.alone hj hj' hin hin'
  unjoined {k j} hj hin := by
    rcases move_joins hj with ⟨-, j₀, -, rfl⟩ | ⟨-, hj⟩
    · rw [hs] at hin
      cases hin
    · exact h.unjoined hj hin
  known := h.known
  awaited hc := ⟨isFree_move (h.awaited hc).1 hs, (h.awaited hc).2⟩
  finished he := ⟨isFree_move (h.finished he).1 hs, (h.finished he).2⟩
  warned := h.warned
  posters := h.posters

/-- Only the broker changes. -/
lemma Crewed.put (h : Crewed r) (b : Broker) : Crewed (r.put r.station b) :=
  ⟨h.closed_iff, h.nodup, h.alone, h.unjoined, h.known, h.awaited, h.finished, h.warned, h.posters⟩

/-- A join goes inside when nobody is there, the relay is open, and its queue has no consumer. -/
lemma Crewed.enter (h : Crewed r) {queue : String} {drained : List Bytes}
    (hj : r.joins[i]? = some ⟨queue, .declared, drained⟩) (hfree : r.isFree = true)
    (htasks : (r.tasks.any fun t => t.1 == queue && r.isLive t.2) = false)
    (hc : r.station.relay.closed = false) : Crewed (r.move i .entered) := by
  have huncalled := closing_of_not_closed h hc
  have hqueue : ∀ c ∈ r.crew, c.1 ≠ queue := by
    intro c hmem heq
    have hlive : r.isLive c.2 = true := (isLive_iff c.2).2 ⟨c, hmem, rfl⟩
    have hany : (r.tasks.any fun t => t.1 == queue && r.isLive t.2) = true :=
      List.any_eq_true.2 ⟨c, h.known (Or.inl huncalled) hmem, by simp [heq, hlive]⟩
    rw [htasks] at hany
    cases hany
  refine
    { closed_iff := h.closed_iff
      nodup := h.nodup
      alone := ?_
      unjoined := ?_
      known := h.known
      awaited := fun hw => ?_
      finished := fun he => ?_
      warned := h.warned
      posters := h.posters }
  · intro k l j j' hk hl hin hin'
    rcases move_joins hk with ⟨rfl, -⟩ | ⟨-, hk⟩
    · rcases move_joins hl with ⟨rfl, -⟩ | ⟨-, hl⟩
      · rfl
      · rw [inside_of_isFree hfree hl] at hin'
        cases hin'
    · rw [inside_of_isFree hfree hk] at hin
      cases hin
  · intro k j hk hin
    rcases move_joins_of hj hk with ⟨rfl, rfl⟩ | ⟨-, hk⟩
    · exact hqueue
    · rw [inside_of_isFree hfree hk] at hin
      cases hin
  · have hsame : (r.move i .entered).closing = r.closing := rfl
    rw [hsame, huncalled] at hw
    cases hw
  · have hsame : (r.move i .entered).ended = r.ended := rfl
    rw [hsame, not_ended_of_uncalled huncalled] at he
    cases he

lemma set_joins {new : Join} (h : (r.joins.set i new)[k]? = some j) :
    (k = i ∧ j = new) ∨ (k ≠ i ∧ r.joins[k]? = some j) := by
  rw [List.getElem?_set] at h
  split at h
  · next hik =>
    split at h
    · exact Or.inl ⟨hik.symm, by simpa using h.symm⟩
    · cases h
  · next hik => exact Or.inr ⟨Ne.symm hik, h⟩

/-- A join that is inside gets its stream. -/
lemma Crewed.giveStream (h : Crewed r) {queue : String} {drained : List Bytes}
    (hj : r.joins[i]? = some ⟨queue, .entered, drained⟩) (stream : Nat) (b : Broker) :
    Crewed (r.giveStream i queue stream b) := by
  -- whoever was inside still is, and nobody else
  have hold : ∀ {k : Nat} {l : Join}, (r.giveStream i queue stream b).joins[k]? = some l →
      l.inside = true → ∃ l', r.joins[k]? = some l' ∧ l'.queue = l.queue ∧ l'.inside = true := by
    intro k l hl hin
    rcases set_joins hl with ⟨rfl, rfl⟩ | ⟨-, hl⟩
    · exact ⟨_, hj, rfl, rfl⟩
    · exact ⟨l, hl, rfl, hin⟩
  have hfree : r.isFree = false := isFree_eq_false hj rfl
  refine
    { closed_iff := h.closed_iff
      nodup := h.nodup
      alone := ?_
      unjoined := ?_
      known := h.known
      awaited := fun hw => ?_
      finished := fun he => ?_
      warned := h.warned
      posters := h.posters }
  · intro k l j j' hk hl hin hin'
    obtain ⟨j₀, hj₀, -, hin₀⟩ := hold hk hin
    obtain ⟨l₀, hl₀, -, hin₁⟩ := hold hl hin'
    exact h.alone hj₀ hl₀ hin₀ hin₁
  · intro k j hk hin
    obtain ⟨j₀, hj₀, hqueue, hin₀⟩ := hold hk hin
    rw [← hqueue]
    exact h.unjoined hj₀ hin₀
  · have := (h.awaited hw).1
    rw [hfree] at this
    cases this
  · have he' : r.ended = true := he
    rw [h.ended_eq_false hj rfl] at he'
    cases he'

lemma crew_startTask (r : Race) (i : Nat) (queue : String) (stream : Nat) (b : Broker) :
    (r.startTask i queue stream (r.station.relay.withConsumer queue stream) b).crew =
      r.crew ++ [(queue, stream)] :=
  List.map_append

/-- A join that is inside starts its consumer. -/
lemma Crewed.startTask (h : Crewed r) {queue : String} {drained : List Bytes} {stream : Nat}
    (hj : r.joins[i]? = some ⟨queue, .subscribed stream, drained⟩)
    (hc : r.station.relay.closed = false) (b : Broker) :
    Crewed (r.startTask i queue stream (r.station.relay.withConsumer queue stream) b) := by
  have huncalled := closing_of_not_closed h hc
  have hnew : ∀ c ∈ r.crew, c.1 ≠ queue := h.unjoined hj rfl
  have hcrew : (r.startTask i queue stream (r.station.relay.withConsumer queue stream) b).crew =
      r.crew ++ [(queue, stream)] := crew_startTask r i queue stream b
  have hmem : ∀ {k : Nat} {l : Join}, (r.move i (.returned (.ok ()))).joins[k]? = some l →
      l.inside = true → k ≠ i ∧ r.joins[k]? = some l := by
    intro k l hl hin
    rcases move_joins hl with ⟨-, l₀, -, rfl⟩ | hl
    · cases hin
    · exact hl
  refine
    { closed_iff := h.closed_iff
      nodup := ?_
      alone := ?_
      unjoined := ?_
      known := ?_
      awaited := fun hw => ?_
      finished := fun he => ?_
      warned := fun hclosed => ?_
      posters := ?_ }
  · rw [hcrew, List.map_append, List.nodup_append]
    refine ⟨h.nodup, by simp, ?_⟩
    intro a ha a' ha'
    obtain ⟨c, hc, rfl⟩ := List.mem_map.1 ha
    rw [List.mem_singleton.1 ha']
    exact hnew c hc
  · intro k l j j' hk hl hin hin'
    exact h.alone (hmem hk hin).2 (hmem hl hin').2 hin hin'
  · -- nobody else is inside
    intro k j hk hin
    obtain ⟨hne, hk⟩ := hmem hk hin
    exact absurd (h.alone hk hj hin rfl) hne
  · intro _ c hc
    rw [hcrew, List.mem_append, List.mem_singleton] at hc
    rcases hc with hc | rfl
    · refine List.mem_cons_of_mem _ (List.mem_filter.2 ⟨h.known (Or.inl huncalled) hc, ?_⟩)
      simpa using hnew c hc
    · exact List.mem_cons_self
  · have hw' : r.closing = _ := hw
    rw [huncalled] at hw'
    cases hw'
  · have he' : r.ended = true := he
    rw [not_ended_of_uncalled huncalled] at he'
    cases he'
  · have hclosed' : r.station.relay.closed = true := hclosed
    rw [hc] at hclosed'
    cases hclosed'
  · intro p hp
    obtain ⟨c, hc, heq⟩ := h.posters p hp
    refine ⟨c, ?_, heq⟩
    rw [hcrew]
    exact List.mem_append_left _ hc

/-- The relay is marked as closed, and the consumers are told. -/
lemma Crewed.markClosed (h : Crewed r) (hc : r.closing = .uncalled) : Crewed r.markClosed where
  closed_iff := ⟨fun _ => by simp [Race.markClosed], fun _ => rfl⟩
  nodup := h.nodup
  alone := h.alone
  unjoined := h.unjoined
  known _ := h.known (Or.inl hc)
  awaited hw := by cases hw
  finished he := by cases he
  warned _ hne := by
    have hcons : r.station.relay.consumers.isEmpty = false := by
      rw [List.isEmpty_eq_false_iff]
      intro hnil
      exact hne (by simp [crew, Race.markClosed, Station.markClosed, hnil])
    simp [Race.markClosed, hcons]
  posters := h.posters

lemma Crewed.takeTasks (h : Crewed r) (hc : r.closing = .called) (hfree : r.isFree = true) :
    Crewed r.takeTasks where
  closed_iff := ⟨fun _ => by simp [Race.takeTasks], fun _ => h.closed_iff.2 (by simp [hc])⟩
  nodup := h.nodup
  alone := h.alone
  unjoined := h.unjoined
  known hw := by rcases hw with hw | hw <;> cases hw
  awaited hw := by
    cases hw
    exact ⟨hfree, fun c hmem => List.mem_map.2 ⟨c, h.known (Or.inr hc) hmem, rfl⟩⟩
  finished he := by cases he
  warned := h.warned
  posters := h.posters

/-- The session ends when all consumers have stopped that there were. -/
lemma Crewed.endSession (h : Crewed r) {tasks : List Nat} (hc : r.closing = .waiting tasks)
    (hlive : tasks.any r.isLive = false) (result : Except RelayError Unit) (b : Broker) :
    Crewed (r.endSession result b) where
  closed_iff := ⟨fun _ => by simp [Race.endSession], fun _ => h.closed_iff.2 (by simp [hc])⟩
  nodup := h.nodup
  alone := h.alone
  unjoined := h.unjoined
  known hw := by rcases hw with hw | hw <;> cases hw
  awaited hw := by cases hw
  finished _ := by
    refine ⟨(h.awaited hc).1, ?_⟩
    apply List.eq_nil_iff_forall_not_mem.2
    intro c hmem
    have hany : tasks.any r.isLive = true := List.any_eq_true.2
      ⟨c.2, (h.awaited hc).2 c hmem, (isLive_iff c.2).2 ⟨c, hmem, rfl⟩⟩
    rw [hlive] at hany
    cases hany
  warned := h.warned
  posters := h.posters

/-! ## Calls that nobody interrupts -/

lemma run_cons {a : Action} {rest : List Action} (h : r.act link a = some r') :
    r.run link (a :: rest) = r'.run link rest := by
  rw [Race.run, h]

lemma move_joins_self (h : r.joins[i]? = some j) (stage : Stage) :
    (r.move i stage).joins[i]? = some { j with stage } := by
  simp [move, h]

/-- What a join comes to, if its parts follow each other. -/
def joinAtOnce (link : Link) (relay : Relay) (queue : String) (b : Broker) :
    Except RelayError Unit × Relay × Broker :=
  match relay.beginJoin link queue b with
  | (.error e, b') => (.error e, relay, b')
  | (.ok (), b') => relay.finishJoin queue b'

/-- The join has returned, and the relay and the broker are as `outcome` says. -/
def Joined (r : Race) (i : Nat) (outcome : Except RelayError Unit × Relay × Broker) : Prop :=
  r.joins[i]?.map (·.stage) = some (.returned outcome.1) ∧ r.station.relay = outcome.2.1 ∧
    r.desk.broker = outcome.2.2

lemma joined_move (h : r.joins[i]? = some j) (result : Except RelayError Unit) :
    (r.move i (.returned result)).Joined i (result, r.station.relay, r.desk.broker) :=
  ⟨by rw [move_joins_self h]; rfl, rfl, rfl⟩

/-- A join that has its stream starts its consumer, or finds the relay closed. -/
lemma start_uninterrupted (link : Link) {queue : String} {stream : Nat} {drained : List Bytes}
    (hj : r.joins[i]? = some ⟨queue, .subscribed stream, drained⟩) :
    ∃ r', r.run link [.start i] = some r' ∧
      r'.Joined i (r.station.relay.startConsumer queue stream r.desk.broker) := by
  cases hc : r.station.relay.closed with
  | true =>
    rw [Relay.startConsumer_of_closed hc]
    have hact : r.act link (.start i) = some ((r.put r.station (r.desk.broker.dropStream stream)).move i
        (.returned (.error ⟨.closed, "queue relay closed while joining '" ++ queue ++ "'"⟩))) := by
      simp only [act, hj, Relay.startConsumer_of_closed hc]
    exact ⟨_, run_cons hact,
      joined_move (r := r.put r.station (r.desk.broker.dropStream stream)) hj _⟩
  | false =>
    rw [Relay.startConsumer_of_open hc]
    have hact : r.act link (.start i) = some (r.startTask i queue stream
        (r.station.relay.withConsumer queue stream) r.desk.broker) := by
      simp only [act, hj, Relay.startConsumer_of_open hc]
    refine ⟨_, run_cons hact, ?_, rfl, rfl⟩
    have hmove := move_joins_self hj (.returned (.ok ()))
    exact congrArg (Option.map (·.stage)) hmove

/-- A join whose queue is declared goes on to its end. -/
lemma finishJoin_uninterrupted (link : Link) {queue : String} {drained : List Bytes}
    (hfree : r.isFree = true) (hj : r.joins[i]? = some ⟨queue, .declared, drained⟩)
    (htasks : (r.tasks.any fun t => t.1 == queue && r.isLive t.2) = r.station.relay.hasJoined queue) :
    ∃ actions r', r.run link actions = some r' ∧
      r'.Joined i (r.station.relay.finishJoin queue r.desk.broker) := by
  simp only [Relay.finishJoin, Relay.subscribe]
  cases hjoined : r.station.relay.hasJoined queue with
  | true =>
    have hact : r.act link (.enter i) = some (r.move i (.returned (.ok ()))) := by
      simp only [act, hj, hfree, htasks, hjoined, Bool.not_true, Bool.false_eq_true, if_false, if_true]
    exact ⟨[.enter i], _, run_cons hact, joined_move hj _⟩
  | false =>
    cases hc : r.station.relay.closed with
    | true =>
      have hact : r.act link (.enter i) =
          some (r.move i (.returned (.error (Relay.closedError "join")))) := by
        simp only [act, hj, hfree, htasks, hjoined, hc, Bool.not_true, Bool.false_eq_true, if_false,
          if_true]
      exact ⟨[.enter i], _, run_cons hact, joined_move hj _⟩
    | false =>
      have henter : r.act link (.enter i) = some (r.move i .entered) := by
        simp only [act, hj, hfree, htasks, hjoined, hc, Bool.not_true, Bool.false_eq_true, if_false]
      have hentered := move_joins_self hj .entered
      simp only [Bool.false_eq_true, if_false]
      obtain ⟨result, b, hconsume⟩ : ∃ result b, r.desk.broker.consume r.station.relay.session queue
          r.station.relay.config.ackMode = (result, b) := ⟨_, _, rfl⟩
      have hconsume' : (r.move i .entered).desk.broker.consume (r.move i .entered).station.relay.session
          queue (r.move i .entered).station.relay.config.ackMode = (result, b) := hconsume
      cases result with
      | error e =>
        have hact : (r.move i .entered).act link (.subscribe i) =
            some (((r.move i .entered).put r.station b).move i (.returned (.error e))) := by
          simp only [act, hentered, hconsume']
          rfl
        refine ⟨[.enter i, .subscribe i], _, (run_cons henter).trans (run_cons hact), ?_⟩
        rw [hconsume]
        exact joined_move (r := (r.move i .entered).put r.station b) hentered _
      | ok stream =>
        have hact : (r.move i .entered).act link (.subscribe i) =
            some ((r.move i .entered).giveStream i queue stream b) := by
          simp only [act, hentered, hconsume']
        have hgiven : ((r.move i .entered).giveStream i queue stream b).joins[i]? =
            some ⟨queue, .subscribed stream, r.desk.broker.readyOf queue⟩ :=
          List.getElem?_set_self (List.getElem?_eq_some_iff.1 hentered).1
        obtain ⟨r', hrun, hr'⟩ := start_uninterrupted link hgiven
        refine ⟨[.enter i, .subscribe i, .start i], r', ?_, ?_⟩
        · rw [run_cons henter, run_cons hact, hrun]
        · rw [hconsume]
          exact hr'

/-- **A join that nobody interrupts** does what `Relay.beginJoin` and `Relay.finishJoin` do. -/
theorem join_uninterrupted (link : Link) {queue : String} {drained : List Bytes}
    (hfree : r.isFree = true) (hj : r.joins[i]? = some ⟨queue, .called, drained⟩)
    (htasks : (r.tasks.any fun t => t.1 == queue && r.isLive t.2) = r.station.relay.hasJoined queue) :
    ∃ actions r', r.run link actions = some r' ∧
      r'.Joined i (joinAtOnce link r.station.relay queue r.desk.broker) := by
  simp only [joinAtOnce, Relay.beginJoin]
  cases hc : r.station.relay.closed with
  | true =>
    have hact : r.act link (.begin i) =
        some (r.move i (.returned (.error (Relay.closedError "join")))) := by
      simp only [act, hj, hc, if_true]
    exact ⟨[.begin i], _, run_cons hact, joined_move hj _⟩
  | false =>
    simp only [Bool.false_eq_true, if_false]
    cases hname : QueueName.validate queue with
    | error e =>
      have hact : r.act link (.begin i) = some (r.move i (.returned (.error e))) := by
        simp only [act, hj, hc, hname, Bool.false_eq_true, if_false]
      exact ⟨[.begin i], _, run_cons hact, joined_move hj _⟩
    | ok =>
      have hbegin : r.act link (.begin i) = some (r.move i .begun) := by
        simp only [act, hj, hc, hname, Bool.false_eq_true, if_false]
      have hbegun := move_joins_self hj .begun
      simp only
      obtain ⟨result, b, hdeclare⟩ : ∃ result b,
          link.declare r.station.relay.session queue r.desk.broker = (result, b) := ⟨_, _, rfl⟩
      have hdeclare' : link.declare (r.move i .begun).station.relay.session queue
          (r.move i .begun).desk.broker = (result, b) := hdeclare
      cases result with
      | error e =>
        have hact : (r.move i .begun).act link (.declare i) =
            some (((r.move i .begun).put r.station b).move i (.returned (.error e))) := by
          simp only [act, hbegun, hdeclare']
          rfl
        refine ⟨[.begin i, .declare i], _, (run_cons hbegin).trans (run_cons hact), ?_⟩
        rw [hdeclare]
        exact joined_move (r := (r.move i .begun).put r.station b) hbegun _
      | ok =>
        have hact : (r.move i .begun).act link (.declare i) =
            some (((r.move i .begun).put r.station b).move i .declared) := by
          simp only [act, hbegun, hdeclare']
          rfl
        have hdeclared := move_joins_self (r := (r.move i .begun).put r.station b) hbegun
          .declared
        have hfree' : (((r.move i .begun).put r.station b).move i .declared).isFree = true :=
          isFree_move (isFree_move hfree fun _ => rfl) fun _ => rfl
        obtain ⟨actions, r', hrun, hr'⟩ := finishJoin_uninterrupted link hfree' hdeclared htasks
        refine ⟨.begin i :: .declare i :: actions, r', ?_, ?_⟩
        · rw [run_cons hbegin, run_cons hact, hrun]
        · rw [hdeclare]
          exact hr'

/-- Consumers that were told to stop do so one after the other. -/
lemma obey_all (link : Link) {streams : List Nat} (hnodup : streams.Nodup)
    (hlive : ∀ stream ∈ streams, r.isLive stream = true) (hsignal : r.signal = true) :
    r.run link (streams.map .obey) =
      some (r.put (r.station.stopConsumers streams r.desk.broker).1
        (r.station.stopConsumers streams r.desk.broker).2) := by
  induction streams generalizing r with
  | nil => rfl
  | cons stream rest ih =>
    have hact : r.act link (.obey stream) = some (r.put
        (r.station.stopConsumer stream r.desk.broker).1
        (r.station.stopConsumer stream r.desk.broker).2) := by
      simp only [act, hlive stream List.mem_cons_self, hsignal, Bool.and_self, if_true]
    rw [List.map_cons, run_cons hact]
    rw [List.nodup_cons] at hnodup
    refine ih hnodup.2 ?_ hsignal
    -- the others are still there
    intro other hother
    obtain ⟨c, hc, heq⟩ := List.any_eq_true.1 (hlive other (List.mem_cons_of_mem _ hother))
    refine List.any_eq_true.2 ⟨c, List.mem_filter.2 ⟨hc, ?_⟩, heq⟩
    have hne : c.stream ≠ stream := by
      intro h
      rw [beq_iff_eq, h] at heq
      exact hnodup.1 (heq ▸ hother)
    simpa using hne

lemma run_append {as bs : List Action} (h : r.run link as = some r') :
    r.run link (as ++ bs) = r'.run link bs := by
  induction as generalizing r with
  | nil => cases h; rfl
  | cons a rest ih =>
    rw [Race.run] at h
    split at h
    · next r₁ hact =>
      rw [List.cons_append, run_cons hact]
      exact ih h
    · cases h

lemma act_close (link : Link) (h : r.closing = .uncalled) : r.act link .close = some r.markClosed := by
  simp only [act, h]

lemma act_drain (link : Link) (h : r.closing = .called) (hfree : r.isFree = true) :
    r.act link .drain = some r.takeTasks := by
  simp only [act, h, hfree, if_true]

lemma act_finish (link : Link) {tasks : List Nat} (h : r.closing = .waiting tasks)
    (hlive : tasks.any r.isLive = false) :
    r.act link .finish =
      some (r.endSession (link.close r.station.relay.session r.desk.broker).1
        (link.close r.station.relay.session r.desk.broker).2) := by
  simp only [act, h, hlive, Bool.false_eq_true, if_false]

/-- **A close that nobody interrupts** does what `Station.close` does. -/
theorem close_uninterrupted (link : Link) (h : Crewed r) (hfree : r.isFree = true)
    (hclosing : r.closing = .uncalled)
    (hnodup : (r.station.relay.consumers.map (·.stream)).Nodup) :
    ∃ actions r', r.run link actions = some r' ∧
      r'.closing = .returned (r.station.close link r.desk.broker).1 ∧
      r'.station = (r.station.close link r.desk.broker).2.1 ∧
      r'.desk.broker = (r.station.close link r.desk.broker).2.2 := by
  have hclosed : r.station.relay.closed = false := by
    rw [← Bool.not_eq_true, h.closed_iff]
    exact fun hne => hne hclosing
  obtain ⟨s, b, hstop⟩ : ∃ s b,
      r.station.markClosed.stopConsumers r.station.streams r.desk.broker = (s, b) := ⟨_, _, rfl⟩
  have hobey : r.markClosed.takeTasks.run link (r.station.streams.map .obey) =
      some (r.markClosed.takeTasks.put s b) := by
    cases hstreams : r.station.streams with
    | nil =>
      rw [hstreams] at hstop
      cases hstop
      rfl
    | cons stream rest =>
      have hne : r.station.relay.consumers ≠ [] := by
        intro hnil
        rw [Station.streams, hnil] at hstreams
        cases hstreams
      have hlive : ∀ i ∈ stream :: rest, r.markClosed.takeTasks.isLive i = true := by
        intro i hi
        rw [← hstreams] at hi
        obtain ⟨c, hc, rfl⟩ := List.mem_map.1 hi
        exact List.any_eq_true.2 ⟨c, hc, beq_self_eq_true _⟩
      rw [obey_all link (hstreams ▸ hnodup) hlive (by simp [takeTasks, markClosed, hne]), ← hstreams]
      exact congrArg some (congrArg₂ _ (congrArg Prod.fst hstop) (congrArg Prod.snd hstop))
  have hs : r.station.markClosed.stopped r.station.streams = s := by
    rw [Station.stopConsumers_eq] at hstop
    exact congrArg Prod.fst hstop
  have hnone : s.relay.consumers = [] := by
    rw [← hs]
    exact Station.stopped_streams_consumers r.station.markClosed
  have hsession : s.relay.session = r.station.relay.session := by
    rw [← hs]
    rfl
  have hfinish := act_finish link (r := r.markClosed.takeTasks.put s b) rfl (by simp [put, isLive, hnone])
  have hclose : r.station.close link r.desk.broker =
      ((link.close s.relay.session b).1, s, (link.close s.relay.session b).2) := by
    have hstreams : r.station.markClosed.relay.consumers.map (·.stream) = r.station.streams := rfl
    simp only [Station.close, hclosed, Bool.false_eq_true, if_false, Station.finishClose, hstreams, hstop,
      hsession]
    rfl
  refine ⟨.close :: .drain :: (r.station.streams.map .obey ++ [.finish]),
    (r.markClosed.takeTasks.put s b).endSession (link.close s.relay.session b).1
      (link.close s.relay.session b).2, ?_, ?_⟩
  · rw [run_cons (act_close link hclosing), run_cons (act_drain (r := r.markClosed) link rfl hfree),
      run_append hobey]
    exact run_cons hfinish
  · rw [hclose]
    exact ⟨rfl, rfl, rfl⟩

end Race

end MessageRelay
