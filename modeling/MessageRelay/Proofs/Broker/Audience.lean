import MessageRelay.Proofs.Broker.Custody

/-!
# Who listens to a queue

The consumers of a queue that still listen are its audience.  A queue may remember others for a while, but
whoever counts its consumers finds the audience (`stats_consumers`).  Messages come and go without changing
it; only subscribing, dropping a stream and the end of a session do, and this file says how.
-/

namespace MessageRelay

namespace Broker

variable {b b' : Broker} {name other : String} {q q' : Queue} {payload : Bytes} {session i : Nat}
  {mode : AckMode}

/-- The consumers of a queue that listen. -/
def audience (b : Broker) (name : String) : List Slot :=
  ((b.queue? name).map fun q => (q.prune b.isListening).slots).getD []

lemma audience_of_some (h : b.queue? name = some q) :
    b.audience name = q.slots.filter fun slot => b.isListening slot.stream := by
  rw [audience, h]
  rfl

lemma audience_of_none (h : b.queue? name = none) : b.audience name = [] := by
  rw [audience, h]
  rfl

lemma mem_audience {slot : Slot} :
    slot ∈ b.audience name ↔
      ∃ q, b.queue? name = some q ∧ slot ∈ q.slots ∧ b.isListening slot.stream = true := by
  cases h : b.queue? name with
  | none => simp [audience_of_none h]
  | some q =>
    rw [audience_of_some h, List.mem_filter]
    constructor
    · intro hmem
      exact ⟨q, rfl, hmem⟩
    · rintro ⟨q₁, hq₁, hmem⟩
      cases hq₁
      exact hmem

/-- Whoever counts the consumers of a queue finds those who listen. -/
lemma stats_consumers (b : Broker) (name : String) :
    (b.stats name).1.map (·.consumers) = (b.queue? name).map fun _ => (b.audience name).length := by
  unfold stats
  cases h : b.queue? name with
  | none => rfl
  | some q =>
    rw [audience_of_some h]
    rfl

/-- The audience is a matter of queues and of who listens. -/
lemma audience_congr (hq : b'.queue? = b.queue?) (hl : b'.isListening = b.isListening) :
    b'.audience = b.audience := by
  funext name
  rw [audience, audience, hq, hl]

/-- A queue may forget consumers that do not listen. -/
lemma audience_setQueue (h : b.queue? name = some q)
    (hs : (q'.prune b.isListening).slots = (q.prune b.isListening).slots) :
    (b.setQueue name q').audience = b.audience := by
  funext other
  rw [audience, audience, queue?_setQueue h, setQueue_isListening]
  split
  · next heq =>
    subst heq
    rw [h, Option.map_some, Option.map_some, hs]
  · rfl

lemma prune_prune_slots (alive : Nat → Bool) (q : Queue) :
    ((q.prune alive).prune alive).slots = (q.prune alive).slots := by
  simp [Queue.prune]

@[simp] lemma audience_route (b : Broker) (name : String) (payload : Bytes) :
    (b.route name payload).audience = b.audience := by
  cases h : b.queue? name with
  | none => rw [route_of_none h]
  | some q =>
    rcases route_cases h payload with ⟨slot, -, -, heq⟩ | ⟨-, heq⟩
    · rw [heq]
      have hset : (b.setQueue name (q.handed b.isListening slot payload)).audience = b.audience :=
        audience_setQueue h (prune_prune_slots b.isListening q)
      rw [← hset]
      exact audience_congr rfl (isListening_carryAll _)
    · rw [heq]
      exact audience_setQueue h (prune_prune_slots b.isListening q)

lemma audience_routeAll (b : Broker) (name : String) (payloads : List Bytes) :
    (b.routeAll name payloads).audience = b.audience :=
  routeAll_induction (P := fun b' => b'.audience = b.audience) payloads
    (fun b' payload h => by rw [audience_route, h]) rfl

/-- Whoever subscribes joins the audience. -/
lemma audience_enlist (hb : b.Sound) (h : b.queue? name = some q) (session : Nat) (mode : AckMode)
    (other : String) :
    (b.enlist session name mode q).audience other =
      b.audience other ++ if other = name then [⟨session, mode, b.streams.length⟩] else [] := by
  -- the streams that there were have the listeners that they had
  have hold : ∀ {name₁ q₁}, b.queue? name₁ = some q₁ →
      (q₁.slots.filter fun slot => (b.enlist session name mode q).isListening slot.stream) =
        q₁.slots.filter fun slot => b.isListening slot.stream := by
    intro name₁ q₁ hq₁
    apply List.filter_congr
    intro slot hslot
    obtain ⟨s, hs, -⟩ := hb.slot hq₁ hslot
    exact isListening_append b _ (List.getElem?_eq_some_iff.1 hs).1
  have hnew : (b.enlist session name mode q).isListening b.streams.length = true := by
    rw [isListening, enlist_streams, List.getElem?_concat_length]
    rfl
  by_cases heq : other = name
  · subst heq
    have hself := enlist_queue? h session mode other
    rw [if_pos rfl] at hself
    rw [audience_of_some hself, audience_of_some h, if_pos rfl, List.filter_append, hold h,
      List.filter_cons, if_pos hnew]
    rfl
  · have hself := enlist_queue? h session mode other
    rw [if_neg heq] at hself
    rw [if_neg heq, List.append_nil]
    cases hq : b.queue? other with
    | none => rw [audience_of_none (hself.trans hq), audience_of_none hq]
    | some q₁ => rw [audience_of_some (hself.trans hq), audience_of_some hq, hold hq]

lemma audience_consume {stream : Nat} (hb : b.Sound)
    (h : b.consume session name mode = (.ok stream, b')) (other : String) :
    b'.audience other = b.audience other ++ if other = name then [⟨session, mode, stream⟩] else [] := by
  rcases consume_cases b session name mode with ⟨e, heq⟩ | ⟨q, -, hq, heq⟩
  · rw [heq] at h
    cases h
  · rw [heq] at h
    cases h
    rw [audience_routeAll, audience_enlist hb hq]

lemma isListening_dropStream (b : Broker) (i j : Nat) :
    (b.dropStream i).isListening j = (b.isListening j && j != i) := by
  rw [isListening, dropStream_eq, modifyStream_streams, isListening]
  cases hs : b.streams[j]? with
  | none => rfl
  | some s =>
    by_cases hij : i = j
    · simp [hij, Stream.abandon]
    · simp [hij, Ne.symm hij]

/-- Whoever drops his stream leaves the audience. -/
lemma audience_dropStream (b : Broker) (i : Nat) (name : String) :
    (b.dropStream i).audience name = (b.audience name).filter (·.stream != i) := by
  cases h : b.queue? name with
  | none =>
    have hdrop : (b.dropStream i).queue? name = none := h
    rw [audience_of_none hdrop, audience_of_none h, List.filter_nil]
  | some q =>
    have hdrop : (b.dropStream i).queue? name = some q := h
    rw [audience_of_some hdrop, audience_of_some h, List.filter_filter]
    apply List.filter_congr
    intro slot _
    rw [isListening_dropStream, Bool.and_comm]

lemma audience_dropStreams (b : Broker) (l : List Nat) (name : String) :
    (l.foldl dropStream b).audience name = (b.audience name).filter (·.stream ∉ l) := by
  induction l generalizing b with
  | nil => simp
  | cons i rest ih =>
    rw [List.foldl_cons, ih, audience_dropStream, List.filter_filter]
    apply List.filter_congr
    intro slot _
    rw [Bool.eq_iff_iff]
    simp [and_comm]

/-- The consumers of a session leave the audience when it ends. -/
lemma audience_close (hopen : b.isOpen session = true) (name : String) :
    (b.close session).audience name = (b.audience name).filter (·.session != session) := by
  -- of the others none has come or gone
  have hothers : ∀ other, ((b.close session).audience other).filter (·.session != session) =
      (b.audience other).filter (·.session != session) := by
    rw [close_of_open hopen]
    refine releaseQueues_induction (b := b.hangUp session)
      (P := fun b' => ∀ other, (b'.audience other).filter (·.session != session) =
        (b.audience other).filter (·.session != session)) session _ ?_ ?_ fun other => rfl
    · intro b' name₁ q₁ hq₁ ih other
      rw [← ih other]
      by_cases heq : other = name₁
      · subst heq
        rw [dismiss, audience_of_some (queue?_setQueue_self hq₁), audience_of_some hq₁]
        simp only [setQueue_isListening, List.filter_filter]
        apply List.filter_congr
        intro slot _
        rw [Bool.eq_iff_iff]
        simp only [Bool.and_eq_true]
        tauto
      · rw [audience, audience, dismiss, queue?_setQueue_of_ne b' _ heq, setQueue_isListening]
    · intro b' name₁ payload ih other
      rw [audience_route, ih other]
  rw [← hothers name, eq_comm, List.filter_eq_self]
  intro slot hslot
  obtain ⟨q, hq, hmem, -⟩ := mem_audience.1 hslot
  simpa using (within_close hopen name hq).slots slot hmem

lemma isListening_behead (b : Broker) (i : Nat) :
    (b.modifyStream i Stream.behead).isListening = b.isListening := by
  funext j
  rw [isListening, modifyStream_streams, isListening]
  cases b.streams[j]? with
  | none => rfl
  | some s => by_cases hij : i = j <;> simp [hij, Stream.behead]

/-- To take a message and to settle it changes no audience. -/
lemma audience_behead (b : Broker) (i : Nat) : (b.modifyStream i Stream.behead).audience = b.audience :=
  audience_congr rfl (isListening_behead b i)

lemma audience_poll (b : Broker) (i : Nat) : (b.poll i).2.audience = b.audience := by
  rcases poll_cases b i with (h | h) | ⟨s, tag, payload, rest, -, -, h⟩ <;> rw [h]
  exact audience_behead b i

lemma audience_settled (h : b.queue? name = some q) (tag : Nat) (verdict : Verdict) :
    (b.setQueue name (settled q tag verdict)).audience = b.audience :=
  audience_setQueue h (by simp [Queue.prune])

lemma audience_settle (b : Broker) (verdict : Verdict) (d : Delivery) :
    (b.settle verdict d).2.audience = b.audience := by
  rcases settle_cases b verdict d with ⟨h, -⟩ | ⟨q, -, hq, -, h⟩
  · rw [h]
  · rw [h]
    exact audience_settled hq d.tag verdict

lemma audience_connect (b : Broker) : b.connect.2.audience = b.audience :=
  audience_congr (connect_queue? b) (by funext i; rw [isListening, isListening, connect_streams])

lemma audience_declared (h : b.queue? name = none) : (b.declared name).audience = b.audience := by
  funext other
  rw [audience, audience, declared_queue? h]
  split
  · next heq =>
    rw [heq, h]
    rfl
  · rfl

lemma audience_declare (b : Broker) (session : Nat) (name : String) :
    (b.declare session name).2.audience = b.audience := by
  rcases declare_cases b session name with h | ⟨-, hnone, h⟩
  · rw [h]
  · rw [h]
    exact audience_declared hnone

lemma audience_pruned (h : b.queue? name = some q) :
    (b.setQueue name (q.prune b.isListening)).audience = b.audience :=
  audience_setQueue h (prune_prune_slots b.isListening q)

lemma audience_stats (b : Broker) (name : String) : (b.stats name).2.audience = b.audience := by
  unfold stats
  cases h : b.queue? name with
  | none => rfl
  | some q => exact audience_pruned h

end Broker

end MessageRelay
