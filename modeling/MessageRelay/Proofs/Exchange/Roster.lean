import MessageRelay.Proofs.Broker.Audience
import MessageRelay.Proofs.Exchange.Diary

/-!
# Relays and broker agree

A relay keeps a list of its consumers, and the broker keeps its own lists of sessions and of consumers.  The
roster says that they agree: the open sessions are those of the relays that are not closed, and of those that
are just coming up or going; and who listens to a queue is who a relay has a consumer for.  Every deed keeps
the roster (`Roster.deed`), so it holds after every run (`roster_run`).
-/

namespace MessageRelay

/-- The queues that a relay consumes, with the streams of its consumers. -/
def Relay.crew (r : Relay) : List (String × Nat) :=
  r.consumers.map fun c => (c.queue, c.stream)

/-- The relay has this consumer on a queue. -/
structure Relay.Posts (r : Relay) (name : String) (slot : Slot) : Prop where
  session_eq : slot.session = r.session
  mode_eq : slot.mode = r.config.ackMode
  mem : (name, slot.stream) ∈ r.crew

/-- `s'` is `s` after the consumers with the given streams have stopped. -/
structure Station.Loses (l : List Nat) (s s' : Station) : Prop where
  session_eq : s'.relay.session = s.relay.session
  config_eq : s'.relay.config = s.relay.config
  crew_eq : s'.relay.crew = s.relay.crew.filter (·.2 ∉ l)
  /-- Those who wait were waiting, and have not stopped. -/
  senders : ∀ e ∈ s'.mailbox.waiting ++ s'.mailbox.granted, ∀ i, e.1 = .consumer i →
    (∃ name, (name, i) ∈ s.relay.crew ∧ i ∉ l) ∨ e ∈ s.mailbox.waiting ++ s.mailbox.granted ∧ i ∉ l

/-- The consumers of a relay are those that did not stop. -/
lemma Station.Loses.posts_iff {s s' : Station} {l : List Nat} (h : s.Loses l s') {name : String}
    {slot : Slot} :
    s'.relay.Posts name slot ↔ s.relay.Posts name slot ∧ slot.stream ∉ l := by
  constructor
  · rintro ⟨hsession, hmode, hmem⟩
    rw [h.session_eq] at hsession
    rw [h.config_eq] at hmode
    rw [h.crew_eq, List.mem_filter, decide_eq_true_eq] at hmem
    exact ⟨⟨hsession, hmode, hmem.1⟩, hmem.2⟩
  · rintro ⟨⟨hsession, hmode, hmem⟩, hstays⟩
    refine ⟨?_, ?_, ?_⟩
    · rw [h.session_eq, hsession]
    · rw [h.config_eq, hmode]
    · rw [h.crew_eq, List.mem_filter, decide_eq_true_eq]
      exact ⟨hmem, hstays⟩

namespace Exchange

/-- The stations after somebody at a seat has changed. -/
def reseat (seats : Seat → Option Station) (seat : Seat) (s : Station) : Seat → Option Station :=
  fun other => (seats other).map fun s₀ => if seat = other then s else s₀

/-- **Relays and broker agree** on sessions and consumers. -/
structure Roster (d : Doorway) (seats : Seat → Option Station) (b : Broker) : Prop where
  regular : ∃ owner, (⟨b, []⟩ : Desk).Regular owner
  /-- The session of a relay is one that there is. -/
  known : ∀ {seat s}, seats seat = some s → s.relay.session < b.sessions.length
  /-- No two relays have the same session. -/
  apart : ∀ {seat other s s'}, seats seat = some s → seats other = some s' →
    s.relay.session = s'.relay.session → seat = other
  /-- A session of somebody who is coming up is not that of anybody else. -/
  arriving : ∀ {session seat s}, session ∈ d.arriving → seats seat = some s → s.relay.session ≠ session
  /-- A session of somebody who is going is that of a closed relay. -/
  leaving : ∀ {session}, session ∈ d.leaving →
    ∃ seat s, seats seat = some s ∧ s.relay.closed = true ∧ s.relay.session = session
  /-- The open sessions are those of relays that are not closed, are coming up or are going. -/
  isOpen : ∀ session, b.isOpen session = true ↔ session ∈ d.arriving ∨ session ∈ d.leaving ∨
    ∃ seat s, seats seat = some s ∧ s.relay.closed = false ∧ s.relay.session = session
  /-- Those who listen to a queue are the consumers of relays. -/
  listens : ∀ {name slot}, slot ∈ b.audience name ↔ ∃ seat s, seats seat = some s ∧ s.relay.Posts name slot
  /-- Nobody listens twice. -/
  nodup : ∀ name, (b.audience name).Nodup
  /-- A relay has one consumer for a queue. -/
  queues : ∀ {seat s}, seats seat = some s → (s.relay.crew.map (·.1)).Nodup
  /-- Those who wait for a place in a mailbox are consumers that have not stopped. -/
  senders : ∀ {seat s e i}, seats seat = some s → e ∈ s.mailbox.waiting ++ s.mailbox.granted →
    e.1 = .consumer i → ∃ name, (name, i) ∈ s.relay.crew

variable {d d' : Doorway} {seats : Seat → Option Station} {seat other : Seat} {s s' s₁ : Station}
  {b b' : Broker} {x x' : Exchange} {name : String} {ok : Desk.Command → Prop}

lemma reseat_cases (h : reseat seats seat s other = some s₁) :
    (other = seat ∧ s₁ = s) ∨ (other ≠ seat ∧ seats other = some s₁) := by
  obtain ⟨s₀, hs₀, rfl⟩ := Option.map_eq_some_iff.1 h
  by_cases hseat : seat = other
  · exact Or.inl ⟨hseat.symm, if_pos hseat⟩
  · rw [if_neg hseat]
    exact Or.inr ⟨Ne.symm hseat, hs₀⟩

lemma reseat_self (hs : seats seat = some s₁) : reseat seats seat s seat = some s := by
  rw [reseat, hs, Option.map_some, if_pos rfl]

lemma reseat_of_ne (h : other ≠ seat) : reseat seats seat s other = seats other := by
  rw [reseat]
  cases seats other with
  | none => rfl
  | some s₀ => rw [Option.map_some, if_neg (Ne.symm h)]

lemma reseat_eq_self (hs : seats seat = some s) : reseat seats seat s = seats := by
  funext other
  by_cases hseat : other = seat
  · rw [hseat, reseat_self hs, hs]
  · exact reseat_of_ne hseat

/-- Somebody is at this seat or at another one. -/
lemma exists_seat_iff {P : Station → Prop} (hs : seats seat = some s) :
    (∃ seat₁ s₁, seats seat₁ = some s₁ ∧ P s₁) ↔
      P s ∨ ∃ seat₁ s₁, seat₁ ≠ seat ∧ seats seat₁ = some s₁ ∧ P s₁ := by
  constructor
  · rintro ⟨seat₁, s₁, hs₁, hp⟩
    by_cases hseat : seat₁ = seat
    · subst hseat
      rw [hs, Option.some.injEq] at hs₁
      exact Or.inl (hs₁ ▸ hp)
    · exact Or.inr ⟨seat₁, s₁, hseat, hs₁, hp⟩
  · rintro (hp | ⟨seat₁, s₁, -, hs₁, hp⟩)
    · exact ⟨seat, s, hs, hp⟩
    · exact ⟨seat₁, s₁, hs₁, hp⟩

/-- After a change at one seat nothing new is said of who is at the others. -/
lemma exists_reseat_iff {P : Station → Prop} (hs : seats seat = some s) :
    (∃ seat₁ s₁, reseat seats seat s' seat₁ = some s₁ ∧ P s₁) ↔
      P s' ∨ ∃ seat₁ s₁, seat₁ ≠ seat ∧ seats seat₁ = some s₁ ∧ P s₁ := by
  rw [exists_seat_iff (reseat_self hs)]
  refine or_congr_right ⟨?_, ?_⟩
  · rintro ⟨seat₁, s₁, hne, hs₁, hp⟩
    exact ⟨seat₁, s₁, hne, (reseat_of_ne hne).symm.trans hs₁, hp⟩
  · rintro ⟨seat₁, s₁, hne, hs₁, hp⟩
    exact ⟨seat₁, s₁, hne, (reseat_of_ne hne).trans hs₁, hp⟩

/-- What is said of somebody at a seat that does not change. -/
lemma exists_reseat {P : Station → Prop} (hs : seats seat = some s) (h : P s' ↔ P s) :
    (∃ seat₁ s₁, reseat seats seat s' seat₁ = some s₁ ∧ P s₁) ↔ ∃ seat₁ s₁, seats seat₁ = some s₁ ∧ P s₁ := by
  rw [exists_reseat_iff hs, exists_seat_iff hs, h]

/-- Every seat keeps its session when somebody changes who keeps his. -/
lemma exists_session_eq (hs : seats seat = some s) (h : reseat seats seat s' other = some s₁)
    (hsession : s'.relay.session = s.relay.session) :
    ∃ s₀, seats other = some s₀ ∧ s₁.relay.session = s₀.relay.session := by
  rcases reseat_cases h with ⟨rfl, rfl⟩ | ⟨-, hold⟩
  · exact ⟨s, hs, hsession⟩
  · exact ⟨s₁, hold, rfl⟩

namespace Roster

/-! ## Streams -/

/-- A stream belongs to one relay. -/
lemma eq_of_stream (hr : Roster d seats b) {name' : String} {i : Nat} (hs : seats seat = some s)
    (hs' : seats other = some s') (h : (name, i) ∈ s.relay.crew) (h' : (name', i) ∈ s'.relay.crew) :
    seat = other := by
  obtain ⟨owner, hregular⟩ := hr.regular
  have hslot : ⟨s.relay.session, s.relay.config.ackMode, i⟩ ∈ b.audience name :=
    hr.listens.2 ⟨seat, s, hs, rfl, rfl, h⟩
  have hslot' : ⟨s'.relay.session, s'.relay.config.ackMode, i⟩ ∈ b.audience name' :=
    hr.listens.2 ⟨other, s', hs', rfl, rfl, h'⟩
  obtain ⟨q, hq, hmem, -⟩ := Broker.mem_audience.1 hslot
  obtain ⟨q', hq', hmem', -⟩ := Broker.mem_audience.1 hslot'
  have howner : owner i = s.relay.session := hregular.owned.slot hq hmem
  have howner' : owner i = s'.relay.session := hregular.owned.slot hq' hmem'
  exact hr.apart hs hs' (howner.symm.trans howner')

/-- The stream of a consumer is one that there is. -/
lemma stream_lt (hr : Roster d seats b) {slot : Slot} (h : slot ∈ b.audience name) :
    slot.stream < b.streams.length := by
  obtain ⟨owner, hregular⟩ := hr.regular
  obtain ⟨q, hq, hmem, -⟩ := Broker.mem_audience.1 h
  obtain ⟨stream, hstream, -⟩ := hregular.sound.broker.slot hq hmem
  exact (List.getElem?_eq_some_iff.1 hstream).1

lemma regular_of_works (hr : Roster d seats b) (hwork : Desk.Works ok ⟨b, []⟩ ⟨b', []⟩) :
    ∃ owner, (⟨b', []⟩ : Desk).Regular owner := by
  obtain ⟨owner, hregular⟩ := hr.regular
  obtain ⟨owner', hregular', -⟩ := Desk.Works.regular hregular hwork
  exact ⟨owner', hregular'⟩

/-- The broker goes on, in what does not concern sessions and consumers. -/
lemma broker (hr : Roster d seats b) (hwork : Desk.Works ok ⟨b, []⟩ ⟨b', []⟩)
    (hsessions : b'.sessions = b.sessions) (haudience : b'.audience = b.audience) : Roster d seats b' where
  regular := hr.regular_of_works hwork
  known hs := by
    rw [hsessions]
    exact hr.known hs
  apart := hr.apart
  arriving := hr.arriving
  leaving := hr.leaving
  isOpen session := by
    rw [← hr.isOpen session, Broker.isOpen, hsessions, Broker.isOpen]
  listens := by
    rw [haudience]
    exact hr.listens
  nodup name := by
    rw [haudience]
    exact hr.nodup name
  queues := hr.queues
  senders := hr.senders

/-! ## Consumers stop -/

/-- Something changes at one seat: consumers stop, of whose streams the broker knows that nobody listens to them
any more.  Which sessions are open has to be known. -/
lemma change (hr : Roster d seats b) {l : List Nat} (hs : seats seat = some s) (hlose : s.Loses l s')
    (hl : ∀ i ∈ l, ∃ name, (name, i) ∈ s.relay.crew) (hwork : Desk.Works ok ⟨b, []⟩ ⟨b', []⟩)
    (haudience : ∀ name, b'.audience name = (b.audience name).filter (·.stream ∉ l))
    (harriving : d'.arriving = d.arriving)
    (hleaving : ∀ session ∈ d'.leaving, ∃ seat₁ s₁, reseat seats seat s' seat₁ = some s₁ ∧
      s₁.relay.closed = true ∧ s₁.relay.session = session)
    (hopen : ∀ session, b'.isOpen session = true ↔ session ∈ d'.arriving ∨ session ∈ d'.leaving ∨
      ∃ seat₁ s₁, reseat seats seat s' seat₁ = some s₁ ∧ s₁.relay.closed = false ∧
        s₁.relay.session = session) :
    Roster d' (reseat seats seat s') b' where
  regular := hr.regular_of_works hwork
  known hs₁ := by
    obtain ⟨s₀, hs₀, heq⟩ := exists_session_eq hs hs₁ hlose.session_eq
    rw [heq]
    exact Nat.lt_of_lt_of_le (hr.known hs₀) (Desk.Works.wider hwork).2
  apart hs₁ hs₂ heq := by
    obtain ⟨s₃, hs₃, heq₁⟩ := exists_session_eq hs hs₁ hlose.session_eq
    obtain ⟨s₄, hs₄, heq₂⟩ := exists_session_eq hs hs₂ hlose.session_eq
    exact hr.apart hs₃ hs₄ (heq₁.symm.trans (heq.trans heq₂))
  arriving hmem hs₁ := by
    obtain ⟨s₀, hs₀, heq⟩ := exists_session_eq hs hs₁ hlose.session_eq
    rw [harriving] at hmem
    rw [heq]
    exact hr.arriving hmem hs₀
  leaving hmem := hleaving _ hmem
  isOpen := hopen
  listens {name slot} := by
    rw [haudience, List.mem_filter, hr.listens, decide_eq_true_eq, exists_reseat_iff hs, exists_seat_iff hs,
      hlose.posts_iff, or_and_right]
    refine or_congr_right ⟨fun h => h.1, fun hother => ⟨hother, fun hstops => ?_⟩⟩
    -- a stream that stops belongs to this seat and to no other
    obtain ⟨seat₁, s₁, hne, hs₁, hpost⟩ := hother
    obtain ⟨name', hmem⟩ := hl slot.stream hstops
    exact hne (hr.eq_of_stream hs₁ hs hpost.mem hmem)
  nodup name := by
    rw [haudience]
    exact (hr.nodup name).filter _
  queues hs₁ := by
    rcases reseat_cases hs₁ with ⟨-, rfl⟩ | ⟨-, hold⟩
    · rw [hlose.crew_eq]
      exact (hr.queues hs).sublist (List.filter_sublist.map _)
    · exact hr.queues hold
  senders {seat₁ s₁ e i} hs₁ he hi := by
    rcases reseat_cases hs₁ with ⟨-, rfl⟩ | ⟨-, hold⟩
    · obtain ⟨name, hmem, hstays⟩ : ∃ name, (name, i) ∈ s.relay.crew ∧ i ∉ l := by
        rcases hlose.senders e he i hi with hmem | ⟨hmem, hstays⟩
        · exact hmem
        · obtain ⟨name, hcrew⟩ := hr.senders hs hmem hi
          exact ⟨name, hcrew, hstays⟩
      rw [hlose.crew_eq]
      exact ⟨name, List.mem_filter.2 ⟨hmem, by simpa using hstays⟩⟩
    · exact hr.senders hold he hi

/-- Consumers at one seat stop. -/
lemma lose (hr : Roster d seats b) {l : List Nat} (hs : seats seat = some s) (hlose : s.Loses l s')
    (hclosed : s'.relay.closed = s.relay.closed) (hl : ∀ i ∈ l, ∃ name, (name, i) ∈ s.relay.crew)
    (hwork : Desk.Works ok ⟨b, []⟩ ⟨b', []⟩) (hsessions : b'.sessions = b.sessions)
    (haudience : ∀ name, b'.audience name = (b.audience name).filter (·.stream ∉ l)) :
    Roster d (reseat seats seat s') b' := by
  have hsame : ∀ closed session, (s'.relay.closed = closed ∧ s'.relay.session = session) ↔
      (s.relay.closed = closed ∧ s.relay.session = session) := by
    intro closed session
    rw [hclosed, hlose.session_eq]
  refine hr.change hs hlose hl hwork haudience rfl (fun session hmem => ?_) fun session => ?_
  · exact (exists_reseat hs (hsame true session)).2 (hr.leaving hmem)
  · rw [exists_reseat hs (hsame false session), ← hr.isOpen session, Broker.isOpen, hsessions, Broker.isOpen]

lemma works_refl (b : Broker) : Desk.Works (fun _ => True) ⟨b, []⟩ ⟨b, []⟩ :=
  .refl

lemma works_consume {session stream : Nat} {queue : String} {mode : AckMode}
    (h : b.consume session queue mode = (.ok stream, b')) : Desk.Works (fun _ => True) ⟨b, []⟩ ⟨b', []⟩ := by
  have hwork : Desk.Works (Station.Asks b) ⟨b, []⟩ ⟨b', []⟩ := Station.works_consume h
  exact hwork.mono fun _ _ => trivial

/-- A relay is marked as closed; its session is open until it lets go of it. -/
lemma retire (hr : Roster d seats b) (hs : seats seat = some s) (hclosed : s.relay.closed = false) :
    Roster (d.retire s.relay.session) (reseat seats seat s.markClosed) b := by
  have hlose : s.Loses [] s.markClosed :=
    ⟨rfl, rfl, by simp [Station.markClosed, Relay.crew], fun e he i _ => Or.inr ⟨he, by simp⟩⟩
  refine hr.change hs hlose (by simp) (works_refl b) (by simp) rfl ?_ ?_
  · intro session hmem
    rcases List.mem_cons.1 hmem with rfl | hmem
    · exact ⟨seat, s.markClosed, reseat_self hs, rfl, rfl⟩
    · obtain ⟨seat₁, s₁, hs₁, hclosed₁, heq⟩ := hr.leaving hmem
      have hne : seat₁ ≠ seat := by
        rintro rfl
        rw [hs, Option.some.injEq] at hs₁
        rw [← hs₁, hclosed] at hclosed₁
        cases hclosed₁
      exact ⟨seat₁, s₁, (reseat_of_ne hne).trans hs₁, hclosed₁, heq⟩
  · intro session
    have hgoes : ¬(s.markClosed.relay.closed = false ∧ s.markClosed.relay.session = session) :=
      fun h => Bool.noConfusion h.1
    rw [hr.isOpen session, exists_reseat_iff hs, exists_seat_iff hs, or_iff_right hgoes, Doorway.retire,
      List.mem_cons, or_assoc, and_iff_right hclosed, eq_comm]
    -- the session of this seat counts as one that goes, and no longer as that of an open relay
    exact or_congr_right or_left_comm

/-! ## Sessions end -/

/-- A session ends that nobody has any use for. -/
lemma endSession (hr : Roster d seats b) {session : Nat} (hopen : b.isOpen session = true)
    (hidle : ∀ {seat s}, seats seat = some s → s.relay.session = session →
      s.relay.closed = true ∧ s.relay.crew = [])
    (harriving : ∀ session', session' ∈ d'.arriving ↔ session' ∈ d.arriving ∧ session' ≠ session)
    (hleaving : ∀ session', session' ∈ d'.leaving ↔ session' ∈ d.leaving ∧ session' ≠ session) :
    Roster d' seats (b.close session) where
  regular := by
    obtain ⟨owner, hregular⟩ := hr.regular
    exact ⟨owner, hregular.close session⟩
  known hs := by
    rw [Broker.close_sessions, List.length_set]
    exact hr.known hs
  apart := hr.apart
  arriving hmem hs := hr.arriving ((harriving _).1 hmem).1 hs
  leaving hmem := hr.leaving ((hleaving _).1 hmem).1
  isOpen session' := by
    rw [Broker.isOpen_close, hr.isOpen session', harriving, hleaving]
    constructor
    · rintro ⟨hne, h | h | h⟩
      · exact Or.inl ⟨h, hne⟩
      · exact Or.inr (Or.inl ⟨h, hne⟩)
      · exact Or.inr (Or.inr h)
    · rintro (⟨h, hne⟩ | ⟨h, hne⟩ | ⟨seat, s, hs, hclosed, heq⟩)
      · exact ⟨hne, Or.inl h⟩
      · exact ⟨hne, Or.inr (Or.inl h)⟩
      · refine ⟨?_, Or.inr (Or.inr ⟨seat, s, hs, hclosed, heq⟩)⟩
        rintro rfl
        rw [(hidle hs heq).1] at hclosed
        cases hclosed
  listens {name slot} := by
    rw [Broker.audience_close hopen, List.mem_filter, hr.listens]
    constructor
    · exact fun h => h.1
    · rintro ⟨seat, s, hs, hpost⟩
      refine ⟨⟨seat, s, hs, hpost⟩, ?_⟩
      rw [bne_iff_ne]
      intro heq
      have hmem := hpost.mem
      rw [(hidle hs (hpost.session_eq.symm.trans heq)).2] at hmem
      cases hmem
  nodup name := by
    rw [Broker.audience_close hopen]
    exact (hr.nodup name).filter _
  queues := hr.queues
  senders := hr.senders

/-- The stream of every consumer is on the list of streams. -/
lemma mem_crew_of_mem_streams {i : Nat} (h : i ∈ s.streams) : ∃ name, (name, i) ∈ s.relay.crew := by
  obtain ⟨c, hc, rfl⟩ := List.mem_map.1 h
  exact ⟨c.queue, List.mem_map_of_mem hc⟩

lemma loses_stopped (s : Station) (l : List Nat) : s.Loses l (s.stopped l) where
  session_eq := rfl
  config_eq := rfl
  crew_eq := by
    simp only [Station.stopped, Relay.crew, List.filter_map]
    rfl
  senders e he i hi := by
    refine Or.inr ?_
    simp only [Station.stopped, ← List.filter_append, List.mem_filter, decide_eq_true_eq] at he
    exact ⟨he.1, fun hmem => he.2 i hmem hi⟩

lemma works_dropStreams (b : Broker) (l : List Nat) :
    Desk.Works (fun _ => True) ⟨b, []⟩ ⟨l.foldl Broker.dropStream b, []⟩ :=
  Desk.Works.mono (Station.works_dropStreams b l b) fun _ _ => trivial

/-- A relay that is marked as closed stops its consumers and ends its session. -/
lemma leave (hr : Roster d seats b) (hs : seats seat = some s) (hclosed : s.relay.closed = true)
    (hmem : s.relay.session ∈ d.leaving) :
    Roster (d.leave s.relay.session) (reseat seats seat (s.stopped s.streams))
      ((s.streams.foldl Broker.dropStream b).close s.relay.session) := by
  have hstopped := hr.lose hs (loses_stopped s s.streams) rfl (fun _ => mem_crew_of_mem_streams)
    (works_dropStreams b s.streams) (Broker.foldl_dropStream s.streams b).2.1
    (Broker.audience_dropStreams b s.streams)
  have hself : reseat seats seat (s.stopped s.streams) seat = some (s.stopped s.streams) := reseat_self hs
  refine hstopped.endSession ?_ ?_ ?_ ?_
  · exact (hstopped.isOpen _).2 (Or.inr (Or.inl hmem))
  · intro seat₁ s₁ hs₁ heq
    -- by its session it is the relay that goes
    have hseat : seat₁ = seat := hstopped.apart hs₁ hself heq
    subst hseat
    rw [hself, Option.some.injEq] at hs₁
    subst hs₁
    refine ⟨hclosed, ?_⟩
    rw [Relay.crew, Station.stopped_streams_consumers, List.map_nil]
  · intro session
    refine ⟨fun h => ⟨h, ?_⟩, fun h => h.1⟩
    rintro rfl
    exact hr.arriving h hs rfl
  · intro session
    rw [Doorway.leave, List.mem_filter, bne_iff_ne]

/-- A relay is closed, whoever comes or goes meanwhile. -/
lemma close (hr : Roster d seats b) (hs : seats seat = some s) (link : Link) :
    Roster d (reseat seats seat (s.close link b).2.1) (s.close link b).2.2 := by
  unfold Station.close
  split
  · rwa [reseat_eq_self hs]
  · next hclosed =>
    rw [Bool.not_eq_true] at hclosed
    have hretired := hr.retire hs hclosed
    have hleft := hretired.leave (reseat_self hs) rfl List.mem_cons_self
    -- who is closed now was not on his way out
    have hnot : s.relay.session ∉ d.leaving := by
      intro hmem
      obtain ⟨seat₁, s₁, hs₁, hclosed₁, heq⟩ := hr.leaving hmem
      have hseat := hr.apart hs₁ hs heq
      subst hseat
      rw [hs, Option.some.injEq] at hs₁
      rw [← hs₁, hclosed] at hclosed₁
      cases hclosed₁
    have hdoor : (d.retire s.relay.session).leave s.markClosed.relay.session = d :=
      Doorway.leave_retire hnot
    have hseats : reseat (reseat seats seat s.markClosed) seat (s.markClosed.stopped s.markClosed.streams) =
        reseat seats seat (s.markClosed.stopped s.markClosed.streams) := by
      funext other
      by_cases hseat : other = seat
      · subst hseat
        rw [reseat_self (reseat_self hs), reseat_self hs]
      · rw [reseat_of_ne hseat, reseat_of_ne hseat, reseat_of_ne hseat]
    rw [hdoor, hseats] at hleft
    rw [Station.finishClose_eq]
    exact hleft

/-- A session ends whose relay does not come up. -/
lemma dismiss (hr : Roster d seats b) {session : Nat} (hmem : session ∈ d.arriving) :
    Roster (d.pass session) seats (b.close session) := by
  refine hr.endSession ((hr.isOpen session).2 (Or.inl hmem)) ?_ ?_ ?_
  · intro seat s hs heq
    exact absurd heq (hr.arriving hmem hs)
  · intro session'
    rw [Doorway.pass, List.mem_filter, bne_iff_ne]
  · intro session'
    refine ⟨fun h => ⟨h, ?_⟩, fun h => h.1⟩
    rintro rfl
    obtain ⟨seat, s, hs, -, heq⟩ := hr.leaving h
    exact hr.arriving hmem hs heq

/-! ## Consumers start -/

lemma sound (hr : Roster d seats b) : b.Sound := by
  obtain ⟨owner, hregular⟩ := hr.regular
  exact hregular.sound.broker

lemma crew_withConsumer (r : Relay) (queue : String) (stream : Nat) :
    (r.withConsumer queue stream).crew = r.crew ++ [(queue, stream)] := by
  simp [Relay.crew, Relay.withConsumer]

/-- The new consumer, or one that the relay had. -/
lemma posts_withConsumer {r : Relay} {queue : String} {stream : Nat} {slot : Slot} :
    (r.withConsumer queue stream).Posts name slot ↔
      r.Posts name slot ∨ name = queue ∧ slot = ⟨r.session, r.config.ackMode, stream⟩ := by
  constructor
  · rintro ⟨hsession, hmode, hmem⟩
    rw [crew_withConsumer, List.mem_append, List.mem_singleton, Prod.mk.injEq] at hmem
    rcases hmem with hmem | ⟨hqueue, hstream⟩
    · exact Or.inl ⟨hsession, hmode, hmem⟩
    · obtain ⟨session, mode, i⟩ := slot
      refine Or.inr ⟨hqueue, ?_⟩
      rw [Slot.mk.injEq]
      exact ⟨hsession, hmode, hstream⟩
  · rintro (⟨hsession, hmode, hmem⟩ | ⟨rfl, rfl⟩)
    · refine ⟨hsession, hmode, ?_⟩
      rw [crew_withConsumer]
      exact List.mem_append_left _ hmem
    · refine ⟨rfl, rfl, ?_⟩
      rw [crew_withConsumer]
      exact List.mem_append_right _ (List.mem_singleton.2 rfl)

/-- A stream that is just being given out is none of those that somebody listens on. -/
lemma nodup_append_new (hr : Roster d seats b) {queue : String} {slot : Slot}
    (hnew : slot.stream = b.streams.length) (name : String) :
    (b.audience name ++ if name = queue then [slot] else []).Nodup := by
  split
  · rw [List.nodup_append_comm, List.singleton_append, List.nodup_cons]
    refine ⟨fun hmem => ?_, hr.nodup name⟩
    have hlt := hr.stream_lt hmem
    rw [hnew] at hlt
    exact Nat.lt_irrefl _ hlt
  · rw [List.append_nil]
    exact hr.nodup name

lemma hasJoined_iff {r : Relay} : r.hasJoined name = true ↔ name ∈ r.crew.map (·.1) := by
  simp [Relay.hasJoined, Relay.crew]

/-- A relay that has not joined a queue gets a stream, and a consumer starts on it. -/
lemma listen (hr : Roster d seats b) {queue : String} {stream : Nat} (hs : seats seat = some s)
    (hnew : s.relay.hasJoined queue = false)
    (hconsume : b.consume s.relay.session queue s.relay.config.ackMode = (.ok stream, b')) :
    Roster d (reseat seats seat { s with relay := s.relay.withConsumer queue stream }) b' := by
  have hsessions : b'.sessions = b.sessions := by
    have h := (Broker.consume_sessions_eq b s.relay.session queue s.relay.config.ackMode).1
    rwa [hconsume] at h
  have haudience := Broker.audience_consume hr.sound hconsume
  have hstream := (Broker.consume_stream hconsume).1
  have hwork : Desk.Works (fun _ => True) ⟨b, []⟩ ⟨b', []⟩ :=
    works_consume hconsume
  have hcrew := crew_withConsumer s.relay queue stream
  have hsame : ∀ closed session, ((s.relay.withConsumer queue stream).closed = closed ∧
      (s.relay.withConsumer queue stream).session = session) ↔
      (s.relay.closed = closed ∧ s.relay.session = session) := fun _ _ => Iff.rfl
  exact
    { regular := hr.regular_of_works hwork
      known := by
        intro seat₁ s₁ hs₁
        obtain ⟨s₀, hs₀, heq⟩ := exists_session_eq hs hs₁ rfl
        rw [hsessions, heq]
        exact hr.known hs₀
      apart := by
        intro seat₁ seat₂ s₁ s₂ hs₁ hs₂ heq
        obtain ⟨s₃, hs₃, heq₁⟩ := exists_session_eq hs hs₁ rfl
        obtain ⟨s₄, hs₄, heq₂⟩ := exists_session_eq hs hs₂ rfl
        exact hr.apart hs₃ hs₄ (heq₁.symm.trans (heq.trans heq₂))
      arriving := by
        intro session seat₁ s₁ hmem hs₁
        obtain ⟨s₀, hs₀, heq⟩ := exists_session_eq hs hs₁ rfl
        rw [heq]
        exact hr.arriving hmem hs₀
      leaving := fun hmem => (exists_reseat hs (hsame true _)).2 (hr.leaving hmem)
      isOpen := by
        intro session
        rw [exists_reseat hs (hsame false session), ← hr.isOpen session, Broker.isOpen, hsessions,
          Broker.isOpen]
      listens := by
        intro name slot
        rw [haudience, List.mem_append, hr.listens, exists_reseat_iff hs, exists_seat_iff hs,
          posts_withConsumer, List.mem_ite_nil_right, List.mem_singleton]
        exact or_right_comm
      nodup := fun name => by
        rw [haudience]
        exact hr.nodup_append_new hstream name
      queues := by
        intro seat₁ s₁ hs₁
        rcases reseat_cases hs₁ with ⟨-, rfl⟩ | ⟨-, hold⟩
        · rw [hcrew, List.map_append, List.map_singleton, List.nodup_append_comm, List.singleton_append,
            List.nodup_cons, ← hasJoined_iff, hnew]
          exact ⟨Bool.false_ne_true, hr.queues hs⟩
        · exact hr.queues hold
      senders := by
        intro seat₁ s₁ e i hs₁ he hi
        rcases reseat_cases hs₁ with ⟨-, rfl⟩ | ⟨-, hold⟩
        · obtain ⟨name, hmem⟩ := hr.senders hs he hi
          exact ⟨name, hcrew ▸ List.mem_append_left _ hmem⟩
        · exact hr.senders hold he hi }

/-- A stream is given out and dropped at once. -/
lemma decline (hr : Roster d seats b) {session stream : Nat} {queue : String} {mode : AckMode}
    (hconsume : b.consume session queue mode = (.ok stream, b')) :
    Roster d seats (b'.dropStream stream) := by
  have hsessions : b'.sessions = b.sessions := by
    have h := (Broker.consume_sessions_eq b session queue mode).1
    rwa [hconsume] at h
  have hwork : Desk.Works (fun _ => True) ⟨b, []⟩ ⟨b'.dropStream stream, []⟩ :=
    (works_consume hconsume).trans
      (Desk.works_command (.dropStream stream) trivial)
  refine hr.broker hwork hsessions ?_
  funext name
  rw [Broker.audience_dropStream, Broker.audience_consume hr.sound hconsume, List.filter_append]
  have hold : (b.audience name).filter (·.stream != stream) = b.audience name := by
    rw [List.filter_eq_self]
    intro slot hslot
    rw [bne_iff_ne, (Broker.consume_stream hconsume).1]
    exact Nat.ne_of_lt (hr.stream_lt hslot)
  rw [hold]
  split <;> simp

/-! ## Relays come up -/

/-- A session is opened for somebody who is coming up. -/
lemma welcome (hr : Roster d seats b) {session : Nat} (hconnect : b.connect = (.ok session, b')) :
    Roster (d.welcome session) seats b' := by
  have hnew : session = b.sessions.length ∧ b'.sessions = b.sessions ++ [true] := by
    rcases Broker.connect_cases b with ⟨⟨e, he⟩, -⟩ | ⟨hok, hs⟩
    · rw [hconnect] at he
      cases he
    · rw [hconnect] at hok hs
      exact ⟨Except.ok.inj hok, hs⟩
  have haudience : b'.audience = b.audience := by
    have h := Broker.audience_connect b
    rwa [hconnect] at h
  exact
    { regular := by
        obtain ⟨owner, hregular⟩ := hr.regular
        have h := hregular.connect
        rw [Desk.step_connect, hconnect] at h
        exact ⟨owner, h⟩
      known := by
        intro seat s hs
        rw [hnew.2, List.length_append]
        exact Nat.lt_add_right _ (hr.known hs)
      apart := hr.apart
      arriving := by
        intro session' seat s hmem hs
        rcases List.mem_cons.1 hmem with rfl | hmem
        · rw [hnew.1]
          exact Nat.ne_of_lt (hr.known hs)
        · exact hr.arriving hmem hs
      leaving := hr.leaving
      isOpen := by
        intro session'
        have hopen : b'.isOpen session' = true ↔ session' = session ∨ b.isOpen session' = true := by
          rw [Broker.isOpen, hnew.2, hnew.1, Broker.isOpen]
          rcases Nat.lt_trichotomy session' b.sessions.length with hlt | heq | hgt
          · rw [List.getElem?_append_left hlt]
            exact ⟨Or.inr, fun h => h.resolve_left (Nat.ne_of_lt hlt)⟩
          · rw [heq, List.getElem?_concat_length]
            simp
          · rw [List.getElem?_eq_none (by rw [List.length_append]; exact hgt), List.getElem?_eq_none (Nat.le_of_lt hgt)]
            simpa using Nat.ne_of_gt hgt
        rw [hopen, hr.isOpen session', Doorway.welcome, List.mem_cons, or_assoc]
      listens := by
        rw [haudience]
        exact hr.listens
      nodup := by
        rw [haudience]
        exact hr.nodup
      queues := hr.queues
      senders := hr.senders }

/-- Somebody comes up, with the session that was opened for him. -/
lemma enrol (hr : Roster d seats b) (seat : Seat) (s : Station) {session : Nat}
    {seats' : Seat → Option Station} (hmem : session ∈ d.arriving) (hsession : s.relay.session = session)
    (hclosed : s.relay.closed = false)
    (hcrew : s.relay.crew = []) (hmailbox : s.mailbox.waiting ++ s.mailbox.granted = [])
    (hnone : seats seat = none)
    (hseats : ∀ other s₁, seats' other = some s₁ ↔ seats other = some s₁ ∨ other = seat ∧ s₁ = s) :
    Roster (d.pass session) seats' b where
  regular := hr.regular
  known hs₁ := by
    rcases (hseats _ _).1 hs₁ with hold | ⟨-, rfl⟩
    · exact hr.known hold
    · rw [hsession]
      exact Broker.lt_of_isOpen ((hr.isOpen session).2 (Or.inl hmem))
  apart hs₁ hs₂ heq := by
    rcases (hseats _ _).1 hs₁ with hold₁ | ⟨rfl, rfl⟩ <;> rcases (hseats _ _).1 hs₂ with hold₂ | ⟨rfl, rfl⟩
    · exact hr.apart hold₁ hold₂ heq
    · exact absurd (heq.trans hsession) (hr.arriving hmem hold₁)
    · exact absurd (heq.symm.trans hsession) (hr.arriving hmem hold₂)
    · rfl
  arriving hmem' hs₁ := by
    rw [Doorway.pass, List.mem_filter, bne_iff_ne] at hmem'
    rcases (hseats _ _).1 hs₁ with hold | ⟨-, rfl⟩
    · exact hr.arriving hmem'.1 hold
    · rw [hsession]
      exact Ne.symm hmem'.2
  leaving hmem' := by
    obtain ⟨seat₁, s₁, hs₁, h⟩ := hr.leaving hmem'
    exact ⟨seat₁, s₁, (hseats _ _).2 (Or.inl hs₁), h⟩
  isOpen session' := by
    rw [hr.isOpen session', Doorway.pass, List.mem_filter, bne_iff_ne]
    constructor
    · rintro (h | h | ⟨seat₁, s₁, hs₁, h⟩)
      · by_cases heq : session' = session
        · exact Or.inr (Or.inr ⟨seat, s, (hseats _ _).2 (Or.inr ⟨rfl, rfl⟩), hclosed, hsession.trans heq.symm⟩)
        · exact Or.inl ⟨h, heq⟩
      · exact Or.inr (Or.inl h)
      · exact Or.inr (Or.inr ⟨seat₁, s₁, (hseats _ _).2 (Or.inl hs₁), h⟩)
    · rintro (⟨h, -⟩ | h | ⟨seat₁, s₁, hs₁, hclosed₁, heq⟩)
      · exact Or.inl h
      · exact Or.inr (Or.inl h)
      · rcases (hseats _ _).1 hs₁ with hold | ⟨-, rfl⟩
        · exact Or.inr (Or.inr ⟨seat₁, s₁, hold, hclosed₁, heq⟩)
        · rw [← heq, hsession]
          exact Or.inl hmem
  listens {name slot} := by
    rw [hr.listens]
    constructor
    · rintro ⟨seat₁, s₁, hs₁, hpost⟩
      exact ⟨seat₁, s₁, (hseats _ _).2 (Or.inl hs₁), hpost⟩
    · rintro ⟨seat₁, s₁, hs₁, hpost⟩
      rcases (hseats _ _).1 hs₁ with hold | ⟨-, rfl⟩
      · exact ⟨seat₁, s₁, hold, hpost⟩
      · have hpost := hpost.mem
        rw [hcrew] at hpost
        cases hpost
  nodup := hr.nodup
  queues hs₁ := by
    rcases (hseats _ _).1 hs₁ with hold | ⟨-, rfl⟩
    · exact hr.queues hold
    · rw [hcrew]
      exact List.nodup_nil
  senders hs₁ he hi := by
    rcases (hseats _ _).1 hs₁ with hold | ⟨-, rfl⟩
    · exact hr.senders hold he hi
    · rw [hmailbox] at he
      cases he

end Roster

/-! ## Deeds -/

/-- The relay is as it was, and no further consumer waits for a place in the mailbox. -/
lemma loses_nil (hrelay : s'.relay = s.relay)
    (hsenders : ∀ e ∈ s'.mailbox.waiting ++ s'.mailbox.granted, ∀ i, e.1 = .consumer i →
      e ∈ s.mailbox.waiting ++ s.mailbox.granted) : s.Loses [] s' where
  session_eq := by rw [hrelay]
  config_eq := by rw [hrelay]
  crew_eq := by simp [hrelay]
  senders e he i hi := Or.inr ⟨hsenders e he i hi, by simp⟩

lemma audience_serve {i : Nat} {delivery : Delivery} (hpoll : b.poll i = (.delivery delivery, b')) :
    (Relay.settle b' delivery).2.audience = b.audience := by
  have hsame := Broker.audience_poll b i
  rw [hpoll] at hsame
  rw [Relay.settle, Broker.audience_settle, hsame]

/-- A consumer goes on, or stops. -/
lemma Roster.turn (hr : Roster d x.station? x.broker) (hs : x.station? seat = some s)
    (h : Station.Turn (s, x.broker) (s', b)) : Roster d (reseat x.station? seat s') b := by
  obtain ⟨e, hact, -⟩ : Station.Goes x.link (s, x.broker) (s', b) := h.goes
  have hwork := hact.works
  have hsessions := h.sessions_eq
  have hclosed := h.steady.closed_eq
  cases h with
  | post hc hwhole hfree hpoll hoffer =>
    obtain ⟨-, -, rfl⟩ := Mailbox.offer_eq_posted hoffer
    refine hr.lose hs (loses_nil rfl fun e he _ _ => he) hclosed (by simp) hwork hsessions ?_
    simp [audience_serve hpoll]
  | @wait _ _ _ c _ _ hc hwhole hfree hpoll hoffer =>
    obtain ⟨-, -, rfl⟩ := Mailbox.offer_eq_waits hoffer
    refine hr.lose (l := []) hs ⟨rfl, rfl, by simp, fun e he i hi => ?_⟩ hclosed (by simp) hwork hsessions ?_
    · simp only [List.mem_append, List.mem_singleton] at he
      rcases he with (he | rfl) | he
      · exact Or.inr ⟨List.mem_append_left _ he, by simp⟩
      · cases hi
        exact Or.inl ⟨c.queue, List.mem_map_of_mem hc, by simp⟩
      · exact Or.inr ⟨List.mem_append_right _ he, by simp⟩
    · simp [audience_serve hpoll]
  | @refuse _ _ b' c delivery hc hwhole hfree hpoll hoffer =>
    have hlose := Roster.loses_stopped s [c.stream]
    rw [Station.stopped_cons, Station.stopped_nil] at hlose
    refine hr.lose hs hlose hclosed ?_ hwork hsessions fun name => ?_
    · intro i hi
      rw [List.mem_singleton.1 hi]
      exact ⟨c.queue, List.mem_map_of_mem hc⟩
    · have hdropped := Broker.audience_dropStreams (Relay.settle b' delivery).2 [c.stream] name
      rw [audience_serve hpoll] at hdropped
      exact hdropped
  | @stop _ _ c hc hfree =>
    have hlose := Roster.loses_stopped s [c.stream]
    rw [Station.stopped_cons, Station.stopped_nil] at hlose
    refine hr.lose hs hlose hclosed ?_ hwork hsessions fun name => ?_
    · intro i hi
      rw [List.mem_singleton.1 hi]
      exact ⟨c.queue, List.mem_map_of_mem hc⟩
    · exact Broker.audience_dropStreams x.broker [c.stream] name

/-- What somebody does with his mailbox alone. -/
lemma Roster.mailbox (hr : Roster d seats b) (hs : seats seat = some s) (hrelay : s'.relay = s.relay)
    (hsenders : ∀ e ∈ s'.mailbox.waiting ++ s'.mailbox.granted, ∀ i, e.1 = .consumer i →
      e ∈ s.mailbox.waiting ++ s.mailbox.granted) : Roster d (reseat seats seat s') b :=
  hr.lose hs (loses_nil hrelay hsenders) (by rw [hrelay]) (by simp) (Roster.works_refl b) rfl (by simp)

/-- The loop of a node may wait for a place; it is not a consumer. -/
lemma conclude_senders (node : Node) (result : Except RelayError Unit) {e : Sender × Event} {i : Nat}
    (he : e ∈ (node.conclude result).station.mailbox.waiting ++ (node.conclude result).station.mailbox.granted)
    (hi : e.1 = .consumer i) :
    e ∈ node.station.mailbox.waiting ++ node.station.mailbox.granted := by
  cases result with
  | ok => exact he
  | error error =>
    rw [Node.conclude_error] at he
    refine (Mailbox.mem_of_leave he).resolve_left ?_
    rintro rfl
    cases hi

lemma tryPost_senders (m : Mailbox) (event : Event) :
    (m.tryPost event).waiting = m.waiting ∧ (m.tryPost event).granted = m.granted := by
  unfold Mailbox.tryPost
  split <;> exact ⟨rfl, rfl⟩

lemma foldl_tryPost_senders (m : Mailbox) (reason : String) (transports : List Transport) :
    (transports.foldl (fun m t => m.tryPost (.sendFailed t reason)) m).waiting = m.waiting ∧
      (transports.foldl (fun m t => m.tryPost (.sendFailed t reason)) m).granted = m.granted := by
  induction transports generalizing m with
  | nil => exact ⟨rfl, rfl⟩
  | cons t rest ih =>
    obtain ⟨hw, hg⟩ := tryPost_senders m (.sendFailed t reason)
    obtain ⟨hw', hg'⟩ := ih (m.tryPost (.sendFailed t reason))
    exact ⟨hw'.trans hw, hg'.trans hg⟩

/-- A node does something. -/
lemma Roster.node (hr : Roster d seats b) {link : Link} {n : Nat} {node node' : Node} {entries : List Entry}
    (hs : seats (.node n) = some node.station) (h : Node.Doing link b node entries node' b') :
    Roster d (reseat seats (.node n) node'.station) b' := by
  cases h with
  | accept hphase c => exact hr.mailbox hs rfl fun e he _ _ => he
  | refuse user text reason =>
    obtain ⟨hw, hg⟩ := foldl_tryPost_senders node.station.mailbox reason node.transports
    refine hr.mailbox hs rfl fun e he _ _ => ?_
    rw [← hw, ← hg]
    exact he
  | fail hrun hcommands hpayload =>
    refine hr.mailbox hs (Node.conclude_relay _ _) fun e he i hi => ?_
    have hmem := conclude_senders _ _ he hi
    exact hmem
  | begin hrun hcommands hpayload due => exact hr.mailbox hs rfl fun e he _ _ => he
  | @land _ p user text hp hencodes harrive =>
    have hkept : Roster d (reseat seats (.node n) node.station) b := hr.mailbox hs rfl fun e he _ _ => he
    rcases arrive_cases link node.station.relay node.station.relay.config.queueName p.payload b with
      ⟨e, heq⟩ | heq
    · rw [heq] at harrive
      cases harrive
    · rw [heq] at harrive
      cases harrive
      have hwork : Desk.Works (fun _ => True) ⟨b, []⟩ _ :=
        Desk.works_command (.control (.inject node.station.relay.config.queueName p.payload)) trivial
      exact hkept.broker hwork (Broker.route_sessions _ _ _) (Broker.audience_route _ _ _)
  | giveUp hp hencodes harrive =>
    refine hr.mailbox hs (Node.conclude_relay _ _) fun e he i hi => ?_
    have hmem := conclude_senders _ _ he hi
    exact hmem
  | direct h =>
    refine hr.mailbox hs h.relay_eq fun e he i hi => (h.mem_of_mem he).resolve_left ?_
    rintro ⟨k, hsender | hsender⟩ <;> simp [hi] at hsender
  | exit h => exact hr.close hs link
  | note hstation => exact hr.mailbox hs (by rw [hstation]) fun e he _ _ => by rwa [hstation] at he

/-- A mailbox is thrown away; the consumers that wait at it stop. -/
lemma Roster.discard (hr : Roster d seats b) (hs : seats seat = some s) :
    Roster d (reseat seats seat (s.discardMailbox b).1) (s.discardMailbox b).2 := by
  rw [Station.discardMailbox_eq]
  have hlose : s.Loses s.waitingStreams s.discarded :=
    ⟨rfl, rfl, (Roster.loses_stopped s s.waitingStreams).crew_eq, fun e he => by
      simp [Station.discarded] at he⟩
  refine hr.lose hs hlose rfl ?_ (Roster.works_dropStreams b s.waitingStreams)
    (Broker.foldl_dropStream s.waitingStreams b).2.1 (Broker.audience_dropStreams b s.waitingStreams)
  intro i hi
  obtain ⟨e, he, hstream⟩ := List.mem_filterMap.1 hi
  have hsender : e.1 = .consumer i := by
    split at hstream
    · next stream heq =>
      rw [heq]
      cases hstream
      rfl
    · cases hstream
    · cases hstream
    · cases hstream
  exact hr.senders hs (List.mem_append.2 (List.mem_append.1 he).symm) hsender

lemma crew_breakStream (s : Station) (stream : Nat) : (s.breakStream stream).relay.crew = s.relay.crew := by
  simp only [Relay.crew, Station.breakStream, List.map_map]
  apply List.map_congr_left
  intro c _
  by_cases hc : c.stream = stream <;> simp [hc]

lemma Roster.breakStream (hr : Roster d seats b) (hs : seats seat = some s) (stream : Nat) :
    Roster d (reseat seats seat (s.breakStream stream)) b := by
  have hlose : s.Loses [] (s.breakStream stream) :=
    ⟨rfl, rfl, by rw [crew_breakStream]; simp, fun e he i _ => Or.inr ⟨he, by simp⟩⟩
  exact hr.lose hs hlose rfl (by simp) (Roster.works_refl b) rfl (by simp)

/-- Something is done with the broker by which no session begins or ends, and nobody comes or goes. -/
lemma Roster.office (hr : Roster d seats x.broker) (c : Desk.Command)
    (hc : c = .connect ∨ (∃ session queue, c = .declare session queue) ∨ ∃ c', c = .control c')
    (hsessions : (x.desk.step c).2.broker.sessions = x.broker.sessions) :
    Roster d seats (x.desk.step c).2.broker := by
  have hnil : (x.desk.step c).2 = ⟨(x.desk.step c).2.broker, []⟩ := by
    rcases hc with rfl | ⟨session, queue, rfl⟩ | ⟨c', rfl⟩
    · rw [Desk.step_connect]
      rfl
    · rfl
    · rfl
  have hwork : Desk.Works (fun _ => True) x.desk (x.desk.step c).2 := Desk.works_command c trivial
  rw [hnil] at hwork
  refine hr.broker hwork hsessions ?_
  rcases hc with rfl | ⟨session, queue, rfl⟩ | ⟨c', rfl⟩
  · rw [Desk.step_connect]
    exact Broker.audience_connect x.broker
  · exact Broker.audience_declare x.broker session queue
  · cases c' with
    | inject queue payload => exact Broker.audience_route x.broker queue payload
    | stats queue => exact Broker.audience_stats x.broker queue
    | openSessions => rfl
    | refuseConnects n => rfl
    | refuseChannel => rfl

lemma place_reseat (x : Exchange) (seat : Seat) (s : Station) (b : Broker) :
    (x.place seat s b).station? = reseat x.station? seat s :=
  funext fun other => place_station? x seat s b other

lemma drop_station? (x : Exchange) (n : Nat) :
    ({ x with relays := x.relays.modify n fun m => { m with dropped := true } } : Exchange).station? =
      x.station? := by
  funext seat
  cases seat with
  | node k => rfl
  | relay k =>
    simp only [station?, List.getElem?_modify]
    cases x.relays[k]? with
    | none => rfl
    | some m => by_cases hk : n = k <;> simp [hk]

/-- Who sits at the seats of a list to which somebody is added. -/
lemma map_getElem?_concat_iff {α : Type} {l : List α} {new : α} {f : α → Station} {k : Nat} :
    ((l ++ [new])[k]?).map f = some s ↔ l[k]?.map f = some s ∨ k = l.length ∧ s = f new := by
  rcases Nat.lt_trichotomy k l.length with hlt | rfl | hgt
  · rw [List.getElem?_append_left hlt]
    simp [Nat.ne_of_lt hlt]
  · simp [eq_comm]
  · rw [List.getElem?_eq_none (by simp; omega), List.getElem?_eq_none (by omega)]
    simp [Nat.ne_of_gt hgt]

/-- A new relay takes the seat after those of all others. -/
lemma enroll_station?_iff {new : Member} :
    (x.enroll new).station? seat = some s ↔
      x.station? seat = some s ∨ seat = .relay x.relays.length ∧ s = new.station := by
  cases seat with
  | node k => simp [station?, enroll]
  | relay k =>
    rw [Seat.relay.injEq]
    exact map_getElem?_concat_iff

/-- A new node takes the seat after those of all others. -/
lemma enrolNode_station?_iff {new : Node} :
    ({ x with nodes := x.nodes ++ [new] } : Exchange).station? seat = some s ↔
      x.station? seat = some s ∨ seat = .node x.nodes.length ∧ s = new.station := by
  cases seat with
  | relay k => simp [station?]
  | node k =>
    rw [Seat.node.injEq]
    exact map_getElem?_concat_iff

/-- **Every deed keeps relays and broker in agreement.** -/
lemma Roster.deed {entries : List (Nat × Entry)} (hr : Roster d x.station? x.broker)
    (h : Deed d x entries d' x') : Roster d' x'.station? x'.broker := by
  cases h with
  | turn hs h =>
    rw [place_reseat, place_broker]
    exact hr.turn hs h
  | grant hs h =>
    rw [place_reseat, place_broker]
    refine hr.mailbox hs rfl fun e he _ _ => ?_
    simp only [Mailbox.put, List.mem_append] at he
    rw [h]
    exact List.mem_append.2 (he.imp_right (List.mem_cons_of_mem _))
  | tick clock underway =>
    have hsame : ({ x with clock, underway } : Exchange).station? = x.station? := station?_congr rfl rfl
    rw [hsame]
    exact hr
  | @node n node node' b entries hn h =>
    have hs : x.station? (.node n) = some node.station := Option.map_eq_some_iff.2 ⟨node, hn, rfl⟩
    have hseats : (x.withNode n (node', b)).station? = reseat x.station? (.node n) node'.station :=
      funext fun other => withNode_station? hn (node', b) other
    rw [hseats]
    exact hr.node hs h
  | take hs limit =>
    rw [place_reseat, place_broker]
    refine hr.mailbox hs rfl fun e he _ _ => ?_
    have hmem := Mailbox.mem_of_grant he
    exact hmem
  | discard hs =>
    rw [place_reseat, place_broker]
    exact hr.discard hs
  | breakStream hs stream =>
    rw [place_reseat, place_broker]
    exact hr.breakStream hs stream
  | listen hs hclosed hnew h =>
    rw [place_reseat, place_broker]
    exact hr.listen hs hnew h
  | decline h =>
    rw [withBroker_station?]
    exact hr.decline h
  | retire hs hclosed =>
    rw [place_reseat, place_broker]
    exact hr.retire hs hclosed
  | leave hs hclosed hmem =>
    rw [place_reseat, place_broker, Station.finishClose_eq]
    exact hr.leave hs hclosed hmem
  | drop h =>
    rw [drop_station?]
    exact hr
  | office c hc hsessions =>
    rw [withBroker_station?]
    exact hr.office c hc hsessions
  | welcome h =>
    rw [withBroker_station?]
    exact hr.welcome h
  | @enrolRelay session hmem config capacity =>
    exact hr.enrol (.relay x.relays.length) (newcomer session config capacity).station
      hmem rfl rfl rfl rfl (by simp [station?]) (fun _ _ => enroll_station?_iff)
  | @enrolNode session hmem config transports direct =>
    exact hr.enrol (.node x.nodes.length) (newNodeWith session config transports direct).station
      hmem rfl rfl rfl rfl (by simp [station?]) (fun _ _ => enrolNode_station?_iff)
  | dismiss hmem =>
    rw [withBroker_station?]
    exact hr.dismiss hmem

lemma Roster.diary {log : List (Nat × Entry)} (hr : Roster d x.station? x.broker)
    (h : Diary d x log d' x') : Roster d' x'.station? x'.broker := by
  induction h with
  | start => exact hr
  | step _ hdeed ih => exact ih.deed hdeed

/-- Where nobody has come to, there is nothing to agree on, if nobody else is at the broker. -/
lemma roster_of_vacant (hrelays : x.relays = []) (hnodes : x.nodes = [])
    (hregular : ∃ owner, x.desk.Regular owner) (hgone : ∀ session, x.broker.isOpen session = false) :
    Roster {} x.station? x.broker := by
  have hnone : ∀ seat, x.station? seat = none := by
    intro seat
    cases seat <;> simp [station?, hrelays, hnodes]
  have hsilent : ∀ name, x.broker.audience name = [] := by
    obtain ⟨owner, hregular⟩ := hregular
    refine fun name => List.eq_nil_iff_forall_not_mem.2 fun slot hslot => ?_
    obtain ⟨q, hq, hmem, -⟩ := Broker.mem_audience.1 hslot
    have hopen : x.broker.isOpen slot.session = true := (hregular.attended name hq).slots slot hmem
    rw [hgone] at hopen
    cases hopen
  exact
    { regular := hregular
      known := fun hs => by simp [hnone] at hs
      apart := fun hs => by simp [hnone] at hs
      arriving := fun hmem => by cases hmem
      leaving := fun hmem => by cases hmem
      isOpen := fun session => by simp [hnone, hgone]
      listens := fun {name slot} => by simp [hnone, hsilent]
      nodup := fun name => by simp [hsilent]
      queues := fun hs => by simp [hnone] at hs
      senders := fun hs => by simp [hnone] at hs }

lemma roster_empty (link : Link) : Roster {} ({ link } : Exchange).station? ({ link } : Exchange).broker :=
  roster_of_vacant rfl rfl ⟨id, Desk.regular_empty id⟩ fun _ => rfl

/-- After every run relays and broker agree, if they did before. -/
lemma Roster.run (hr : Roster {} x.station? x.broker) (hx : x.Shipshape) (cs : List Command) :
    Roster {} (x.run cs).2.station? (x.run cs).2.broker := by
  obtain ⟨log, hdiary, -⟩ := run_proceeds cs hx
  exact hr.diary hdiary

/-- After every run relays and broker agree. -/
lemma roster_run (link : Link) (cs : List Command) :
    Roster {} (({ link } : Exchange).run cs).2.station? (({ link } : Exchange).run cs).2.broker :=
  (roster_empty link).run (shipshape_empty link) cs

end Exchange

end MessageRelay
