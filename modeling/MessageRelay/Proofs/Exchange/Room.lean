import MessageRelay.Proofs.Exchange.Rest

/-!
# Nobody waits where there is room

Whoever waits for a place in the mailbox of an open relay waits because there is none: nobody begins to wait while there
is a place, and places that become free are given to those who wait.  So there is nothing in the way of the next event
where there is room (`run_fair`).
-/

namespace MessageRelay

namespace Mailbox

variable {m : Mailbox} {sender : Sender} {event : Event}

/-- If somebody waits then there is no room. -/
def Fair (m : Mailbox) : Prop :=
  m.waiting = [] ∨ m.room = 0

/-- An event is posted where there is room. -/
lemma Fair.put (h : m.Fair) (hroom : 0 < m.room) (event : Event) : (m.put event).Fair :=
  Or.inl (h.resolve_right hroom.ne')

lemma fair_waits (hroom : m.room = 0) (entry : Sender × Event) :
    ({ m with waiting := m.waiting ++ [entry] } : Mailbox).Fair :=
  Or.inr hroom

/-- A place is used by whom it was given to. -/
lemma Fair.useGrant (h : m.Fair) {rest : List (Sender × Event)} (hgranted : m.granted = (sender, event) :: rest) :
    (({ m with granted := rest } : Mailbox).put event).Fair := by
  refine h.imp id fun hroom => ?_
  simp only [room, Mailbox.put, hgranted, List.length_append, List.length_cons, List.length_nil] at hroom ⊢
  omega

/-- Whoever goes on waiting after the free places were given away finds none. -/
lemma fair_grant (m : Mailbox) : m.grant.Fair := by
  by_cases hle : m.waiting.length ≤ m.room
  · exact Or.inl (List.drop_eq_nil_of_le hle)
  · refine Or.inr ?_
    have htaken : (m.waiting.take m.room).length = m.room := List.length_take_of_le (by omega)
    show m.capacity - m.posted.length - (m.granted ++ m.waiting.take m.room).length = 0
    rw [List.length_append, htaken, room]
    omega

lemma fair_take (m : Mailbox) (limit : Option Nat) : (m.take limit).2.Fair :=
  fair_grant _

/-- Nothing is lost of somebody who has nothing in hand. -/
lemma forget_of_free (h : m.holds sender = false) : m.forget sender = m := by
  have hne : ∀ e ∈ m.waiting ++ m.granted, (e.1 != sender) = true := by
    intro e he
    have hother := List.any_eq_false.1 h e he
    simpa using hother
  unfold forget
  rw [List.filter_eq_self.2 fun e he => hne e (List.mem_append_left _ he),
    List.filter_eq_self.2 fun e he => hne e (List.mem_append_right _ he)]

lemma Fair.tryPost (h : m.Fair) (event : Event) : (m.tryPost event).Fair := by
  unfold Mailbox.tryPost
  split
  · next hpost =>
    rw [Bool.and_eq_true, decide_eq_true_eq] at hpost
    exact h.put hpost.2 event
  · exact h

lemma Fair.leave (h : m.Fair) (sender : Sender) (event : Event) : (m.leave sender event).Fair := by
  rcases m.leave_cases sender event with hoffer | hoffer | hsame
  · obtain ⟨-, hroom, heq⟩ := offer_eq_posted hoffer
    rw [heq]
    exact h.put hroom event
  · obtain ⟨-, hroom, heq⟩ := offer_eq_waits hoffer
    rw [heq]
    exact fair_waits hroom _
  · rwa [hsame]

/-- Where calls end, nobody begins to wait, and there is no more room than before. -/
lemma Fair.hangUp (h : m.Fair) : m.hangUp.Fair := by
  refine h.imp (fun hnone => ?_) id
  rw [Mailbox.hangUp, hnone]
  rfl

end Mailbox

namespace Station

/-- As long as the relay is open, nobody waits for a place in the mailbox where there is room. -/
def Fair (s : Station) : Prop :=
  s.relay.closed = false → s.mailbox.Fair

lemma Turn.fair {p p' : Station × Broker} (h : Turn p p') (hp : p.1.Fair) : p'.1.Fair := by
  intro hopen
  cases h with
  | @post s b b' c d m hc hwhole hfree hpoll hoffer =>
    obtain ⟨-, hroom, rfl⟩ := Mailbox.offer_eq_posted hoffer
    exact (hp hopen).put hroom _
  | wait hc hwhole hfree hpoll hoffer =>
    obtain ⟨-, hroom, rfl⟩ := Mailbox.offer_eq_waits hoffer
    exact Mailbox.fair_waits hroom _
  | @refuse s b b' c d hc hwhole hfree =>
    show (s.mailbox.forget (.consumer c.stream)).Fair
    rw [Mailbox.forget_of_free hfree]
    exact hp hopen
  | @stop s b c hc hfree =>
    show (s.mailbox.forget (.consumer c.stream)).Fair
    rw [Mailbox.forget_of_free hfree]
    exact hp hopen

lemma fair_of_closed {s : Station} (h : s.relay.closed = true) : s.Fair := by
  intro hopen
  rw [h] at hopen
  cases hopen

/-- A relay that has been closed is closed. -/
lemma close_closed (link : Link) (s : Station) (b : Broker) : (s.close link b).2.1.relay.closed = true := by
  unfold close
  split
  · next hclosed => exact hclosed
  · rw [finishClose_eq]
    rfl

lemma fair_discardMailbox (s : Station) (b : Broker) : (s.discardMailbox b).1.Fair := by
  rw [discardMailbox_eq]
  exact fun _ => Or.inl rfl

end Station

namespace Node

variable {link : Link} {b b' : Broker} {node node' : Node} {entries : List Entry}

lemma conclude_fair (node : Node) (h : node.station.Fair) (result : Except RelayError Unit) :
    (node.conclude result).station.Fair := by
  cases result with
  | ok => exact h
  | error e =>
    rw [conclude_error]
    exact fun hopen => (h hopen).leave _ _

lemma foldl_tryPost_fair {m : Mailbox} (h : m.Fair) (reason : String) (transports : List Transport) :
    (transports.foldl (fun m t => m.tryPost (.sendFailed t reason)) m).Fair := by
  induction transports generalizing m with
  | nil => exact h
  | cons t rest ih => exact ih (h.tryPost _)

lemma DirectTurn.fair {call : Option (String × String)} (h : DirectTurn node call node')
    (hf : node.station.Fair) : node'.station.Fair := by
  cases h with
  | turn hd hturn =>
    intro hopen
    have hfair := hf hopen
    cases hturn with
    | note => exact hfair
    | report => exact hfair.leave _ _
    | called => exact hfair.leave _ _
    | release => exact hfair.hangUp

lemma Doing.fair (h : Doing link b node entries node' b') (hf : node.station.Fair) : node'.station.Fair := by
  cases h with
  | accept | begin | land => exact hf
  | refuse user text reason => exact fun hopen => foldl_tryPost_fair (hf hopen) reason node.transports
  | fail | giveUp => exact conclude_fair _ (by exact hf) _
  | direct h => exact h.fair hf
  | exit => exact Station.fair_of_closed (Station.close_closed link node.station b)
  | note hstation => rwa [hstation]

end Node

namespace Exchange

variable {x x' : Exchange} {d d' : Doorway} {seat : Seat} {s : Station} {b : Broker} {n : Nat} {node : Node}

/-- Nobody waits for a place where there is room. -/
def Fair (x : Exchange) : Prop :=
  ∀ ⦃seat : Seat⦄ ⦃s : Station⦄, x.station? seat = some s → s.Fair

lemma Fair.place (h : x.Fair) (seat : Seat) (hs : s.Fair) (b : Broker) : (x.place seat s b).Fair := by
  intro other s' hs'
  rcases place_station?_cases hs' with ⟨-, rfl⟩ | hold
  · exact hs
  · exact h hold

lemma Fair.withNode (h : x.Fair) (hn : x.nodes[n]? = some node) {p : Node × Broker} (hp : p.1.station.Fair) :
    (x.withNode n p).Fair := by
  intro other s' hs'
  rw [withNode_station? hn] at hs'
  obtain ⟨s₀, hs₀, rfl⟩ := Option.map_eq_some_iff.1 hs'
  split
  · exact hp
  · exact h hs₀

lemma Fair.congr (h : x.Fair) (hsame : x'.station? = x.station?) : x'.Fair := by
  intro seat s hs
  rw [hsame] at hs
  exact h hs

/-- Whoever comes up waits for nothing. -/
lemma Fair.enrol (h : x.Fair)
    (hnew : ∀ seat s, x'.station? seat = some s → x.station? seat = some s ∨ s.mailbox.waiting = []) : x'.Fair := by
  intro seat s hs
  rcases hnew seat s hs with hold | hnone
  · exact h hold
  · exact fun _ => Or.inl hnone

/-- **Whatever is done, nobody waits for a place where there is room.** -/
lemma Deed.fair {entries : List (Nat × Entry)} (h : Deed d x entries d' x') (hx : x.Fair) : x'.Fair := by
  cases h with
  | turn hs h => exact hx.place _ (h.fair (hx hs)) _
  | grant hs h =>
    refine hx.place _ (fun hopen => ?_) _
    exact (hx hs hopen).useGrant h
  | tick clock underway => exact hx.congr (station?_congr rfl rfl)
  | @node n node node' b es hn h =>
    have hs : x.station? (.node n) = some node.station := by rw [station?, hn, Option.map_some]
    exact hx.withNode hn (h.fair (hx hs))
  | take hs limit => exact hx.place _ (fun _ => Mailbox.fair_take _ limit) _
  | discard hs => exact hx.place _ (Station.fair_discardMailbox _ _) _
  | breakStream hs | listen hs =>
    have hfair := hx hs
    refine hx.place _ ?_ _
    exact hfair
  | retire hs hclosed => exact hx.place _ (Station.fair_of_closed rfl) _
  | leave hs hclosed hmem =>
    refine hx.place _ (Station.fair_of_closed ?_) _
    rw [Station.finishClose_eq]
    exact hclosed
  | drop h => exact hx.congr (drop_station? x _)
  | decline | office | welcome | dismiss => exact hx.congr (withBroker_station? _ _)
  | @enrolRelay session hmem config capacity =>
    refine hx.enrol fun seat s hs => ?_
    cases seat with
    | node k => exact Or.inl hs
    | relay k =>
      obtain ⟨m, hm, rfl⟩ := Option.map_eq_some_iff.1 hs
      rcases enroll_cases hm with hold | ⟨-, -, rfl⟩
      · exact Or.inl (Option.map_eq_some_iff.2 ⟨m, hold, rfl⟩)
      · exact Or.inr rfl
  | @enrolNode session hmem config transports direct =>
    refine hx.enrol fun seat s hs => ?_
    cases seat with
    | relay k => exact Or.inl hs
    | node k =>
      obtain ⟨node, hn, rfl⟩ := Option.map_eq_some_iff.1 hs
      rw [List.getElem?_append] at hn
      split at hn
      · exact Or.inl (Option.map_eq_some_iff.2 ⟨node, hn, rfl⟩)
      · rw [List.mem_singleton.1 (List.mem_of_getElem? hn)]
        exact Or.inr rfl

lemma Diary.fair {log : List (Nat × Entry)} (h : Diary d x log d' x') (hx : x.Fair) : x'.Fair := by
  induction h with
  | start => exact hx
  | step _ hdeed ih => exact hdeed.fair ih

lemma run_fair (link : Link) (cs : List Command) : (({ link } : Exchange).run cs).2.Fair := by
  obtain ⟨log, hdiary, -⟩ := run_proceeds cs (shipshape_empty link)
  refine hdiary.fair fun seat s hs => ?_
  cases seat <;> simp [station?] at hs

end Exchange

end MessageRelay
