import MessageRelay.Proofs.Broker.Cargo
import MessageRelay.Proofs.Envelope.RoundTrip
import MessageRelay.Proofs.Exchange.Schedule

/-!
# Where messages come from

As long as no message is brought from outside, every message at the broker is the wire form of something
that was published to its queue.  Consumers can read what may be sent, so they refuse nothing, and every
event that says that a message came in is about a message that somebody has published to that queue before.

The log of a course is the evidence: an event has its reason in what stands before it in the log
(`Justified`).  The invariant of a course is `Vouched`, and the result `nothing_published_is_refused`.
-/

namespace MessageRelay

namespace Envelope

variable {user text user' text' : String} {payload : Bytes}

/-- What may be sent can be read. -/
lemma decode_of_encodeForSend {e : Envelope} (h : e.encodeForSend = .ok payload) :
    decode payload = .ok e := by
  rw [encodeForSend_eq] at h
  split at h
  · next hlen =>
    cases h
    -- the limit is far below what a varint can hold
    exact decode_eq_ok_iff.2 ⟨hlen, isMessage_encode e (Nat.lt_of_le_of_lt hlen (by decide))⟩
  · cases h

lemma Encodes.eventOf (h : Encodes user text payload) :
    ∃ e : Envelope, e.user = user ∧ e.text = text ∧ Relay.eventOf payload = (.received .queue e, .ack) := by
  obtain ⟨e, hmake, hencode⟩ := h
  obtain ⟨huser, htext⟩ := make_eq_ok_iff.1 hmake
  refine ⟨e, huser, htext, ?_⟩
  rw [Relay.eventOf, decode_of_encodeForSend hencode]

/-- A wire form is that of one message only. -/
lemma Encodes.unique (h : Encodes user text payload) (h' : Encodes user' text' payload) :
    user' = user ∧ text' = text := by
  obtain ⟨e, huser, htext, hevent⟩ := h.eventOf
  obtain ⟨e', huser', htext', hevent'⟩ := h'.eventOf
  rw [hevent] at hevent'
  cases hevent'
  exact ⟨huser'.symm.trans huser, htext'.symm.trans htext⟩

end Envelope

/-! ## What comes into a mailbox -/

namespace Station

variable {link : Link} {p p' : Station × Broker} {e : Option Entry} {sender : Sender}
  {event : Event}

/-- Those who wait for a place, or have one and have not used it, with the events in their hands. -/
def held (s : Station) : List (Sender × Event) :=
  s.mailbox.waiting ++ s.mailbox.granted

/-- Where a new event comes from: a consumer has just taken it from its stream, or it is the report of a
failure. -/
def Source (b : Broker) : Option Nat → Event → Prop
  | some stream, event => ∃ d b', b.poll stream = (.delivery d, b') ∧ event = (Relay.eventOf d.payload).1
  | none, event => ∃ t reason, event = .sendFailed t reason

lemma held_of_stopped {s : Station} {l : List Nat} (h : (sender, event) ∈ (s.stopped l).held) :
    (sender, event) ∈ s.held := by
  simp only [held, stopped, List.mem_append] at h ⊢
  exact h.imp List.mem_of_mem_filter List.mem_of_mem_filter

/-- Whoever has an event in hand has had it, or it has just come, unless a peer has called. -/
lemma Act.held_cases (h : Act link p e p') (hcalled : ∀ user text, e ≠ some (.called user text))
    (hmem : (sender, event) ∈ p'.1.held) :
    (sender, event) ∈ p.1.held ∨ Source p.2 sender.stream? event := by
  cases h with
  | post hc hpoll hoffer =>
    obtain ⟨-, -, rfl⟩ := Mailbox.offer_eq_posted hoffer
    exact Or.inl hmem
  | @wait _ _ b' c d _ hc hpoll hoffer =>
    obtain ⟨-, -, rfl⟩ := Mailbox.offer_eq_waits hoffer
    simp only [held, List.mem_append, List.mem_singleton, Prod.mk.injEq] at hmem
    rcases hmem with (hmem | ⟨rfl, rfl⟩) | hmem
    · exact Or.inl (List.mem_append_left _ hmem)
    · exact Or.inr ⟨d, b', hpoll, rfl⟩
    · exact Or.inl (List.mem_append_right _ hmem)
  | serveLast hc hpoll => exact Or.inl (Mailbox.mem_of_forget hmem)
  | stop hc => exact Or.inl (Mailbox.mem_of_forget hmem)
  | grant hg =>
    left
    rw [held, hg]
    exact (List.mem_append.1 hmem).elim (List.mem_append_left _)
      fun h => List.mem_append_right _ (List.mem_cons_of_mem _ h)
  | report t reason hroom => exact Or.inl hmem
  | hold sender hsender t reason hroom =>
    simp only [held, List.mem_append, List.mem_singleton, Prod.mk.injEq] at hmem
    rcases hmem with (hmem | ⟨rfl, rfl⟩) | hmem
    · exact Or.inl (List.mem_append_left _ hmem)
    · rw [hsender]
      exact Or.inr ⟨t, reason, rfl⟩
    · exact Or.inl (List.mem_append_right _ hmem)
  | called k user text hm => exact absurd rfl (hcalled user text)
  | hangUp =>
    exact Or.inl ((List.mem_append.1 hmem).elim (fun h => List.mem_append_left _ (List.mem_of_mem_filter h))
      fun h => List.mem_append_right _ h)
  | @take s _ limit =>
    exact Or.inl (Mailbox.mem_of_grant
      (m := { s.mailbox with posted := s.mailbox.posted.drop (limit.getD s.mailbox.posted.length) }) hmem)
  | discard =>
    rw [discardMailbox_eq] at hmem
    cases hmem
  | breakStream stream => exact Or.inl hmem
  | listen hconsume => exact Or.inl hmem
  | markClosed => exact Or.inl hmem
  | finishClose =>
    rw [finishClose_eq] at hmem
    exact Or.inl (held_of_stopped hmem)
  | @close s _ =>
    unfold Station.close at hmem
    split at hmem
    · exact Or.inl hmem
    · rw [finishClose_eq] at hmem
      exact Or.inl (held_of_stopped (s := s.markClosed) hmem)

/-- An event that comes into a mailbox was in somebody's hand, or it is new. -/
lemma Act.posts {stream : Option Nat} (h : Act link p (some (.posted stream event)) p') :
    (∃ sender, (sender, event) ∈ p.1.held ∧ sender.stream? = stream) ∨ Source p.2 stream event := by
  cases h with
  | @post _ _ b' c d _ hc hpoll hoffer => exact Or.inr ⟨d, b', hpoll, rfl⟩
  | @grant _ _ sender _ _ hg =>
    refine Or.inl ⟨sender, ?_, rfl⟩
    rw [held, hg]
    exact List.mem_append_right _ List.mem_cons_self
  | report t reason hroom => exact Or.inr ⟨t, reason, rfl⟩

/-- An event that is in a mailbox has been there, or has just come. -/
lemma Act.posted_cases (h : Act link p e p') (hcalled : ∀ user text, e ≠ some (.called user text))
    (hmem : event ∈ p'.1.mailbox.posted) :
    event ∈ p.1.mailbox.posted ∨ ∃ stream, e = some (.posted stream event) := by
  -- what is put into a mailbox stands at its end
  have hput : ∀ {m : Mailbox} {new : Event}, event ∈ (m.put new).posted → event ∈ m.posted ∨ event = new :=
    fun h => (List.mem_append.1 h).imp_right List.mem_singleton.1
  cases h with
  | post hc hpoll hoffer =>
    obtain ⟨-, -, rfl⟩ := Mailbox.offer_eq_posted hoffer
    exact (hput hmem).imp_right fun heq => ⟨_, by rw [heq]⟩
  | wait hc hpoll hoffer =>
    obtain ⟨-, -, rfl⟩ := Mailbox.offer_eq_waits hoffer
    exact Or.inl hmem
  | serveLast hc hpoll => exact Or.inl hmem
  | stop hc => exact Or.inl hmem
  | grant hg => exact (hput hmem).imp_right fun heq => ⟨_, by rw [heq]⟩
  | report t reason hroom => exact (hput hmem).imp_right fun heq => ⟨_, by rw [heq]⟩
  | hold => exact Or.inl hmem
  | called k user text hm => exact absurd rfl (hcalled user text)
  | hangUp => exact Or.inl hmem
  | take limit => exact Or.inl (List.mem_of_mem_drop hmem)
  | discard =>
    rw [discardMailbox_eq] at hmem
    cases hmem
  | breakStream stream => exact Or.inl hmem
  | listen hconsume => exact Or.inl hmem
  | markClosed => exact Or.inl hmem
  | finishClose =>
    rw [finishClose_eq] at hmem
    exact Or.inl hmem
  | close =>
    unfold Station.close at hmem
    split at hmem
    · exact Or.inl hmem
    · rw [finishClose_eq] at hmem
      exact Or.inl hmem

end Station

namespace Exchange

variable {x x' : Exchange} {h : Option Happening} {log before : List Happening} {seat : Seat}
  {s : Station} {n k : Nat} {node : Node} {queue user text : String} {stream : Option Nat} {event : Event}

/-! ## What is written down, and why -/

/-- Somebody has published this message to the queue. -/
def Published (log : List Happening) (queue : String) (payload : Bytes) : Prop :=
  ∃ seat user text, .published seat queue user text ∈ log ∧ Envelope.Encodes user text payload

/-- Why there is an event: if it comes from a stream, then it says that a message came in, and this message
was published to the queue of the stream; else it reports a failure. -/
def Warranted (streams : List Stream) (log : List Happening) : Option Nat → Event → Prop
  | some i, event => ∃ s seat e, streams[i]? = some s ∧ event = .received .queue e ∧
      .published seat s.queue e.user e.text ∈ log
  | none, event => ∃ t reason, event = .sendFailed t reason

/-- What stands in a log has its reason in what stands before it.  For an event it is as above; a node
publishes what its loop has begun to publish, and the loop takes what the node has accepted. -/
def Justified (streams : List Stream) (before : List Happening) : Happening → Prop
  | .posted _ stream event => Warranted streams before stream event
  | .published (.node n) _ user text => .sending n user text ∈ before
  | .sending n user text => .asked n user text ∈ before
  | .published (.relay _) .. | .asked .. | .called .. | .injected .. => True

/-- Reasons stay reasons: streams keep their queues. -/
lemma Warranted.works {ok : Desk.Command → Prop} (hw : Desk.Works ok x.desk x'.desk)
    (hwarranted : Warranted x.broker.streams before stream event) :
    Warranted x'.broker.streams before stream event := by
  cases stream with
  | none => exact hwarranted
  | some i =>
    obtain ⟨s, seat, e, hs, hevent, hmem⟩ := hwarranted
    obtain ⟨s', hs', hqueue⟩ := hw.stream_queue (i := i) (s := s) hs
    exact ⟨s', seat, e, hs', hevent, by rwa [hqueue]⟩

lemma Warranted.append {streams : List Stream} (hwarranted : Warranted streams log stream event)
    (more : List Happening) : Warranted streams (log ++ more) stream event := by
  cases stream with
  | none => exact hwarranted
  | some i =>
    obtain ⟨s, seat, e, hs, hevent, hmem⟩ := hwarranted
    exact ⟨s, seat, e, hs, hevent, List.mem_append_left _ hmem⟩

lemma Justified.works {ok : Desk.Command → Prop} (hw : Desk.Works ok x.desk x'.desk) {e : Happening}
    (hjustified : Justified x.broker.streams before e) : Justified x'.broker.streams before e := by
  cases e with
  | posted => exact Warranted.works hw hjustified
  | published seat => cases seat <;> exact hjustified
  | sending => exact hjustified
  | asked => trivial
  | called => trivial
  | injected => trivial

/-- The last entry of a log is the new one, and the others have stood there before. -/
lemma append_toList_split {after : List Happening} {e : Happening}
    (heq : log ++ h.toList = before ++ e :: after) :
    (h = some e ∧ before = log) ∨ ∃ after', log = before ++ e :: after' := by
  cases h with
  | none =>
    rw [Option.toList_none, List.append_nil] at heq
    exact Or.inr ⟨after, heq⟩
  | some new =>
    rcases List.eq_nil_or_concat after with rfl | ⟨init, last, rfl⟩
    · obtain ⟨rfl, hlast⟩ := List.append_inj' heq rfl
      cases hlast
      exact Or.inl ⟨rfl, rfl⟩
    · rw [List.concat_eq_append, ← List.cons_append, ← List.append_assoc] at heq
      exact Or.inr ⟨init, (List.append_inj' heq rfl).1⟩

/-! ## The invariant -/

/-- All that is in an exchange is accounted for by the log, and every entry of the log by those before
it. -/
structure Vouched (log : List Happening) (x : Exchange) : Prop where
  sound : x.desk.Sound
  laden : x.broker.Laden (Published log)
  unrefused : ∀ name, x.broker.count name .reject = 0
  held : ∀ {seat : Seat} {s : Station} {sender : Sender} {event : Event}, x.station? seat = some s →
    (sender, event) ∈ s.held → Warranted x.broker.streams log sender.stream? event
  posted : ∀ {seat : Seat} {s : Station} {event : Event}, x.station? seat = some s →
    event ∈ s.mailbox.posted → ∃ stream, .posted seat stream event ∈ log
  commands : ∀ {n : Nat} {node : Node} {user text : String}, x.nodes[n]? = some node →
    .send user text ∈ node.commands → .asked n user text ∈ log
  publication : ∀ {n : Nat} {node : Node} {p : Publication}, x.nodes[n]? = some node →
    node.publication = some p → ∃ user text, .sending n user text ∈ log ∧
      Envelope.Encodes user text p.payload
  justified : ∀ {before : List Happening} {e : Happening} {after : List Happening},
    log = before ++ e :: after → Justified x.broker.streams before e

namespace Vouched

lemma empty (link : Link) : Vouched [] { link } where
  sound := Desk.sound_empty
  laden := Broker.laden_empty _
  unrefused _ := rfl
  held {seat _ _ _} hs := by cases seat <;> simp [station?] at hs
  posted {seat _ _} hs := by cases seat <;> simp [station?] at hs
  commands hn := by simp at hn
  publication hn := by simp at hn
  justified heq := by simp at heq

/-- What a consumer takes from its stream was published, so it can read it. -/
lemma eventOf_poll (hv : Vouched log x) {i : Nat} {d : Delivery} {b : Broker}
    (hpoll : x.broker.poll i = (.delivery d, b)) :
    ∃ s seat e, x.broker.streams[i]? = some s ∧ .published seat s.queue e.user e.text ∈ log ∧
      Relay.eventOf d.payload = (.received .queue e, .ack) := by
  obtain ⟨s, hs, seat, user, text, hmem, hencodes⟩ := hv.laden.of_poll hpoll
  obtain ⟨e, rfl, rfl, hevent⟩ := hencodes.eventOf
  exact ⟨s, seat, e, hs, hmem, hevent⟩

lemma warranted_of_source (hv : Vouched log x) (hsource : Station.Source x.broker stream event) :
    Warranted x.broker.streams log stream event := by
  cases stream with
  | none => exact hsource
  | some i =>
    obtain ⟨d, b, hpoll, rfl⟩ := hsource
    obtain ⟨s, seat, e, hs, hmem, hevent⟩ := hv.eventOf_poll hpoll
    exact ⟨s, seat, e, hs, by rw [hevent], hmem⟩

/-- Whatever happens has its reason in the log. -/
lemma justifies (hv : Vouched log x) {e : Happening} (hm : Move x (some e) x') :
    Justified x.broker.streams log e := by
  generalize hh : some e = h at hm
  cases hm with
  | station hs hact hclosed =>
    obtain ⟨entry, rfl, rfl⟩ := Option.map_eq_some_iff.1 hh.symm
    cases entry with
    | posted stream event =>
      rcases hact.posts with ⟨sender, hheld, hstream⟩ | hsource
      · rw [Happening.ofEntry, Justified, ← hstream]
        exact hv.held hs hheld
      · exact hv.warranted_of_source hsource
    | called => trivial
  | publish => cases hh; trivial
  | ask => cases hh; trivial
  | send hn hrun hcommands =>
    cases hh
    exact hv.commands hn (by rw [hcommands]; exact List.mem_cons_self)
  | arrive hn hp hencodes =>
    cases hh
    obtain ⟨user, text, hmem, hencodes'⟩ := hv.publication hn hp
    obtain ⟨rfl, rfl⟩ := hencodes.unique hencodes'
    exact hmem
  | exit => cases hh
  | keep => cases hh
  | enrolRelay => cases hh
  | enrolNode => cases hh
  | drop => cases hh
  | broker => cases hh
  | inject => cases hh; trivial
  | tick => cases hh

/-- What is brought to the broker was published, unless it was brought from outside. -/
lemma laden_move (hv : Vouched log x) (hm : Move x h x') (hh : ∀ e, h = some e → e.isInjected = false) :
    x'.broker.Laden (Published (log ++ h.toList)) := by
  refine Desk.Works.laden hv.sound (hv.laden.mono ?_) hm.works ?_
  · rintro queue payload ⟨seat, user, text, hmem, hencodes⟩
    exact ⟨seat, user, text, List.mem_append_left _ hmem, hencodes⟩
  · rintro c (hc | ⟨queue, payload, rfl, rfl | ⟨seat, user, text, rfl, hencodes⟩⟩)
    · cases c with
      | publish => cases hc
      | control c => cases c <;> trivial
      | _ => trivial
    · cases hh _ rfl
    · exact ⟨seat, user, text, List.mem_append_right _ (List.mem_singleton.2 rfl), hencodes⟩

/-- Nothing is refused. -/
lemma unrefused_move (hv : Vouched log x) (hm : Move x h x') (name : String) :
    x'.broker.count name .reject = 0 := by
  rw [← hv.unrefused name]
  refine Desk.Works.unrefused hv.sound hm.works fun c hc n hreject => ?_
  subst hreject
  rcases hc with ⟨i, d, b, hpoll, hverdict⟩ | ⟨queue, payload, hinject, -⟩
  · obtain ⟨s, seat, e, -, -, hevent⟩ := hv.eventOf_poll hpoll
    rw [hevent] at hverdict
    cases hverdict
  · cases hinject

end Vouched

/-- A message that waits for the loop of a node was waiting before, or was just accepted. -/
lemma Move.command_cases (hm : Move x h x') {node' : Node} (hn' : x'.nodes[k]? = some node')
    (hmem : .send user text ∈ node'.commands) :
    (∃ node, x.nodes[k]? = some node ∧ .send user text ∈ node.commands) ∨
      h = some (.asked k user text) := by
  cases hm with
  | station hs hact hclosed =>
    rw [place_nodes] at hn'
    obtain ⟨node, hn, rfl⟩ := Option.map_eq_some_iff.1 hn'
    refine Or.inl ⟨node, hn, ?_⟩
    split at hmem <;> exact hmem
  | publish => exact Or.inl ⟨node', hn', hmem⟩
  | ask hn =>
    rcases setNode_nodes_cases hn' with ⟨rfl, rfl⟩ | ⟨-, hold⟩
    · rcases List.mem_append.1 hmem with hmem | hmem
      · exact Or.inl ⟨_, hn, hmem⟩
      · cases List.mem_singleton.1 hmem
        exact Or.inr rfl
    · exact Or.inl ⟨node', hold, hmem⟩
  | send hn hrun hcommands =>
    rw [noteUnderway_nodes] at hn'
    rcases setNode_nodes_cases hn' with ⟨rfl, rfl⟩ | ⟨-, hold⟩
    · exact Or.inl ⟨_, hn, by rw [hcommands]; exact List.mem_cons_of_mem _ hmem⟩
    · exact Or.inl ⟨node', hold, hmem⟩
  | arrive hn =>
    rcases setNode_nodes_cases hn' with ⟨rfl, rfl⟩ | ⟨-, hold⟩
    · exact Or.inl ⟨_, hn, hmem⟩
    · exact Or.inl ⟨node', hold, hmem⟩
  | exit hn =>
    rcases setNode_nodes_cases hn' with ⟨rfl, rfl⟩ | ⟨-, hold⟩
    · cases hmem
    · exact Or.inl ⟨node', hold, hmem⟩
  | keep hn hstation hdirect hpublication hphase hcommands =>
    rcases setNode_nodes_cases hn' with ⟨rfl, rfl⟩ | ⟨-, hold⟩
    · exact Or.inl ⟨_, hn, hcommands user text hmem⟩
    · exact Or.inl ⟨node', hold, hmem⟩
  | enrolRelay => exact Or.inl ⟨node', hn', hmem⟩
  | enrolNode =>
    rw [List.getElem?_append] at hn'
    split at hn'
    · exact Or.inl ⟨node', hn', hmem⟩
    · rw [List.mem_singleton.1 (List.mem_of_getElem? hn')] at hmem
      cases hmem
  | drop n => exact Or.inl ⟨node', hn', hmem⟩
  | broker => exact Or.inl ⟨node', hn', hmem⟩
  | inject => exact Or.inl ⟨node', hn', hmem⟩
  | tick => exact Or.inl ⟨node', hn', hmem⟩

/-- Unless something is brought from outside, no peer has called. -/
lemma not_called_of_not_isInjected {e : Option Station.Entry}
    (hh : ∀ h, e.map (Happening.ofEntry seat) = some h → h.isInjected = false) (user text : String) :
    e ≠ some (.called user text) := by
  rintro rfl
  cases hh _ rfl

/-- **Whatever happens, everything stays accounted for**, unless a message is brought from outside. -/
lemma Vouched.move (hv : Vouched log x) (hm : Move x h x')
    (hh : ∀ e, h = some e → e.isInjected = false) : Vouched (log ++ h.toList) x' where
  sound := Desk.Works.sound hv.sound hm.works
  laden := hv.laden_move hm hh
  unrefused := hv.unrefused_move hm
  held hs' hheld := by
    rcases hm.station_cases hs' with hs | ⟨s, e, hs, hact, rfl⟩ | hfresh
    · exact ((hv.held hs hheld).works hm.works).append _
    · rcases hact.held_cases (not_called_of_not_isInjected hh) hheld with hheld | hsource
      · exact ((hv.held hs hheld).works hm.works).append _
      · exact ((hv.warranted_of_source hsource).works hm.works).append _
    · rw [Station.held, hfresh.waiting, hfresh.granted] at hheld
      cases hheld
  posted hs' hposted := by
    have hold : ∀ {seat : Seat} {s : Station} {event : Event}, x.station? seat = some s →
        event ∈ s.mailbox.posted → ∃ stream, .posted seat stream event ∈ log ++ h.toList := by
      intro seat s event hs hmem
      obtain ⟨stream, hlog⟩ := hv.posted hs hmem
      exact ⟨stream, List.mem_append_left _ hlog⟩
    rcases hm.station_cases hs' with hs | ⟨s, e, hs, hact, rfl⟩ | hfresh
    · exact hold hs hposted
    · rcases hact.posted_cases (not_called_of_not_isInjected hh) hposted with hposted | ⟨stream, rfl⟩
      · exact hold hs hposted
      · exact ⟨stream, List.mem_append_right _ (List.mem_singleton.2 rfl)⟩
    · rw [hfresh.posted] at hposted
      cases hposted
  commands hn' hmem := by
    rcases hm.command_cases hn' hmem with ⟨node, hn, hmem⟩ | rfl
    · exact List.mem_append_left _ (hv.commands hn hmem)
    · exact List.mem_append_right _ (List.mem_singleton.2 rfl)
  publication hn' hp := by
    rcases hm.publication_cases hn' hp with ⟨node, hn, hp⟩ | ⟨user, text, rfl, hencodes⟩
    · obtain ⟨user, text, hmem, hencodes⟩ := hv.publication hn hp
      exact ⟨user, text, List.mem_append_left _ hmem, hencodes⟩
    · exact ⟨user, text, List.mem_append_right _ (List.mem_singleton.2 rfl), hencodes⟩
  justified heq := by
    rcases append_toList_split heq with ⟨rfl, rfl⟩ | ⟨after, hlog⟩
    · exact (hv.justifies hm).works hm.works
    · exact (hv.justified hlog).works hm.works

/-- What holds of one thing that happens holds of a whole course. -/
lemma Course.vouched {link : Link} (hc : Course { link } log x)
    (hlog : ∀ h ∈ log, h.isInjected = false) : Vouched log x := by
  induction hc with
  | start => exact .empty link
  | step _ hmove ih =>
    refine (ih fun h hmem => hlog h (List.mem_append_left _ hmem)).move hmove fun e he => ?_
    exact hlog e (List.mem_append_right _ (by rw [he]; exact List.mem_singleton.2 rfl))

/-! ## The result -/

/-- The messages and events of an exchange can be traced back through the log of its course. -/
structure Traceable (log : List Happening) (x : Exchange) : Prop where
  /-- No queue has counted a refusal. -/
  rejected : ∀ name q, x.broker.queue? name = some q → q.rejected = 0
  /-- No event says that something came in that is no message. -/
  malformed : ∀ seat stream t reason, .posted seat stream (.malformed t reason) ∉ log
  /-- A message that came in was published before to the queue whose stream it came through. -/
  received : ∀ before seat stream t e after,
    log = before ++ .posted seat stream (.received t e) :: after →
      ∃ i s publisher, stream = some i ∧ x.broker.streams[i]? = some s ∧
        .published publisher s.queue e.user e.text ∈ before
  /-- A message that a node has published was accepted by the node before, and taken up by its loop. -/
  published : ∀ before n queue user text after,
    log = before ++ .published (.node n) queue user text :: after →
      .asked n user text ∈ before ∧ .sending n user text ∈ before
  /-- All events that can be taken from a mailbox are in the log. -/
  posted : ∀ seat s event, x.station? seat = some s → event ∈ s.mailbox.posted →
    ∃ stream, .posted seat stream event ∈ log

lemma Vouched.received (hv : Vouched log x) {t : Transport} {e : Envelope} {after : List Happening}
    (heq : log = before ++ .posted seat stream (.received t e) :: after) :
    ∃ i s publisher, stream = some i ∧ x.broker.streams[i]? = some s ∧
      .published publisher s.queue e.user e.text ∈ before := by
  have hjustified : Warranted x.broker.streams before stream (.received t e) := hv.justified heq
  cases stream with
  | none =>
    obtain ⟨t', reason, hevent⟩ := hjustified
    cases hevent
  | some i =>
    obtain ⟨s, publisher, e', hs, hevent, hmem⟩ := hjustified
    cases hevent
    exact ⟨i, s, publisher, rfl, hs, hmem⟩

lemma Vouched.traceable (hv : Vouched log x) : Traceable log x where
  rejected name q hq := by
    have hcount := hv.unrefused name
    rwa [Broker.count_of_some hq] at hcount
  malformed seat stream t reason hmem := by
    obtain ⟨before, after, heq⟩ := List.append_of_mem hmem
    have hjustified : Warranted x.broker.streams before stream (.malformed t reason) := hv.justified heq
    cases stream with
    | none =>
      obtain ⟨t', reason', hevent⟩ := hjustified
      cases hevent
    | some i =>
      obtain ⟨s, publisher, e, -, hevent, -⟩ := hjustified
      cases hevent
  received before seat stream t e after heq := hv.received heq
  published before n queue user text after heq := by
    have hsending : .sending n user text ∈ before := hv.justified heq
    obtain ⟨first, rest, rfl⟩ := List.append_of_mem hsending
    rw [List.append_assoc, List.cons_append] at heq
    have hasked : .asked n user text ∈ first := hv.justified heq
    exact ⟨List.mem_append_left _ hasked, hsending⟩
  posted seat s event hs hmem := hv.posted hs hmem

/-- **No relay publishes what a relay would refuse.**  In every course of any relays and nodes on one broker
in which nothing is brought from outside, no message is refused, no event says that something malformed
came in, and every message that came in was published to that queue before.  Runs of commands are such
courses, in which relays publish and nodes accept what the commands say. -/
theorem nothing_published_is_refused (link : Link) :
    (∀ log x, Course { link } log x → (∀ h ∈ log, h.isInjected = false) → Traceable log x) ∧
      ∀ cs : List Command, (∀ c ∈ cs, c.injects = false) →
        ∃ log, Course { link } log (({ link } : Exchange).run cs).2 ∧
          (∀ h ∈ log, h.isPrompted = true → ∃ c ∈ cs, c.Prompts h) ∧
          Traceable log (({ link } : Exchange).run cs).2 := by
  refine ⟨fun log x hc hlog => (hc.vouched hlog).traceable, fun cs hcs => ?_⟩
  obtain ⟨log, hc, hprompts⟩ := run_course link cs
  refine ⟨log, hc, hprompts, (hc.vouched fun h hmem => ?_).traceable⟩
  rw [Bool.eq_false_iff]
  intro hinjected
  obtain ⟨c, hmem, hc⟩ := hprompts h hmem (Happening.isPrompted_of_isInjected hinjected)
  have hnot := hcs c hmem
  rw [Command.injects_of_prompts hc hinjected] at hnot
  cases hnot

/-- A run in which a relay that settles at once, one that settles by hand and a node share a queue; the
second waits at a full mailbox and is closed, the node is asked to send something that may not be sent, and
messages are still on their way when it is shut down. -/
def sharedRoom : List Command :=
  [.connect { ackMode := .auto } 4, .connect {} 1, .newNode { queue := some {} }, .start 0,
    .join 0 "chat", .join 1 "chat", .publish 0 "chat" "ann" ["", "hello", "again"],
    .burst 0 [.send "bob" "hi", .send "bob" "there"], .burst 0 [.send " " "nobody"], .close 1,
    .takeEvents (.relay 0) none,
    .shutdown 0]

theorem nothing_published_is_refused_sharedRoom :
    (∀ c ∈ sharedRoom, c.injects = false) ∧
      ∃ log, Course { link := { publishMs := 3 } } log
          (({ link := { publishMs := 3 } } : Exchange).run sharedRoom).2 ∧
        (∀ h ∈ log, h.isPrompted = true → ∃ c ∈ sharedRoom, c.Prompts h) ∧
        Traceable log (({ link := { publishMs := 3 } } : Exchange).run sharedRoom).2 :=
  ⟨by decide, (nothing_published_is_refused { publishMs := 3 }).2 sharedRoom (by decide)⟩

end Exchange

end MessageRelay
