import MessageRelay.Direct.Call
import MessageRelay.Proofs.Exchange.Receipt

/-!
# Both ways take the same messages

A message goes to a peer by a direct call, or through the broker by a queue.  A call carries the two fields of an
envelope; a queue carries its wire form, which is read again.  Both refuse the same messages, for the same reasons, and
do so before anything is sent; and what the one brings to the mailbox at its end, the other does too
(`both_ways_agree`).
-/

namespace MessageRelay

/-! ## What is sent -/

/-- **What a client hands over is what a relay publishes.** -/
lemma Relay.payloadOf_eq_outgoing {r : Relay} {c : Direct.Client} (hr : r.closed = false) (hc : c.closed = false)
    (user text : String) :
    r.payloadOf user text = match c.outgoing user text with
      | .error failure => .error failure
      | .ok e => .ok e.encode := by
  unfold Relay.payloadOf Direct.Client.outgoing
  rw [hr, hc]
  simp only [Bool.false_eq_true, if_false]
  cases Envelope.make user text with
  | error failure => rfl
  | ok e =>
    simp only [Envelope.encodeForSend]
    cases e.checkSize <;> rfl

namespace Direct

/-- What a client hands over is the message, and not too long. -/
lemma Client.outgoing_eq_ok {c : Client} {user text : String} {e : Envelope} (h : c.outgoing user text = .ok e) :
    (e.user = user ∧ e.text = text) ∧ e.encodeForSend = .ok e.encode := by
  unfold outgoing at h
  split at h
  · cases h
  · next hmake =>
    split at h
    · cases h
    · split at h
      · cases h
      · next hsize =>
        cases h
        exact ⟨Envelope.make_eq_ok_iff.1 hmake, by rw [Envelope.encodeForSend, hsize]⟩

/-! ## What a service acknowledges -/

namespace Service

variable {s s' : Service} {capacity : Nat}

/-- What can happen to a service. -/
inductive Next : Service → Service → Prop
  /-- A peer calls. -/
  | call (s : Service) (user text : String) : Next s (s.call user text).2
  /-- One event is taken. -/
  | receive (s : Service) : Next s s.receive.2
  /-- All events are taken. -/
  | drain (s : Service) : Next s { s with mailbox := (s.mailbox.take none).2.useGrants }
  /-- It is told to stop, or not to stop after all. -/
  | signal (s : Service) (stop : Bool) : Next s (s.signal stop)
  /-- Nobody can tell it to stop any more. -/
  | abandon (s : Service) : Next s s.abandon
  /-- The mailbox is thrown away. -/
  | discardMailbox (s : Service) : Next s s.discardMailbox

/-- What has become of a service that had an empty mailbox of the given size. -/
abbrev Reached (capacity : Nat) : Service → Prop :=
  Relation.ReflTransGen Next { mailbox := { capacity } }

/-- A call that waits has a number that was given out. -/
def Numbered (s : Service) : Prop :=
  ∀ e ∈ s.mailbox.waiting, ∀ n, e.1 = .call n → n < s.calls

lemma Numbered.of_waiting (h : s.Numbered) (hwaiting : s'.mailbox.waiting ⊆ s.mailbox.waiting)
    (hcalls : s.calls ≤ s'.calls) : s'.Numbered :=
  fun e he n hn => Nat.lt_of_lt_of_le (h e (hwaiting he) n hn) hcalls

lemma Numbered.call (h : s.Numbered) (user text : String) : (s.call user text).2.Numbered := by
  unfold Service.call
  cases hoffer : s.mailbox.offer (.call s.calls) (eventOf user text) with
  | posted m =>
    obtain ⟨-, -, rfl⟩ := Mailbox.offer_eq_posted hoffer
    exact h.of_waiting (List.Subset.refl _) (Nat.le_succ _)
  | refused => exact h.of_waiting (List.Subset.refl _) (Nat.le_succ _)
  | waits m =>
    obtain ⟨-, -, rfl⟩ := Mailbox.offer_eq_waits hoffer
    dsimp only
    split
    · exact h.of_waiting (List.Subset.refl _) (Nat.le_succ _)
    · intro e he n hn
      rcases List.mem_append.1 he with hold | hnew
      · exact Nat.lt_succ_of_lt (h e hold n hn)
      · rw [List.mem_singleton.1 hnew] at hn
        cases hn
        exact Nat.lt_succ_self _

lemma Next.numbered (h : Next s s') (hs : s.Numbered) : s'.Numbered := by
  cases h with
  | call user text => exact hs.call user text
  | receive | drain => exact hs.of_waiting (List.drop_subset _ _) (Nat.le_refl _)
  | signal stop =>
    cases stop with
    | true => exact hs.of_waiting (List.nil_subset _) (Nat.le_refl _)
    | false => exact hs
  | abandon | discardMailbox => exact hs.of_waiting (List.nil_subset _) (Nat.le_refl _)

lemma Reached.numbered (h : Reached capacity s) : s.Numbered := by
  induction h with
  | refl => exact fun e he => by cases he
  | tail _ hlast ih => exact hlast.numbered ih

/-- **Where there is room, a call posts its event and is acknowledged.** -/
lemma call_of_room (hs : s.Numbered) (hkept : s.mailbox.kept = true) (hroom : 0 < s.mailbox.room)
    (user text : String) :
    s.call user text =
        (s.calls, { s with calls := s.calls + 1, mailbox := s.mailbox.put (eventOf user text) }) ∧
      (s.call user text).2.isAcknowledged s.calls = true := by
  have heq : s.call user text =
      (s.calls, { s with calls := s.calls + 1, mailbox := s.mailbox.put (eventOf user text) }) := by
    simp [call, Mailbox.offer, hkept, hroom]
  refine ⟨heq, ?_⟩
  rw [heq]
  simp only [isAcknowledged, Bool.and_eq_true, decide_eq_true_eq, Bool.not_eq_true', List.contains_eq_mem,
    decide_eq_false_iff_not]
  refine ⟨Nat.lt_succ_self _, fun hmem => ?_⟩
  obtain ⟨⟨sender, event⟩, he, hn⟩ := List.mem_filterMap.1 hmem
  cases sender with
  | call n =>
    cases hn
    exact Nat.lt_irrefl _ (hs _ he _ rfl)
  | consumer | loop | outgoing => cases hn

end Service

/-- A server listens and there is room in its mailbox. -/
structure Server.Attends (s : Server) : Prop where
  listening : s.state = .listening
  reached : ∃ capacity, Service.Reached capacity s.service
  kept : s.service.mailbox.kept = true
  room : 0 < s.service.mailbox.room

/-- What lies between clients and servers carries to a server that listens whatever is not too long. -/
def Carrier.Carries (wire : Carrier) : Prop :=
  ∀ e : Envelope, e.encode.length ≤ 65536 → wire.carry .listening e = .ok (e.user, e.text)

/-- A server that attends posts what a client hands over. -/
lemma Server.Attends.accept {wire : Carrier} {s : Server} {e : Envelope} (h : s.Attends) (hwire : wire.Carries)
    (hlength : e.encode.length ≤ 65536) :
    s.accept wire e = (.ok (), { s with service := { s.service with
      calls := s.service.calls + 1, mailbox := s.service.mailbox.put (.received .direct e) } }) := by
  obtain ⟨capacity, hreached⟩ := h.reached
  obtain ⟨heq, hacknowledged⟩ := Service.call_of_room hreached.numbered h.kept h.room e.user e.text
  have hevent : Service.eventOf e.user e.text = .received .direct e := by
    rw [Service.eventOf, Envelope.make_user_text]
  rw [hevent] at heq
  rw [heq] at hacknowledged
  unfold Server.accept
  rw [h.listening, hwire e hlength]
  simp only [heq]
  rw [if_pos hacknowledged]

end Direct

namespace Exchange

variable {x : Exchange} {n : Nat} {name user text : String} {s : Station}

/-- What a relay publishes that attends to the queue comes back to it. -/
lemma step_publish_of_attends {payload : Bytes} {d : Doorway} (hx : x.Shipshape)
    (hr : Roster d x.station? x.broker) (hrest : x.Rested) (hfair : x.Fair)
    (hnone : ∀ node ∈ x.nodes, node.publication = none) (h : x.Attends (.relay n) name s)
    (hbound : x.link.publishMs ≤ s.relay.publishBound) (hpayload : s.relay.payloadOf user text = .ok payload) :
    (x.step (.publish n name user [text])).1 = .done ∧
      ∃ b', (x.step (.publish n name user [text])).2.2 =
        ({ x with clock := x.clock + s.relay.publishDelay x.link } : Exchange).place (.relay n)
          { s with mailbox := s.mailbox.put (Relay.eventOf payload).1 } b' := by
  have hisOpen : x.broker.isOpen s.relay.session = true :=
    (hr.isOpen _).2 (Or.inr (Or.inr ⟨.relay n, s, h.station, h.opened, rfl⟩))
  have hpublish := publish_of_ok name h.station hpayload
    (pass_of_rested hrest hnone (s.relay.publishDelay x.link))
  rw [show s.relay.arrive x.link name payload x.broker = (.ok (), x.broker.route name payload) by
    simp [Relay.arrive, Nat.not_lt.2 hbound, Broker.publish, hisOpen]] at hpublish
  have hact : x.act (.publish n name user [text]) = (.done, { x with
      clock := x.clock + s.relay.publishDelay x.link
      broker := x.broker.route name payload }) := by
    simp only [act, publishAll, hpublish]
    rfl
  obtain ⟨b', hquiesce⟩ := received_at_rest hx hr hrest hfair hnone h payload
    (x.clock + s.relay.publishDelay x.link)
  refine ⟨?_, b', ?_⟩
  · show (x.act (.publish n name user [text])).1 = _
    rw [hact]
  · rw [step_eq, hact]
    exact hquiesce

/-- A relay that has nothing to publish says why, and nothing happens. -/
lemma step_publish_of_error {failure : RelayError} (hrest : x.Rested)
    (hnone : ∀ node ∈ x.nodes, node.publication = none) (hs : x.station? (.relay n) = some s)
    (hpayload : s.relay.payloadOf user text = .error failure) :
    x.step (.publish n name user [text]) = (.failed failure, 0, x) := by
  have hact : x.act (.publish n name user [text]) = (.failed failure, x) := by
    simp only [act, publishAll, publish_of_error hs hpayload]
    rfl
  simp only [step, hact, quiesce_of_rested hrest hnone, Nat.sub_self]

end Exchange

/-! ## The main result -/

section

variable (x : Exchange) (n : Nat) (name : String) (s : Station) (wire : Direct.Carrier) (client : Direct.Client)
  (server : Direct.Server) (user text : String)

/-- **Both ways take a message**: the call to the server and what the relay publishes to its queue succeed, and each
posts one event, with the same envelope. -/
structure BothTake (e : Envelope) : Prop where
  user_eq : e.user = user
  text_eq : e.text = text
  called : client.sendTo wire server user text = ([], { server with service := { server.service with
    calls := server.service.calls + 1
    mailbox := server.service.mailbox.put (.received .direct e) } })
  published : (x.step (.publish n name user [text])).1 = .done
  received : (x.step (.publish n name user [text])).2.2.station? (.relay n) =
    some { s with mailbox := s.mailbox.put (.received .queue e) }
  others : ∀ other ≠ .relay n, (x.step (.publish n name user [text])).2.2.station? other = x.station? other

/-- **Both ways refuse a message**: the client does not call, and the relay does not publish; the reasons are the same. -/
structure BothRefuse (failure : RelayError) : Prop where
  not_outgoing : client.outgoing user text = .error failure
  not_called : client.sendTo wire server user text = ([.sendFailed .direct failure.message], server)
  not_published : x.step (.publish n name user [text]) = (.failed failure, 0, x)

end

/-- **Both ways take the same messages.**  A client that is open can reach a server that attends, and a relay attends to
its queue; nothing else is on its way.  Then a message that is handed to both comes to the mailboxes at both ends, as one
event each with the same envelope; or both refuse it with the same failure, and nothing is sent. -/
theorem both_ways_agree (link : Link) (before : List Exchange.Command) {x : Exchange} {n : Nat} {name : String}
    {s : Station} {wire : Direct.Carrier} {client : Direct.Client} {server : Direct.Server} (user text : String)
    (hbefore : (({ link } : Exchange).run before).2 = x) (hrelay : x.Attends (.relay n) name s)
    (hnone : ∀ node ∈ x.nodes, node.publication = none) (hbound : x.link.publishMs ≤ s.relay.publishBound)
    (hclient : client.closed = false) (hserver : server.Attends) (hwire : wire.Carries) :
    (∃ e, BothTake x n name s wire client server user text e) ∨
      ∃ failure, BothRefuse x n name wire client server user text failure := by
  have hrest : x.Rested := hbefore ▸ Exchange.rested_run link before
  have hpayload := Relay.payloadOf_eq_outgoing hrelay.opened hclient user text
  cases houtgoing : client.outgoing user text with
  | error failure =>
    refine Or.inr ⟨failure, houtgoing, ?_, ?_⟩
    · rw [Direct.Client.sendTo, Direct.Client.send_of_error houtgoing, houtgoing]
    · rw [houtgoing] at hpayload
      exact Exchange.step_publish_of_error hrest hnone hrelay.station hpayload
  | ok e =>
    obtain ⟨⟨rfl, rfl⟩, hencode⟩ := Direct.Client.outgoing_eq_ok houtgoing
    have hlength : e.encode.length ≤ 65536 := by
      rw [Envelope.encodeForSend_eq] at hencode
      split at hencode
      · assumption
      · cases hencode
    rw [houtgoing] at hpayload
    obtain ⟨hdone, b', hstep⟩ := Exchange.step_publish_of_attends (hbefore ▸ Exchange.shipshape_run link before)
      (hbefore ▸ Exchange.roster_run link before) hrest (hbefore ▸ Exchange.run_fair link before) hnone hrelay hbound
      hpayload
    rw [Relay.eventOf, Envelope.decode_of_encodeForSend hencode] at hstep
    refine Or.inl ⟨e, rfl, rfl, ?_, hdone, ?_, fun other hother => ?_⟩
    · rw [Direct.Client.sendTo, Direct.Client.send_of_ok houtgoing, houtgoing]
      simp only [hserver.accept hwire hlength]
    · rw [hstep]
      exact Exchange.place_station?_self hrelay.station _ b'
    · rw [hstep, Exchange.place_station?]
      have hsame : ∀ clock, ({ x with clock } : Exchange).station? other = x.station? other := by
        cases other <;> exact fun _ => rfl
      rw [hsame]
      cases x.station? other with
      | none => rfl
      | some s₁ => rw [Option.map_some, if_neg hother.symm]

/-- Three relays and a node have come up; one relay has joined a queue, and another has left it. -/
def meeting : Exchange :=
  (({ link := { publishMs := 3 } } : Exchange).run
    [.connect { queueName := "room" } 2, .connect { queueName := "room" } 4, .connect {} 1, .join 0 "room",
      .join 1 "room", .join 2 "chat", .newNode { queue := some { queueName := "hall" } }, .start 0,
      .publish 1 "room" "ann" ["one", "two"], .close 1]).2

/-- The relay that has joined the queue, with an event in its mailbox. -/
def attendant : Station where
  relay := { session := 0, config := { queueName := "room" }, consumers := [{ queue := "room", stream := 0 }] }
  mailbox := { capacity := 2, posted := [.received .queue ⟨"ann", "one", by decide⟩] }

/-- What lies between a client and a server on one machine. -/
def loopback : Direct.Carrier where
  carry state e :=
    if state = .listening then .ok (e.user, e.text) else .error ⟨.unavailable, "transport error"⟩
  late := ⟨.deadlineExceeded, "Timeout expired"⟩

/-- A server that was called once. -/
def calledOnce : Direct.Server where
  wanted := 0
  state := .listening
  port := some 49152
  service := (({ mailbox := { capacity := 2 } } : Direct.Service).call "bob" "hello").2

/-- Two messages are handed to both, of which the second has no sender. -/
theorem both_ways_agree_meeting :
    (meeting.Attends (.relay 0) "room" attendant ∧ (∀ node ∈ meeting.nodes, node.publication = none) ∧
        meeting.link.publishMs ≤ attendant.relay.publishBound ∧ calledOnce.Attends ∧ loopback.Carries) ∧
      ∀ user ∈ ["ann", " "],
        (∃ e, BothTake meeting 0 "room" attendant loopback ⟨"http://127.0.0.1:49152", false⟩ calledOnce user "three" e) ∨
          ∃ failure, BothRefuse meeting 0 "room" loopback ⟨"http://127.0.0.1:49152", false⟩ calledOnce user "three"
            failure :=
  have hrelay : meeting.Attends (.relay 0) "room" attendant := by decide +kernel
  have hnone : ∀ node ∈ meeting.nodes, node.publication = none := by decide +kernel
  have hbound : meeting.link.publishMs ≤ attendant.relay.publishBound := by decide +kernel
  have hserver : calledOnce.Attends := ⟨rfl, ⟨2, .single (.call _ _ _)⟩, by decide +kernel, by decide +kernel⟩
  have hwire : loopback.Carries := fun _ _ => rfl
  ⟨⟨hrelay, hnone, hbound, hserver, hwire⟩, fun user _ =>
    both_ways_agree _ _ user "three" rfl hrelay hnone hbound rfl hserver hwire⟩

end MessageRelay
