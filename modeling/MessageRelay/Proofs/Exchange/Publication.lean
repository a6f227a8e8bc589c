import MessageRelay.Proofs.Envelope.RoundTrip
import MessageRelay.Proofs.Exchange.Rest

/-!
# A publication does all or nothing

A relay that publishes a message succeeds, and then the message was routed once; or it fails, and then nothing was
done.  Four things can stand in the way, and the first of them that does is the one that is reported
(`publish_all_or_nothing`).

While the message is on its way other things may go on, so what a publication does is compared with time that
passes without it.  Where nothing else goes on, that is no change but of the clock.
-/

namespace MessageRelay

/-! ## What stands in the way -/

/-- The wire form of a message. -/
def Envelope.wireForm (user text : String) : Bytes :=
  encodeField .user user ++ encodeField .text text

lemma Envelope.encode_eq_wireForm (e : Envelope) : e.encode = wireForm e.user e.text :=
  rfl

/-- Something that may stand in the way of a message. -/
structure Obstacle where
  /-- Whether it does. -/
  stands : Bool
  /-- The failure that is then reported. -/
  failure : RelayError
  /-- How much time has passed by then. -/
  spent : Nat
  deriving DecidableEq, Repr

namespace Relay

variable {link : Link} {r : Relay} {queue user text : String}

/-- What may stand in the way of a message, in the order in which it counts. -/
def obstacles (link : Link) (r : Relay) (queue user text : String) : List Obstacle :=
  let length := (Envelope.wireForm user text).length
  [⟨r.closed, ⟨.closed, "publish after queue relay close"⟩, 0⟩,
    ⟨Text.isBlank user, ⟨.malformedEnvelope, "user_name must not be empty"⟩, 0⟩,
    ⟨65536 < length, ⟨.sendFailure, s!"message is {length} bytes encoded, limit is 65536"⟩, 0⟩,
    ⟨r.publishBound < link.publishMs, ⟨.sendFailure, "publish to '" ++ queue ++ "' timed out after " ++
      Duration.display r.publishBound⟩, r.publishBound⟩]

/-- What stands in the way of a message first. -/
def obstacle? (link : Link) (r : Relay) (queue user text : String) : Option Obstacle :=
  (r.obstacles link queue user text).find? (·.stands)

/-- Nothing stands in the way of a message if the relay is open, the user is not blank, the message is not too long,
and the way is not either. -/
lemma obstacle?_eq_none :
    r.obstacle? link queue user text = none ↔ r.closed = false ∧ Text.isBlank user = false ∧
      (Envelope.wireForm user text).length ≤ 65536 ∧ link.publishMs ≤ r.publishBound := by
  simp [obstacle?, obstacles]

/-- What a relay sends is the wire form of the message, unless one of three things stands in the way. -/
lemma payloadOf_eq (r : Relay) (user text : String) :
    r.payloadOf user text =
      if r.closed then .error (closedError "publish")
      else if Text.isBlank user then .error Envelope.blankUser
      else if 65536 < (Envelope.wireForm user text).length then
        .error (Envelope.tooLong (Envelope.wireForm user text).length)
      else .ok (Envelope.wireForm user text) := by
  unfold payloadOf
  split
  · rfl
  · cases hblank : Text.isBlank user with
    | true => simp [Envelope.make_of_blank hblank]
    | false =>
      simp only [Envelope.make_of_not_blank hblank, Envelope.encodeForSend_eq, Envelope.encode_eq_wireForm]
      by_cases hlength : (Envelope.wireForm user text).length ≤ 65536
      · simp [Envelope.maxBytes, hlength, Nat.not_lt.2 hlength]
      · simp [Envelope.maxBytes, hlength, Nat.lt_of_not_le hlength]

/-- What stands in the way of a message makes the relay fail at once, or give the message up after a while. -/
lemma fails_of_obstacle {o : Obstacle} (h : r.obstacle? link queue user text = some o) :
    (r.payloadOf user text = .error o.failure ∧ o.spent = 0) ∨
      (r.payloadOf user text = .ok (Envelope.wireForm user text) ∧ r.publishDelay link = o.spent ∧
        ∀ b, r.arrive link queue (Envelope.wireForm user text) b = (.error o.failure, b)) := by
  rw [payloadOf_eq]
  by_cases hclosed : r.closed = true
  · obtain rfl : _ = o := by simpa [obstacle?, obstacles, hclosed] using h
    exact Or.inl ⟨if_pos hclosed, rfl⟩
  · rw [if_neg hclosed]
    by_cases hblank : Text.isBlank user = true
    · obtain rfl : _ = o := by simpa [obstacle?, obstacles, hclosed, hblank] using h
      exact Or.inl ⟨if_pos hblank, rfl⟩
    · rw [if_neg hblank]
      by_cases hlength : 65536 < (Envelope.wireForm user text).length
      · obtain rfl : _ = o := by simpa [obstacle?, obstacles, hclosed, hblank, hlength] using h
        exact Or.inl ⟨by rw [if_pos hlength, Envelope.tooLong_eq]; rfl, rfl⟩
      · by_cases hlate : r.publishBound < link.publishMs
        · obtain rfl : _ = o := by simpa [obstacle?, obstacles, hclosed, hblank, hlength, hlate] using h
          refine Or.inr ⟨if_neg hlength, Nat.min_eq_right (Nat.le_of_lt hlate), fun b => ?_⟩
          rw [arrive, if_pos hlate]
        · simp [obstacle?, obstacles, hclosed, hblank, hlength, hlate] at h

end Relay

namespace Exchange

variable {x x' : Exchange} {n : Nat} {s : Station} {queue user text : String}

/-! ## Relays while time passes -/

/-- Where somebody at a seat changes, but not his session, and is as open as he was, this holds of every relay. -/
lemma place_relay {seat : Seat} {s₀ s' : Station} (hs₀ : x.station? seat = some s₀)
    (hsession : s'.relay.session = s₀.relay.session) (hclosed : s'.relay.closed = s₀.relay.closed) (b : Broker)
    (hs : x.station? (.relay n) = some s) :
    ∃ s'', (x.place seat s' b).station? (.relay n) = some s'' ∧ s''.relay.session = s.relay.session ∧
      s''.relay.closed = s.relay.closed := by
  rw [place_station?, hs, Option.map_some]
  by_cases hseat : seat = .relay n
  · subst hseat
    rw [hs₀, Option.some.injEq] at hs
    subst hs
    exact ⟨s', congrArg some (if_pos rfl), hsession, hclosed⟩
  · exact ⟨s, congrArg some (if_neg hseat), rfl, rfl⟩

/-- Whatever goes on by itself, a relay keeps its session, and is as open as it was. -/
lemma Stride.relay (h : Stride x x') (hs : x.station? (.relay n) = some s) :
    ∃ s', x'.station? (.relay n) = some s' ∧ s'.relay.session = s.relay.session ∧
      s'.relay.closed = s.relay.closed := by
  cases h with
  | turn hs₀ hturn => exact place_relay hs₀ hturn.steady.session_eq hturn.steady.closed_eq _ hs
  | grant hs₀ =>
    refine place_relay hs₀ ?_ ?_ _ hs
    · rfl
    · rfl
  | loop | arrive | tasks | tick => exact ⟨s, hs, rfl, rfl⟩

lemma Strides.relay (h : Strides x x') (hs : x.station? (.relay n) = some s) :
    ∃ s', x'.station? (.relay n) = some s' ∧ s'.relay.session = s.relay.session ∧
      s'.relay.closed = s.relay.closed := by
  induction h with
  | refl => exact ⟨s, hs, rfl, rfl⟩
  | tail _ hlast ih =>
    obtain ⟨s₁, hs₁, hsession₁, hclosed₁⟩ := ih
    obtain ⟨s₂, hs₂, hsession₂, hclosed₂⟩ := hlast.relay hs₁
    exact ⟨s₂, hs₂, hsession₂.trans hsession₁, hclosed₂.trans hclosed₁⟩

/-- The session of a relay that is open is still open after a while. -/
lemma isOpen_pass {d : Doorway} (hx : x.Shipshape) (hr : Roster d x.station? x.broker)
    (hs : x.station? (.relay n) = some s) (hopen : s.relay.closed = false) (ms : Nat) :
    (x.pass ms).broker.isOpen s.relay.session = true := by
  obtain ⟨s', hs', hsession, hclosed⟩ := (pass_strides ms hx.allCrewed).relay hs
  obtain ⟨log, hdiary, -⟩ := pass_proceeds (d := d) ms hx
  exact ((hr.diary hdiary).isOpen _).2 (Or.inr (Or.inr ⟨.relay n, s', hs', hclosed.trans hopen, hsession⟩))

/-! ## What comes of a publication -/

lemma publish_of_obstacle {o : Obstacle} (hs : x.station? (.relay n) = some s)
    (h : s.relay.obstacle? x.link queue user text = some o) :
    x.publish n queue user text = (.error o.failure, x.pass o.spent) := by
  rcases Relay.fails_of_obstacle h with ⟨hpayload, hspent⟩ | ⟨hpayload, hspent, harrive⟩
  · rw [publish_of_error hs hpayload, hspent]
    rfl
  · rw [publish_of_ok queue hs hpayload (by rw [hspent]), harrive]

lemma publish_of_no_obstacle {d : Doorway} (hx : x.Shipshape) (hr : Roster d x.station? x.broker)
    (hs : x.station? (.relay n) = some s) (h : s.relay.obstacle? x.link queue user text = none) :
    x.publish n queue user text = (.ok (), { x.pass x.link.publishMs with
      broker := (x.pass x.link.publishMs).broker.route queue (Envelope.wireForm user text) }) := by
  obtain ⟨hopen, hblank, hlength, hbound⟩ := Relay.obstacle?_eq_none.1 h
  have hpayload : s.relay.payloadOf user text = .ok (Envelope.wireForm user text) := by
    rw [Relay.payloadOf_eq, if_neg (by simp [hopen]), if_neg (by simp [hblank]), if_neg (Nat.not_lt.2 hlength)]
  have hdelay : s.relay.publishDelay x.link = x.link.publishMs := Nat.min_eq_left hbound
  rw [publish_of_ok queue hs hpayload (by rw [hdelay]), Relay.arrive, if_neg (Nat.not_lt.2 hbound), Broker.publish,
    isOpen_pass hx hr hs hopen]
  rfl

/-- A publication does all or nothing.  If it succeeds then the message, which has been on its way for as long as that
takes, was routed once.  If it fails then the first thing that stands in the way is the reason, and all that has
happened is that time has passed, if it was only given up after a while.  The relay is as it was. -/
structure AllOrNothing (x : Exchange) (n : Nat) (s : Station) (queue user text : String) : Prop where
  ok_iff : (x.publish n queue user text).1 = .ok () ↔ s.relay.closed = false ∧ Text.isBlank user = false ∧
    (Envelope.wireForm user text).length ≤ 65536 ∧ x.link.publishMs ≤ s.relay.publishBound
  all : (x.publish n queue user text).1 = .ok () → (x.publish n queue user text).2 = { x.pass x.link.publishMs with
    broker := (x.pass x.link.publishMs).broker.route queue (Envelope.wireForm user text) }
  undeclared : (x.publish n queue user text).1 = .ok () → (x.pass x.link.publishMs).broker.queue? queue = none →
    (x.publish n queue user text).2 = x.pass x.link.publishMs
  nothing : ∀ e, (x.publish n queue user text).1 = .error e →
    ∃ o, s.relay.obstacle? x.link queue user text = some o ∧ o.failure = e ∧
      (x.publish n queue user text).2 = x.pass o.spent ∧ (o.spent = 0 → (x.publish n queue user text).2 = x)
  relay : ∃ s', (x.publish n queue user text).2.station? (.relay n) = some s' ∧
    s'.relay.session = s.relay.session ∧ s'.relay.closed = s.relay.closed

lemma allOrNothing {d : Doorway} (hx : x.Shipshape) (hr : Roster d x.station? x.broker)
    (hs : x.station? (.relay n) = some s) : x.AllOrNothing n s queue user text := by
  cases h : s.relay.obstacle? x.link queue user text with
  | some o =>
    have heq := publish_of_obstacle hs h
    have herror : (x.publish n queue user text).1 ≠ .ok () := by
      rw [heq]
      rintro ⟨⟩
    constructor
    · rw [← Relay.obstacle?_eq_none, h]
      exact iff_of_false herror (Option.some_ne_none o)
    · exact fun hok => absurd hok herror
    · exact fun hok => absurd hok herror
    · intro e he
      rw [heq] at he ⊢
      exact ⟨o, h, Except.error.inj he, rfl, fun hspent => by rw [hspent]; rfl⟩
    · rw [heq]
      exact (pass_strides o.spent hx.allCrewed).relay hs
  | none =>
    have heq := publish_of_no_obstacle hx hr hs h
    constructor
    · rw [← Relay.obstacle?_eq_none, heq]
      exact iff_of_true rfl h
    · intro _
      rw [heq]
    · intro _ hnone
      rw [heq, Broker.route_of_none hnone]
    · intro e he
      rw [heq] at he
      cases he
    · rw [heq, withBroker_station?]
      exact (pass_strides x.link.publishMs hx.allCrewed).relay hs

/-- **A publication does all or nothing**, whatever has happened in the exchange before, and also if it is not the first
of those that are made one after the other.  If it is the first, and no node has a message on its way, then nothing
changes while time passes but the clock. -/
theorem publish_all_or_nothing (link : Link) (before : List Command) (earlier : List String) (n : Nat)
    (queue user text : String) {x : Exchange} {s : Station}
    (hbefore : (publishAll n queue user earlier none (({ link } : Exchange).run before).2).2 = x)
    (hs : x.station? (.relay n) = some s) :
    x.AllOrNothing n s queue user text ∧
      (earlier = [] → (∀ node ∈ x.nodes, node.publication = none) → ∀ ms,
        x.pass ms = { x with clock := x.clock + ms }) := by
  have hx₀ := shipshape_run link before
  have honwards : OnwardsBy (fun _ => True) (({ link } : Exchange).run before).2 x :=
    hbefore ▸ publishAll_onwards n queue user earlier none hx₀ fun _ _ => trivial
  obtain ⟨log, hdiary, -⟩ := publishAll_proceeds (d := {}) n queue user earlier none hx₀
  rw [hbefore] at hdiary
  constructor
  · exact allOrNothing (honwards.shipshape hx₀) ((roster_run link before).diary hdiary) hs
  · rintro rfl hnone
    have hrest : x.Rested := hbefore ▸ rested_run link before
    exact pass_of_rested hrest hnone

/-- A relay joins a queue, and another is closed. -/
def toGather : List Command :=
  [.connect { queueName := "room" } 2, .connect {} 1, .join 0 "room", .close 1]

/-- A relay has joined a queue, and another was closed. -/
def gathering : Exchange :=
  (({ link := { publishMs := 3 } } : Exchange).run toGather).2

/-- The same, when the first of several messages was just published. -/
def gatheringAfterOne : Exchange :=
  (publishAll 0 "room" "ann" ["one"] none gathering).2

/-- The relay that has joined the queue. -/
def speaker : Station where
  relay := { session := 0, config := { queueName := "room" }, consumers := [{ queue := "room", stream := 0 }] }
  mailbox := { capacity := 2 }

/-- The relay publishes at rest, and when a message was just published. -/
theorem publish_all_or_nothing_gathering :
    (gathering.station? (.relay 0) = some speaker ∧ gatheringAfterOne.station? (.relay 0) = some speaker ∧
        ∀ node ∈ gathering.nodes, node.publication = none) ∧
      gathering.AllOrNothing 0 speaker "room" "ann" "one" ∧
      (∀ ms, gathering.pass ms = { gathering with clock := gathering.clock + ms }) ∧
      gatheringAfterOne.AllOrNothing 0 speaker "room" "ann" "two" :=
  have hfirst : gathering.station? (.relay 0) = some speaker := by decide +kernel
  have hnext : gatheringAfterOne.station? (.relay 0) = some speaker := by decide +kernel
  have hnone : ∀ node ∈ gathering.nodes, node.publication = none := by decide +kernel
  have hresult := publish_all_or_nothing { publishMs := 3 } toGather [] 0 "room" "ann" "one"
    (show _ = gathering from rfl) hfirst
  have hresult' := publish_all_or_nothing { publishMs := 3 } toGather ["one"] 0 "room" "ann" "two"
    (show _ = gatheringAfterOne from rfl) hnext
  ⟨⟨hfirst, hnext, hnone⟩, hresult.1, hresult.2 rfl hnone, hresult'.1⟩

end Exchange

end MessageRelay
