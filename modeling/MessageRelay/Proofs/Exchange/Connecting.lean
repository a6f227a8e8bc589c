import MessageRelay.Proofs.Config.Validation
import MessageRelay.Proofs.Exchange.Sessions

/-!
# How long it takes to connect

A relay tries to connect as often as its settings say, with a pause between two tries.  A try that takes too long, or
is refused, is followed by the next; one that finds a connection without a channel is the last.  So the time that
connecting takes, what comes of it and what it leaves behind have a closed form (`connect_closed_form`).

A sequence of tries that fail is run at once (`Link.retry_after`); the rest is to say how the next try ends.
-/

namespace MessageRelay

namespace QueueConfig

variable {config : QueueConfig}

/-- How often a connection is tried. -/
abbrev attempts (config : QueueConfig) : Nat :=
  config.connectAttempts.toNat

/-- How long a try to connect may take. -/
abbrev connectBound (config : QueueConfig) : Nat :=
  config.timeouts.connectMs.toNat

/-- How long the pause between two tries is. -/
abbrev pauseMs (config : QueueConfig) : Nat :=
  config.retryDelayMs.toNat

/-- With settings that make sense, a connection is tried at least once. -/
lemma attempts_pos (h : config.validate = .ok ()) : 0 < config.attempts := by
  obtain ⟨-, -, hattempts, -⟩ := validate_eq_ok.1 h
  exact Nat.pos_of_ne_zero fun hzero => hattempts (UInt32.toNat_inj.1 hzero)

end QueueConfig

namespace Link

variable {link : Link} {config : QueueConfig} {b b' : Broker} {reason : String} {ms session : Nat} {e : RelayError}

/-- There was no connection, for the given reason at the last try. -/
def unreachable (link : Link) (config : QueueConfig) (reason : String) : RelayError :=
  ⟨.brokerUnavailable, link.name ++ " unreachable after " ++ toString config.attempts ++ " attempt(s): " ++ reason⟩

/-! ## One try -/

lemma attempt_of_late (h : config.connectBound < link.connectMs) :
    link.attempt config.timeouts b =
      (.unreachable ("connect timed out after " ++ Duration.display config.connectBound), config.connectBound, b) := by
  rw [attempt, if_pos h]

lemma attempt_of_refusals (h : link.connectMs ≤ config.connectBound) (hb : 0 < b.refusals) :
    link.attempt config.timeouts b =
      (.unreachable "broker unavailable: memory broker refused connection", link.connectMs,
        { b with refusals := b.refusals - 1 }) := by
  obtain ⟨n, hn⟩ := Nat.exists_eq_add_one.2 hb
  simp only [attempt, if_neg (Nat.not_lt.2 h), Broker.connect, hn]
  rfl

lemma attempt_of_channelFault (h : link.connectMs ≤ config.connectBound) (hb : b.refusals = 0)
    (hfault : b.channelFault = true) :
    link.attempt config.timeouts b =
      (.noChannel ⟨.channelError, "memory broker refused channel"⟩, link.connectMs, { b with channelFault := false }) := by
  simp only [attempt, if_neg (Nat.not_lt.2 h), Broker.connect, hb, hfault, if_true]
  rfl

lemma attempt_of_connect (h : link.connectMs ≤ config.connectBound) (hb : b.refusals = 0)
    (hfault : b.channelFault = false) :
    link.attempt config.timeouts b =
      (.connected b.sessions.length, link.connectMs,
        { b with sessions := b.sessions ++ [true], openSessions := b.openSessions + 1 }) := by
  simp only [attempt, if_neg (Nat.not_lt.2 h), Broker.connect, hb, hfault, Bool.false_eq_true, if_false]

/-! ## Several tries -/

/-- Some tries fail, and others are left.  Here `f i` is the broker after `i` of them. -/
lemma retry_after (f : Nat → Broker) (k left : Nat) (last : String) (spent : Nat)
    (h : ∀ i < k, link.attempt config.timeouts (f i) = (.unreachable reason, ms, f (i + 1))) :
    link.retry config (k + (left + 1)) last spent (f 0) =
      link.retry config (left + 1) last (spent + k * (ms + config.pauseMs)) (f k) := by
  induction k generalizing f last spent with
  | zero => simp
  | succ k ih =>
    have hnext := ih (fun i => f (i + 1)) reason (spent + ms + config.pauseMs)
      fun i hi => h (i + 1) (Nat.succ_lt_succ hi)
    have hspent : spent + (k + 1) * (ms + config.pauseMs) = spent + ms + config.pauseMs + k * (ms + config.pauseMs) := by
      rw [Nat.succ_mul]
      omega
    -- why the last try failed does not matter as long as there is another one
    calc link.retry config (k + 1 + (left + 1)) last spent (f 0)
        = link.retry config (k + (left + 1)) reason (spent + ms + config.pauseMs) (f 1) := by
          rw [Nat.add_right_comm, retry, h 0 (Nat.zero_lt_succ k)]
          rfl
      _ = link.retry config (left + 1) last (spent + (k + 1) * (ms + config.pauseMs)) (f (k + 1)) := by
          rw [hnext, hspent]
          rfl

/-- All tries fail. -/
lemma retry_of_unreachable (f : Nat → Broker) (k : Nat) (last : String)
    (h : ∀ i < k + 1, link.attempt config.timeouts (f i) = (.unreachable reason, ms, f (i + 1))) :
    link.retry config (k + 1) last 0 (f 0) =
      (.error (link.unreachable config reason), (k + 1) * ms + k * config.pauseMs, f (k + 1)) := by
  have hspent : 0 + k * (ms + config.pauseMs) + ms + 0 = (k + 1) * ms + k * config.pauseMs := by
    rw [Nat.mul_add, Nat.succ_mul]
    omega
  rw [retry_after f k 0 last 0 fun i hi => h i (Nat.lt_succ_of_lt hi), retry, h k (Nat.lt_succ_self k), ← hspent]
  rfl

/-- Some tries are refused, and others are left. -/
lemma retry_after_refusals {k left : Nat} (last : String) (h : link.connectMs ≤ config.connectBound)
    (hk : k ≤ b.refusals) :
    link.retry config (k + (left + 1)) last 0 b =
      link.retry config (left + 1) last (k * (link.connectMs + config.pauseMs))
        { b with refusals := b.refusals - k } := by
  have hafter := retry_after (fun i => { b with refusals := b.refusals - i }) k left last 0
    fun i hi => attempt_of_refusals h (Nat.sub_pos_of_lt (Nat.lt_of_lt_of_le hi hk))
  simpa using hafter

/-! ## Connecting -/

lemma connect_of_valid (h : config.validate = .ok ()) (b : Broker) :
    link.connect config b = link.retry config config.attempts "" 0 b := by
  rw [connect, h]

/-- Every try takes too long. -/
lemma connect_of_late (hvalid : config.validate = .ok ()) (h : config.connectBound < link.connectMs) (b : Broker) :
    link.connect config b =
      (.error (link.unreachable config ("connect timed out after " ++ Duration.display config.connectBound)),
        config.attempts * config.connectBound + (config.attempts - 1) * config.pauseMs, b) := by
  obtain ⟨k, hk⟩ := Nat.exists_eq_add_one.2 (QueueConfig.attempts_pos hvalid)
  rw [connect_of_valid hvalid, hk]
  exact retry_of_unreachable (fun _ => b) k "" fun _ _ => attempt_of_late h

/-- Every try is refused. -/
lemma connect_of_refusals (hvalid : config.validate = .ok ()) (h : link.connectMs ≤ config.connectBound)
    (hb : config.attempts ≤ b.refusals) :
    link.connect config b =
      (.error (link.unreachable config "broker unavailable: memory broker refused connection"),
        config.attempts * link.connectMs + (config.attempts - 1) * config.pauseMs,
        { b with refusals := b.refusals - config.attempts }) := by
  obtain ⟨k, hk⟩ := Nat.exists_eq_add_one.2 (QueueConfig.attempts_pos hvalid)
  rw [connect_of_valid hvalid, hk]
  exact retry_of_unreachable (fun i => { b with refusals := b.refusals - i }) k ""
    fun i hi => attempt_of_refusals h (Nat.sub_pos_of_lt (by omega))

/-- As many tries are refused as the broker refuses, and then there is one more. -/
lemma connect_after_refusals (hvalid : config.validate = .ok ()) (h : link.connectMs ≤ config.connectBound)
    (hb : b.refusals < config.attempts) :
    ∃ left, link.connect config b =
      link.retry config (left + 1) "" (b.refusals * (link.connectMs + config.pauseMs)) { b with refusals := 0 } := by
  refine ⟨config.attempts - b.refusals - 1, ?_⟩
  have hleft : config.attempts = b.refusals + (config.attempts - b.refusals - 1 + 1) := by omega
  rw [connect_of_valid hvalid, hleft, retry_after_refusals "" h (Nat.le_refl _), ← hleft, Nat.sub_self]

lemma refusalsMs_eq (n ms pause : Nat) : n * (ms + pause) + ms = (n + 1) * ms + n * pause := by
  rw [Nat.mul_add, Nat.succ_mul]
  omega

/-- A try is not refused, but there is no channel. -/
lemma connect_of_channelFault (hvalid : config.validate = .ok ()) (h : link.connectMs ≤ config.connectBound)
    (hb : b.refusals < config.attempts) (hfault : b.channelFault = true) :
    link.connect config b =
      (.error ⟨.channelError, "memory broker refused channel"⟩,
        (b.refusals + 1) * link.connectMs + b.refusals * config.pauseMs,
        { b with refusals := 0, channelFault := false }) := by
  obtain ⟨left, heq⟩ := connect_after_refusals hvalid h hb
  rw [heq, retry, attempt_of_channelFault (b := { b with refusals := 0 }) h rfl hfault, ← refusalsMs_eq]

/-- A try is not refused, and there is a session. -/
lemma connect_of_session (hvalid : config.validate = .ok ()) (h : link.connectMs ≤ config.connectBound)
    (hb : b.refusals < config.attempts) (hfault : b.channelFault = false) :
    link.connect config b =
      (.ok b.sessions.length, (b.refusals + 1) * link.connectMs + b.refusals * config.pauseMs,
        { b with refusals := 0, sessions := b.sessions ++ [true], openSessions := b.openSessions + 1 }) := by
  obtain ⟨left, heq⟩ := connect_after_refusals hvalid h hb
  rw [heq, retry, attempt_of_connect (b := { b with refusals := 0 }) h rfl hfault, ← refusalsMs_eq]

/-- One session more is open if there is one, and none if there is not. -/
lemma connect_openSessions (link : Link) (hvalid : config.validate = .ok ()) (b : Broker) :
    (∀ e, (link.connect config b).1 = .error e → (link.connect config b).2.2.openSessions = b.openSessions) ∧
      ∀ session, (link.connect config b).1 = .ok session →
        (link.connect config b).2.2.openSessions = b.openSessions + 1 := by
  rcases Nat.lt_or_ge config.connectBound link.connectMs with hlate | htimely
  · rw [connect_of_late hvalid hlate]
    exact ⟨fun _ _ => rfl, fun _ h => by cases h⟩
  · rcases Nat.lt_or_ge b.refusals config.attempts with hb | hb
    · cases hfault : b.channelFault with
      | true =>
        rw [connect_of_channelFault hvalid htimely hb hfault]
        exact ⟨fun _ _ => rfl, fun _ h => by cases h⟩
      | false =>
        rw [connect_of_session hvalid htimely hb hfault]
        exact ⟨fun _ h => (by cases h), fun _ _ => rfl⟩
    · rw [connect_of_refusals hvalid htimely hb]
      exact ⟨fun _ _ => rfl, fun _ h => by cases h⟩

end Link

namespace Exchange

variable {x : Exchange} {config : QueueConfig} {capacity : Nat}

/-! ## Relays that connect -/

lemma connect_of_error {b : Broker} {e : RelayError} {ms : Nat}
    (h : x.link.connect config x.broker = (.error e, ms, b)) :
    x.connect config capacity = (.error e, ({ x with broker := b } : Exchange).pass ms) := by
  simp only [Exchange.connect, openSession, h]

lemma connect_of_ok {b : Broker} {session ms : Nat} (h : x.link.connect config x.broker = (.ok session, ms, b)) :
    x.connect config capacity = (.ok (({ x with broker := b } : Exchange).pass ms).relays.length,
      (({ x with broker := b } : Exchange).pass ms).enroll (newcomer session config capacity)) := by
  simp only [Exchange.connect, openSession, h]
  rfl

/-- How connecting goes, in closed form.  If each try takes too long, nothing reaches the broker.  Otherwise so many
tries are refused as the broker refuses, if there are that many, and then one is not: it finds no channel, and then
there is no other, or it finds a session. -/
structure ConnectsByRetry (x : Exchange) (config : QueueConfig) (capacity : Nat) : Prop where
  takes : (x.connect config capacity).2.clock = x.clock +
    if config.connectBound < x.link.connectMs then
      config.attempts * config.connectBound + (config.attempts - 1) * config.pauseMs
    else if config.attempts ≤ x.broker.refusals then
      config.attempts * x.link.connectMs + (config.attempts - 1) * config.pauseMs
    else (x.broker.refusals + 1) * x.link.connectMs + x.broker.refusals * config.pauseMs
  late : config.connectBound < x.link.connectMs →
    x.connect config capacity =
      (.error (x.link.unreachable config ("connect timed out after " ++ Duration.display config.connectBound)),
        x.pass (config.attempts * config.connectBound + (config.attempts - 1) * config.pauseMs))
  refused : x.link.connectMs ≤ config.connectBound → config.attempts ≤ x.broker.refusals →
    x.connect config capacity =
      (.error (x.link.unreachable config "broker unavailable: memory broker refused connection"),
        ({ x with broker := { x.broker with refusals := x.broker.refusals - config.attempts } } : Exchange).pass
          (config.attempts * x.link.connectMs + (config.attempts - 1) * config.pauseMs))
  noChannel : x.link.connectMs ≤ config.connectBound → x.broker.refusals < config.attempts →
    x.broker.channelFault = true →
    x.connect config capacity =
      (.error ⟨.channelError, "memory broker refused channel"⟩,
        ({ x with broker := { x.broker with refusals := 0, channelFault := false } } : Exchange).pass
          ((x.broker.refusals + 1) * x.link.connectMs + x.broker.refusals * config.pauseMs))
  connected : x.link.connectMs ≤ config.connectBound → x.broker.refusals < config.attempts →
    x.broker.channelFault = false → ∃ passed,
    ({ x with broker := { x.broker with
      refusals := 0
      sessions := x.broker.sessions ++ [true]
      openSessions := x.broker.openSessions + 1 } } : Exchange).pass
        ((x.broker.refusals + 1) * x.link.connectMs + x.broker.refusals * config.pauseMs) = passed ∧
    x.connect config capacity =
      (.ok passed.relays.length, passed.enroll (newcomer x.broker.sessions.length config capacity))

lemma connect_clock {result : Except RelayError Nat} {ms : Nat} {b : Broker}
    (h : x.link.connect config x.broker = (result, ms, b)) :
    (x.connect config capacity).2.clock = x.clock + ms := by
  cases result with
  | error e => rw [connect_of_error h, pass_clock]
  | ok session =>
    rw [connect_of_ok h]
    exact pass_clock _ _

lemma connectsByRetry (x : Exchange) (capacity : Nat) (hvalid : config.validate = .ok ()) :
    x.ConnectsByRetry config capacity where
  takes := by
    split
    · next hlate => exact connect_clock (Link.connect_of_late hvalid hlate x.broker)
    · next hlate =>
      have htimely := Nat.le_of_not_lt hlate
      split
      · next hb => exact connect_clock (Link.connect_of_refusals hvalid htimely hb)
      · next hb =>
        cases hfault : x.broker.channelFault with
        | true => exact connect_clock (Link.connect_of_channelFault hvalid htimely (Nat.lt_of_not_le hb) hfault)
        | false => exact connect_clock (Link.connect_of_session hvalid htimely (Nat.lt_of_not_le hb) hfault)
  late h := connect_of_error (Link.connect_of_late hvalid h x.broker)
  refused h hb := connect_of_error (Link.connect_of_refusals hvalid h hb)
  noChannel h hb hfault := connect_of_error (Link.connect_of_channelFault hvalid h hb hfault)
  connected h hb hfault := ⟨_, rfl, connect_of_ok (Link.connect_of_session hvalid h hb hfault)⟩

/-! ## Where nothing else goes on -/

/-- What goes on does not depend on the sessions of the broker, or on what it refuses. -/
lemma Rested.withBroker (h : x.Rested) {b : Broker} (hqueues : b.queues = x.broker.queues)
    (hstreams : b.streams = x.broker.streams) : ({ x with broker := b } : Exchange).Rested where
  granted hs := h.granted (withBroker_station? x b ▸ hs)
  loops hn := h.loops hn
  tasks hn := h.tasks hn
  consumers {seat s c} hs hc := by
    rw [withBroker_station?] at hs
    obtain ⟨hidle, hfed⟩ := h.consumers hs hc
    constructor
    · rcases hidle with hholds | ⟨hwhole, stream, hstream, hbuffer⟩
      · exact Or.inl hholds
      · exact Or.inr ⟨hwhole, stream, hstreams ▸ hstream, hbuffer⟩
    · show b.isFed c.stream = true
      rwa [Broker.isFed, hqueues]

/-- At rest, and with no message on its way, nothing happens while somebody connects but that he does. -/
lemma connect_broker (h : x.Rested) (hnone : ∀ node ∈ x.nodes, node.publication = none) (config : QueueConfig)
    (capacity : Nat) : (x.connect config capacity).2.broker = (x.link.connect config x.broker).2.2 := by
  have hsame := Link.connect_upTo x.link config (Nat.le_refl x.broker.sessions.length)
  rcases hconnect : x.link.connect config x.broker with ⟨result, ms, b⟩
  rw [hconnect] at hsame
  have hqueues : b.queues = x.broker.queues := congrArg (·.queues) hsame
  have hstreams : b.streams = x.broker.streams := congrArg (·.streams) hsame
  have hpass := pass_of_rested (h.withBroker hqueues hstreams) hnone ms
  cases result with
  | error e => rw [connect_of_error hconnect, hpass]
  | ok session => rw [connect_of_ok hconnect, hpass, enroll]

/-- **How connecting goes is a closed form** of how often it is tried, how long a try may take and takes, how long the
pause is, and what the broker refuses.  Where no node has a message on its way, one session more is open if a relay
comes up, and none if it does not. -/
theorem connect_closed_form (x : Exchange) {config : QueueConfig} (capacity : Nat)
    (hvalid : config.validate = .ok ()) :
    x.ConnectsByRetry config capacity ∧
      ∀ (link : Link) (before : List Command), (({ link } : Exchange).run before).2 = x →
        (∀ node ∈ x.nodes, node.publication = none) →
        (∀ e, (x.connect config capacity).1 = .error e →
          (x.connect config capacity).2.broker.openSessions = x.broker.openSessions) ∧
        ∀ k, (x.connect config capacity).1 = .ok k →
          (x.connect config capacity).2.broker.openSessions = x.broker.openSessions + 1 := by
  refine ⟨connectsByRetry x capacity hvalid, fun link before hbefore hnone => ?_⟩
  have hrest : x.Rested := hbefore ▸ rested_run link before
  obtain ⟨herror, hok⟩ := x.link.connect_openSessions hvalid x.broker
  rw [connect_broker hrest hnone]
  rcases hconnect : x.link.connect config x.broker with ⟨e | session, ms, b⟩
  · rw [hconnect] at herror
    rw [connect_of_error hconnect]
    exact ⟨fun _ _ => herror e rfl, fun _ hk => by cases hk⟩
  · rw [hconnect] at hok
    rw [connect_of_ok hconnect]
    exact ⟨fun _ he => (by cases he), fun _ _ => hok session rfl⟩

/-- A relay comes up; then the broker is to refuse two connections, and to have no channel for the third. -/
def toRefuse : List Command :=
  [.connect {} 1, .control (.refuseConnects 2), .control .refuseChannel]

/-- The broker is about to refuse. -/
def refusing : Exchange :=
  (({ link := { connectMs := 7 } } : Exchange).run toRefuse).2

/-- A relay with the default settings finds no channel at the third try. -/
theorem connect_closed_form_refusing :
    (({} : QueueConfig).validate = .ok () ∧ ∀ node ∈ refusing.nodes, node.publication = none) ∧
      refusing.ConnectsByRetry {} 4 ∧
      (∀ e, (refusing.connect {} 4).1 = .error e →
        (refusing.connect {} 4).2.broker.openSessions = refusing.broker.openSessions) ∧
      ∀ k, (refusing.connect {} 4).1 = .ok k →
        (refusing.connect {} 4).2.broker.openSessions = refusing.broker.openSessions + 1 :=
  have hvalid : ({} : QueueConfig).validate = .ok () := by decide +kernel
  have hnone : ∀ node ∈ refusing.nodes, node.publication = none := by decide +kernel
  have hresult := connect_closed_form refusing 4 hvalid
  ⟨⟨hvalid, hnone⟩, hresult.1, hresult.2 { connectMs := 7 } toRefuse rfl hnone⟩

end Exchange

end MessageRelay
