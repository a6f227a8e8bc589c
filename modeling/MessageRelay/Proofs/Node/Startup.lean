import MessageRelay.Node.Startup
import MessageRelay.Proofs.Config.Validation

/-!
# Why nodes do not come up

A node whose settings make sense may not come up all the same, but then it is for what it meets outside: its address
cannot be listened on, its peer or its broker is out of reach, or its broker refuses something.  It is never for its
settings (`Startup.node_fromOutside`): nothing that is asked of them on the way was not asked before.

The same holds of nodes that are brought up at a broker they are given, however slow or unwilling it is
(`Exchange.newNode_fromOutside`).  Where there is no network, a node comes up, or does not, just as one that is alone
in an exchange (`standalone_eq`).
-/

namespace MessageRelay

/-- The failure is one that a node meets outside: nobody can be reached at an address, no connection to the broker
can be made, or the broker refuses something. -/
def RelayError.FromOutside (e : RelayError) : Prop :=
  e.kind = .connectFailure ∨ e.kind = .brokerUnavailable ∨ e.kind = .channelError

variable {e : RelayError}

/-! ## Direct relays -/

namespace Direct

variable {outlook : Outlook}

/-- A new server can be started, so only the system can be against it. -/
lemma listen_fromOutside {address : SocketAddress} (h : listen outlook .unbound address = .error e) :
    e.FromOutside := by
  simp only [listen, ne_eq, not_true_eq_false, if_false] at h
  refine .inl ?_
  split at h
  · cases h
    rfl
  · split at h <;> cases h
    rfl

lemma call_fromOutside {endpoint : String} {tried : Nat} (h : call outlook endpoint tried = .error e) :
    e.FromOutside := by
  unfold call at h
  refine .inl ?_
  split at h
  · cases h
    rfl
  · split at h <;> cases h
    rfl

lemma callAgain_fromOutside {endpoint : String} (left tried : Nat)
    (h : (callAgain outlook endpoint left tried).1 = .error e) : e.FromOutside := by
  induction left generalizing tried with
  | zero => exact call_fromOutside h
  | succ left ih =>
    rw [callAgain] at h
    split at h
    · cases h
    · exact ih (tried + 1) h

lemma bringUp_fromOutside {config : DirectConfig} (h : (bringUp outlook config).1 = .error e) : e.FromOutside := by
  unfold bringUp at h
  split at h
  · next hlisten =>
    cases h
    exact listen_fromOutside hlisten
  · exact callAgain_fromOutside _ _ (except_map_eq_error.1 h)

/-- Where nobody can be reached, every try fails for the same reason. -/
lemma callAgain_offline {endpoint : String} (hcall : ∀ tried, call offline endpoint tried = .error e)
    (left tried : Nat) : (callAgain offline endpoint left tried).1 = .error e := by
  induction left generalizing tried with
  | zero => exact hcall tried
  | succ left ih =>
    rw [callAgain, hcall]
    exact ih (tried + 1)

/-- Where nobody can be reached, no direct relay comes up. -/
lemma exists_bringUp_offline (config : DirectConfig) : ∃ e, (bringUp offline config).1 = .error e := by
  obtain ⟨e, he⟩ : ∃ e, ∀ tried, call offline config.peerEndpoint tried = .error e := by
    unfold call offline
    cases Uri.check config.peerEndpoint with
    | error fault => exact ⟨_, fun _ => rfl⟩
    | ok u => exact ⟨_, fun _ => rfl⟩
  have hcall := callAgain_offline he (config.connectAttempts.toNat - 1) 0
  refine ⟨e, ?_⟩
  simp only [bringUp, listen, offline] at hcall ⊢
  rw [hcall]
  rfl

end Direct

/-! ## Nodes that are given a broker -/

namespace Exchange

variable {x : Exchange} {link : Link} {config : QueueConfig} {b : Broker}

/-- Only what the broker says of a channel ends the tries before there is none left. -/
lemma kind_of_noChannel {timeouts : Timeouts} (h : (link.attempt timeouts b).1 = .noChannel e) :
    e.kind = .channelError := by
  simp only [Link.attempt] at h
  by_cases hlate : timeouts.connectMs.toNat < link.connectMs
  · rw [if_pos hlate] at h
    cases h
  · rw [if_neg hlate] at h
    split at h
    · cases h
    · split at h
      · next hkind =>
        cases h
        exact hkind
      · cases h

/-- Whoever tries to connect gets a channel, or the broker is why there is none. -/
lemma retry_fromOutside (left : Nat) (last : String) (spent : Nat) (b : Broker)
    (h : (link.retry config left last spent b).1 = .error e) : e.FromOutside := by
  induction left generalizing last spent b with
  | zero =>
    cases h
    exact .inr (.inl rfl)
  | succ left ih =>
    rw [Link.retry] at h
    split at h
    · cases h
    · next hattempt =>
      cases h
      exact .inr (.inr (kind_of_noChannel (congrArg Prod.fst hattempt)))
    · exact ih _ _ _ h

lemma openSession_fromOutside (hvalid : config.validate = .ok ()) (h : (x.openSession config).1 = .error e) :
    e.FromOutside := by
  unfold openSession Link.connect at h
  rw [hvalid] at h
  exact retry_fromOutside _ _ _ _ h

lemma declare_fromOutside {session : Nat} {queue : String} (h : (link.declare session queue b).1 = .error e) :
    e.FromOutside := by
  unfold Link.declare Broker.declare at h
  refine .inr (.inr ?_)
  split at h
  · cases h
    rfl
  · split at h
    · cases h
      rfl
    · split at h <;> cases h

lemma consume_fromOutside {session : Nat} {queue : String} {mode : AckMode}
    (h : (b.consume session queue mode).1 = .error e) : e.FromOutside := by
  unfold Broker.consume at h
  refine .inr (.inr ?_)
  split at h
  · cases h
    rfl
  · split at h
    · cases h
      rfl
    · cases h

/-- A relay that is open and has joined nothing depends on the broker for the second part of joining. -/
lemma finishJoin_fromOutside {relay : Relay} {queue : String} (hopen : relay.closed = false)
    (hnone : relay.hasJoined queue = false) (h : (relay.finishJoin queue b).1 = .error e) : e.FromOutside := by
  rcases hconsume : b.consume relay.session queue relay.config.ackMode with ⟨e' | stream, b'⟩
  · simp only [Relay.finishJoin, Relay.subscribe, hnone, hopen, hconsume, Bool.false_eq_true, if_false] at h
    cases h
    exact consume_fromOutside (congrArg Prod.fst hconsume)
  · simp only [Relay.finishJoin, Relay.subscribe, Relay.startConsumer, hnone, hopen, hconsume, Bool.false_eq_true,
      if_false] at h
    cases h

/-- A relay that was just connected comes up unless the broker is against it. -/
lemma bringUp_fromOutside {session : Nat} {transports : List Transport} {direct : Option DirectRelay}
    (hvalid : config.validate = .ok ()) (h : (x.bringUp { session, config } transports direct).1 = .error e) :
    e.FromOutside := by
  have hname := (QueueConfig.validate_eq_ok.1 hvalid).2.1
  unfold bringUp at h
  simp only [Relay.beginJoin, hname, Bool.false_eq_true, if_false] at h
  split at h
  · next hdeclare =>
    cases h
    exact declare_fromOutside (congrArg Prod.fst hdeclare)
  · split at h
    · next hjoin =>
      cases h
      exact finishJoin_fromOutside rfl rfl (congrArg Prod.fst hjoin)
    · cases h

lemma openDirect_fromOutside {outlook : Direct.Outlook} {config : Option DirectConfig}
    (h : (x.openDirect outlook config).1 = .error e) : e.FromOutside := by
  cases config with
  | none => cases h
  | some config => exact Direct.bringUp_fromOutside (except_map_eq_error.1 h)

/-- A node whose settings make sense and that is given a broker comes up, or it is for something outside. -/
lemma newNode_fromOutside {config : NodeConfig} {outlook : Direct.Outlook} (hvalid : config.validate = .ok ())
    (h : (x.newNode config outlook).1 = .error e) : e.FromOutside := by
  unfold newNode at h
  rw [hvalid] at h
  simp only at h
  split at h
  · next hdirect =>
    cases h
    exact openDirect_fromOutside (congrArg Prod.fst hdirect)
  · split at h
    · cases h
    · next queue hqueue =>
      have hvalid := (NodeConfig.validate_eq_ok.1 hvalid).2.2 queue hqueue
      split at h
      · next hsession =>
        cases h
        exact openSession_fromOutside hvalid (congrArg Prod.fst hsession)
      · exact bringUp_fromOutside hvalid (except_map_eq_error.1 h)

end Exchange

/-! ## Nodes in any surroundings -/

namespace Startup

variable {outside : Outside}

lemma kind_of_noChannel {config : QueueConfig} {tried : Nat} (h : attempt outside config tried = .noChannel e) :
    e.kind = .channelError := by
  unfold attempt at h
  split at h <;> cases h
  rfl

lemma reach_fromOutside {config : QueueConfig} (left tried : Nat) (last : String)
    (h : reach outside config left tried last = .error e) : e.FromOutside := by
  induction left generalizing tried last with
  | zero =>
    cases h
    exact .inr (.inl rfl)
  | succ left ih =>
    rw [reach] at h
    split at h
    · cases h
    · next hattempt =>
      cases h
      exact .inr (.inr (kind_of_noChannel hattempt))
    · exact ih _ _ h

/-- An open relay may join a queue whose name has passed the check, so only the broker can be against it. -/
lemma join_fromOutside {relay : Relay} {queue : String} (hopen : relay.closed = false)
    (hname : QueueName.validate queue = .ok ()) (h : join outside relay queue = .error e) : e.FromOutside := by
  simp only [join, hopen, hname, Bool.false_eq_true, if_false] at h
  refine .inr (.inr ?_)
  split at h
  · cases h
    rfl
  · split at h
    · cases h
    · split at h <;> cases h
      rfl

lemma remoteQueue_fromOutside {config : QueueConfig} (hvalid : config.validate = .ok ())
    (h : remoteQueue outside config = .error e) : e.FromOutside := by
  rw [remoteQueue, hvalid] at h
  rcases except_bind_eq_error.1 h with hvalidate | ⟨-, -, hrest⟩
  · cases hvalidate
  · rcases except_bind_eq_error.1 hrest with hreach | ⟨-, -, hjoin⟩
    · exact reach_fromOutside _ _ _ hreach
    · exact join_fromOutside rfl (QueueConfig.validate_eq_ok.1 hvalid).2.1 hjoin

lemma ownQueue_fromOutside {config : QueueConfig} (hvalid : config.validate = .ok ())
    (h : ownQueue config = .error e) : e.FromOutside := by
  unfold ownQueue at h
  split at h
  · next hsession =>
    cases h
    exact Exchange.openSession_fromOutside hvalid (congrArg Prod.fst hsession)
  · exact Exchange.bringUp_fromOutside hvalid (except_map_eq_error.1 h)

lemma queue_fromOutside {config : QueueConfig} {kind : BrokerKind} (hvalid : config.validate = .ok ())
    (h : queue outside config kind = .error e) : e.FromOutside := by
  cases kind with
  | memory => exact ownQueue_fromOutside hvalid h
  | amqp => exact remoteQueue_fromOutside hvalid h

/-- Settings that make sense name a broker of a known kind wherever they ask for one. -/
lemma exists_brokerKind {config : NodeConfig} (hvalid : config.validate = .ok ()) :
    ∃ kind, brokerKind config = .ok kind ∧ kind.isSome = config.queue.isSome := by
  unfold brokerKind
  cases hqueue : config.queue with
  | none => exact ⟨none, rfl, rfl⟩
  | some queue =>
    have haccepted := (QueueConfig.validate_eq_ok.1 ((NodeConfig.validate_eq_ok.1 hvalid).2.2 queue hqueue)).1
    obtain ⟨kind, hchoose⟩ := BrokerUri.exists_choose haccepted
    exact ⟨some kind, by simp only [hchoose]; rfl, rfl⟩

lemma directPart_fromOutside {config : NodeConfig} (h : directPart outside config = .error e) : e.FromOutside := by
  unfold directPart at h
  split at h
  · cases h
  · exact Direct.bringUp_fromOutside (except_map_eq_error.1 h)

/-- A queue relay that is asked for is given a broker, so only the broker can be against it. -/
lemma queuePart_fromOutside {config : NodeConfig} {kind : Option BrokerKind} (hvalid : config.validate = .ok ())
    (hkind : kind.isSome = config.queue.isSome) (h : queuePart outside config kind = .error e) : e.FromOutside := by
  unfold queuePart at h
  split at h
  · cases h
  · next hqueue =>
    rw [hqueue] at hkind
    cases hkind
  · next settings kind hqueue => exact queue_fromOutside ((NodeConfig.validate_eq_ok.1 hvalid).2.2 settings hqueue) h

lemma node_of_valid {config : NodeConfig} {kind : Option BrokerKind} (hvalid : config.validate = .ok ())
    (hkind : brokerKind config = .ok kind) : node outside config = transports outside config kind := by
  rw [node, hkind, hvalid]
  rfl

/-- **A node whose settings make sense comes up, or it is for something outside**, whatever it meets there. -/
lemma node_fromOutside {config : NodeConfig} (hvalid : config.validate = .ok ())
    (h : node outside config = .error e) : e.FromOutside := by
  obtain ⟨kind, hkind, hsome⟩ := exists_brokerKind hvalid
  rw [node_of_valid hvalid hkind] at h
  rcases except_bind_eq_error.1 h with hdirect | ⟨address, -, hrest⟩
  · exact directPart_fromOutside hdirect
  · rcases except_bind_eq_error.1 hrest with hqueue | ⟨-, -, hpure⟩
    · exact queuePart_fromOutside hvalid hsome hqueue
    · cases hpure

/-! ## Nodes without a network -/

lemma attempt_offline {config : QueueConfig} (hbound : config.timeouts.connectMs ≠ 0) (tried : Nat) :
    attempt offline config tried =
      .unreachable (Remote.connectError config.brokerUri config.timeouts.connectMs.toNat).message := by
  have hpositive : config.timeouts.connectMs.toNat ≠ 0 := fun h => hbound (UInt64.toNat_inj.1 h)
  have htext : ∀ reason, ": " ++ ("IO error: " ++ reason) = ": IO error: " ++ reason := by
    intro reason
    rw [← String.append_assoc]
    rfl
  simp only [attempt, offline, Remote.connectError, if_neg hpositive]
  cases BrokerAddress.parse config.brokerUri <;> simp only [String.append_assoc, htext]

lemma reach_offline {config : QueueConfig} (hbound : config.timeouts.connectMs ≠ 0) (left tried : Nat) (last : String) :
    reach offline config (left + 1) tried last =
      .error ⟨.brokerUnavailable, BrokerUri.redact config.brokerUri ++ " unreachable after " ++
        toString config.connectAttempts.toNat ++ " attempt(s): " ++
        (Remote.connectError config.brokerUri config.timeouts.connectMs.toNat).message⟩ := by
  induction left generalizing tried last with
  | zero =>
    rw [reach, attempt_offline hbound]
    rfl
  | succ left ih =>
    rw [reach, attempt_offline hbound]
    exact ih _ _

lemma remoteQueue_offline {config : QueueConfig} (hvalid : config.validate = .ok ()) :
    remoteQueue offline config = .error (Remote.relayError config) := by
  obtain ⟨-, -, hattempts, htimeouts⟩ := QueueConfig.validate_eq_ok.1 hvalid
  obtain ⟨left, hleft⟩ : ∃ left, config.connectAttempts.toNat = left + 1 :=
    Nat.exists_eq_add_one_of_ne_zero fun h => hattempts (UInt32.toNat_inj.1 h)
  have hreach := reach_offline (Timeouts.validate_eq_ok.1 htimeouts).1 left 0 ""
  rw [← hleft] at hreach
  simp only [remoteQueue, Remote.relayError, hvalid, hreach]
  rfl

/-- What the exchange says of a node that is brought up in it is all that is said of one that is alone. -/
lemma standalone_eq_newNode (config : NodeConfig) : (Exchange.standalone config).map (fun _ => ()) =
    (Exchange.reachBroker config >>= fun _ => (({} : Exchange).newNode config).1.map fun _ => ()) := by
  unfold Exchange.standalone
  cases Exchange.reachBroker config with
  | error e => rfl
  | ok u =>
    simp only [Exchange.step, Exchange.act]
    rcases ({} : Exchange).newNode config with ⟨e | _ | n, x⟩ <;> rfl

/-- A node without a direct relay has its broker inside this program, and comes up as in an exchange of its own. -/
lemma ownQueue_eq_newNode {config : NodeConfig} {queue : QueueConfig} (hvalid : config.validate = .ok ())
    (hdirect : config.direct = none) (hqueue : config.queue = some queue) :
    (({} : Exchange).newNode config).1.map (fun _ => ()) = ownQueue queue := by
  have htransports : config.transports = [.queue] := by
    rw [NodeConfig.transports, hdirect, hqueue]
    rfl
  unfold Exchange.newNode ownQueue
  simp only [hvalid, hdirect, hqueue, htransports, Exchange.openDirect]
  rcases ({} : Exchange).openSession queue with ⟨e | session, x⟩
  · rfl
  · simp only
    cases (x.bringUp { session, config := queue } [.queue]).1 <;> rfl

/-- Settings that make no sense are refused in the same place, before and after the broker is chosen. -/
lemma standalone_of_invalid {config : NodeConfig} (hinvalid : config.validate = .error e) :
    (Exchange.reachBroker config >>= fun _ => (({} : Exchange).newNode config).1.map fun _ => ()) =
      (node offline config).map fun _ => () := by
  cases hqueue : config.queue with
  | none =>
    simp only [Exchange.reachBroker, node, brokerKind, Exchange.newNode, hinvalid, hqueue]
    rfl
  | some queue =>
    rcases hchoose : BrokerUri.choose queue.brokerUri with e' | ⟨_ | _, name⟩ <;>
      simp only [Exchange.reachBroker, node, brokerKind, Exchange.newNode, hinvalid, hqueue, hchoose] <;> rfl

/-- A node with a direct relay does not come up for want of a peer, whatever else it asks for. -/
lemma standalone_of_direct {config : NodeConfig} {settings : DirectConfig} (hvalid : config.validate = .ok ())
    (hdirect : config.direct = some settings) :
    (Exchange.reachBroker config >>= fun _ => (({} : Exchange).newNode config).1.map fun _ => ()) =
      (node offline config).map fun _ => () := by
  obtain ⟨kind, hkind, -⟩ := exists_brokerKind hvalid
  have hreach : Exchange.reachBroker config = .ok () := by
    cases hqueue : config.queue with
    | none =>
      simp only [Exchange.reachBroker, hqueue]
      rfl
    | some queue =>
      obtain ⟨_ | _, hchoose⟩ := BrokerUri.exists_choose
        (QueueConfig.validate_eq_ok.1 ((NodeConfig.validate_eq_ok.1 hvalid).2.2 queue hqueue)).1 <;>
      · simp only [Exchange.reachBroker, hqueue, hchoose, hvalid, hdirect]
        rfl
  obtain ⟨e, he⟩ := Direct.exists_bringUp_offline settings
  have hpart : directPart offline config = .error e := by
    simp only [directPart, hdirect, offline, he]
    rfl
  rw [node_of_valid hvalid hkind, hreach]
  simp only [Exchange.newNode, Exchange.openDirect, hvalid, hdirect, transports, hpart, he]
  rfl

/-- A node without a direct relay has its broker inside this program, or cannot reach it. -/
lemma standalone_of_queue {config : NodeConfig} {queue : QueueConfig} (hvalid : config.validate = .ok ())
    (hdirect : config.direct = none) (hqueue : config.queue = some queue) :
    (Exchange.reachBroker config >>= fun _ => (({} : Exchange).newNode config).1.map fun _ => ()) =
      (node offline config).map fun _ => () := by
  have hvalid' := (NodeConfig.validate_eq_ok.1 hvalid).2.2 queue hqueue
  obtain ⟨kind, hchoose⟩ := BrokerUri.exists_choose (QueueConfig.validate_eq_ok.1 hvalid').1
  have hkind : brokerKind config = .ok (some kind) := by
    simp only [brokerKind, hqueue, hchoose]
    rfl
  have hnode : (node offline config).map (fun _ => ()) = Startup.queue offline queue kind := by
    rw [node_of_valid hvalid hkind]
    simp only [transports, directPart, queuePart, hdirect, hqueue]
    cases Startup.queue offline queue kind <;> rfl
  rw [hnode]
  cases kind with
  | memory =>
    rw [ownQueue_eq_newNode hvalid hdirect hqueue]
    simp only [Exchange.reachBroker, hqueue, hchoose]
    rfl
  | amqp =>
    have hremote : Startup.queue offline queue .amqp = .error (Remote.relayError queue) := remoteQueue_offline hvalid'
    simp only [Exchange.reachBroker, hqueue, hchoose, hvalid, hdirect, hremote]
    rfl

/-- **Where there is no network, nodes come up just as those that are alone in an exchange**, or do not for the same
reason. -/
lemma standalone_eq (config : NodeConfig) :
    (Exchange.standalone config).map (fun _ => ()) = (node offline config).map fun _ => () := by
  rw [standalone_eq_newNode]
  cases hvalid : config.validate with
  | error e => exact standalone_of_invalid hvalid
  | ok u =>
    cases hdirect : config.direct with
    | some settings => exact standalone_of_direct hvalid hdirect
    | none =>
      obtain ⟨queue, hqueue⟩ : ∃ queue, config.queue = some queue := by
        rw [← Option.isSome_iff_exists]
        simpa [hdirect] using (NodeConfig.validate_eq_ok.1 hvalid).1
      exact standalone_of_queue hvalid hdirect hqueue

lemma standalone_fromOutside {config : NodeConfig} (hvalid : config.validate = .ok ())
    (h : Exchange.standalone config = .error e) : e.FromOutside := by
  have hnode : (node offline config).map (fun _ => ()) = .error e := by
    rw [← standalone_eq, h]
    rfl
  exact node_fromOutside hvalid (except_map_eq_error.1 hnode)

end Startup

end MessageRelay
