import MessageRelay.Proofs.Config.Resolution

/-!
# What the command line wins

The settings of a session are those of the file, where the command line does not give others.  Each thing that it gives
goes into one place, or into the same place of both relays, and nowhere else (`DirectConfig.MergedInto`,
`QueueConfig.MergedInto`).  So nothing changes when it is given once more: settings that are written to a file and read
from there are the same, with the command line or without (`merging_settles`).
-/

namespace MessageRelay

variable {o : Overrides}

/-! ## Place by place -/

/-- The bounds `t` are those of `base`, where the command line gives no others. -/
structure Timeouts.MergedInto (base : Timeouts) (o : Overrides) (t : Timeouts) : Prop where
  connectMs : t.connectMs = o.connectTimeoutMs.getD base.connectMs
  requestMs : t.requestMs = o.requestTimeoutMs.getD base.requestMs

/-- The settings `d` of a direct relay are those of `base`, where the command line gives no others.  A port means all
addresses of this machine, and a peer is given by its endpoint or by a host and a port. -/
structure DirectConfig.MergedInto (base : DirectConfig) (o : Overrides) (d : DirectConfig) : Prop where
  listenAddress : d.listenAddress = (o.listenPort.map (.v4 ⟨0, 0, 0, 0⟩)).getD base.listenAddress
  peerEndpoint : (o.peer.map Peer.parse).getD (.ok base.peerEndpoint) = .ok d.peerEndpoint
  connectAttempts : d.connectAttempts = o.connectAttempts.getD base.connectAttempts
  retryDelayMs : d.retryDelayMs = base.retryDelayMs
  timeouts : base.timeouts.MergedInto o d.timeouts

/-- The settings `q` of a queue relay are those of `base`, where the command line gives no others. -/
structure QueueConfig.MergedInto (base : QueueConfig) (o : Overrides) (q : QueueConfig) : Prop where
  brokerUri : q.brokerUri = o.broker.getD base.brokerUri
  queueName : q.queueName = o.queue.getD base.queueName
  ackMode : q.ackMode = o.ackMode.getD base.ackMode
  connectAttempts : q.connectAttempts = o.connectAttempts.getD base.connectAttempts
  retryDelayMs : q.retryDelayMs = base.retryDelayMs
  timeouts : base.timeouts.MergedInto o q.timeouts

namespace Overrides

lemma mergeTimeouts_eq {base t : Timeouts} : o.mergeTimeouts base = t ↔ base.MergedInto o t := by
  obtain ⟨connectMs, requestMs⟩ := t
  constructor
  · rintro ⟨⟩
    exact ⟨rfl, rfl⟩
  · rintro ⟨rfl, rfl⟩
    rfl

lemma mergePeer_eq_ok {base endpoint : String} :
    o.mergePeer base = .ok endpoint ↔ (o.peer.map Peer.parse).getD (.ok base) = .ok endpoint := by
  unfold mergePeer
  cases o.peer with
  | none => simp
  | some peer => cases hparse : Peer.parse peer <;> simp [hparse]

lemma mergeDirect_eq_ok {base d : DirectConfig} : o.mergeDirect base = .ok d ↔ base.MergedInto o d := by
  obtain ⟨listenAddress, peerEndpoint, connectAttempts, retryDelayMs, timeouts⟩ := d
  constructor
  · intro h
    unfold mergeDirect at h
    split at h
    · cases h
    · next hpeer =>
      cases h
      exact ⟨rfl, mergePeer_eq_ok.1 hpeer, rfl, rfl, mergeTimeouts_eq.1 rfl⟩
  · rintro ⟨rfl, hpeer, rfl, rfl, htimeouts⟩
    obtain rfl := mergeTimeouts_eq.2 htimeouts
    simp only [mergeDirect, mergePeer_eq_ok.2 hpeer]
    rfl

lemma mergeQueue_eq {base q : QueueConfig} : o.mergeQueue base = q ↔ base.MergedInto o q := by
  obtain ⟨brokerUri, queueName, ackMode, connectAttempts, retryDelayMs, timeouts⟩ := q
  constructor
  · rintro ⟨⟩
    exact ⟨rfl, rfl, rfl, rfl, rfl, mergeTimeouts_eq.1 rfl⟩
  · rintro ⟨rfl, rfl, rfl, rfl, rfl, htimeouts⟩
    obtain rfl := mergeTimeouts_eq.2 htimeouts
    rfl

/-! ## Section by section -/

/-- A direct relay is configured in the file or asked for by the command line, and is given the settings of the file or
the usual ones. -/
lemma directSection_eq_some {section? : Option DirectConfig} {d : DirectConfig} :
    o.directSection section? = .ok (some d) ↔
      (section?.isSome ∨ o.enablesDirect = true) ∧ (section?.getD {}).MergedInto o d := by
  have hmerge : ∀ base, (o.mergeDirect base).map some = .ok (some d) ↔ base.MergedInto o d := by
    intro base
    rw [← mergeDirect_eq_ok]
    cases o.mergeDirect base <;> simp [Except.map]
  unfold directSection
  cases section? with
  | some base => simpa using hmerge base
  | none => cases o.enablesDirect <;> simp [hmerge]

lemma queueSection_eq_some {section? : Option QueueConfig} {q : QueueConfig} :
    o.queueSection section? = some q ↔
      (section?.isSome ∨ o.enablesQueue = true) ∧ (section?.getD {}).MergedInto o q := by
  unfold queueSection
  cases section? with
  | some base => simp [mergeQueue_eq]
  | none => cases o.enablesQueue <;> simp [mergeQueue_eq]

/-- A section is there just if the file has it or the command line gives something that only this section needs. -/
lemma isSome_of_directSection {section? direct : Option DirectConfig} (h : o.directSection section? = .ok direct) :
    direct.isSome ↔ section?.isSome ∨ o.listenPort.isSome ∨ o.peer.isSome := by
  have henables : o.enablesDirect = true ↔ o.listenPort.isSome ∨ o.peer.isSome := Bool.or_eq_true_iff
  rw [← henables]
  cases direct with
  | none =>
    obtain ⟨hsection, hnothing⟩ := directSection_eq_none.1 h
    simp [hsection, hnothing]
  | some d => simpa using (directSection_eq_some.1 h).1

lemma isSome_queueSection (section? : Option QueueConfig) :
    (o.queueSection section?).isSome ↔ section?.isSome ∨ o.broker.isSome ∨ o.queue.isSome ∨ o.ackMode.isSome := by
  have henables : o.enablesQueue = true ↔ o.broker.isSome ∨ o.queue.isSome ∨ o.ackMode.isSome := by
    unfold enablesQueue
    rw [Bool.or_eq_true, Bool.or_eq_true, or_assoc]
  rw [← henables]
  unfold queueSection
  cases section? <;> cases o.enablesQueue <;> simp

end Overrides

/-! ## Once more -/

section Again

/-- What is given wins over itself. -/
lemma eq_getD_again {α : Type} {given : Option α} {base x : α} (h : x = given.getD base) : x = given.getD x := by
  cases given with
  | none => rfl
  | some a => exact h

lemma Timeouts.MergedInto.again {base t : Timeouts} (h : base.MergedInto o t) : t.MergedInto o t where
  connectMs := eq_getD_again h.connectMs
  requestMs := eq_getD_again h.requestMs

lemma Timeouts.mergedInto_self (t : Timeouts) : t.MergedInto {} t := ⟨rfl, rfl⟩

lemma DirectConfig.MergedInto.again {base d : DirectConfig} (h : base.MergedInto o d) : d.MergedInto o d where
  listenAddress := eq_getD_again h.listenAddress
  peerEndpoint := (eq_getD_again h.peerEndpoint.symm).symm
  connectAttempts := eq_getD_again h.connectAttempts
  retryDelayMs := rfl
  timeouts := h.timeouts.again

lemma DirectConfig.mergedInto_self (d : DirectConfig) : d.MergedInto {} d :=
  ⟨rfl, rfl, rfl, rfl, d.timeouts.mergedInto_self⟩

lemma QueueConfig.MergedInto.again {base q : QueueConfig} (h : base.MergedInto o q) : q.MergedInto o q where
  brokerUri := eq_getD_again h.brokerUri
  queueName := eq_getD_again h.queueName
  ackMode := eq_getD_again h.ackMode
  connectAttempts := eq_getD_again h.connectAttempts
  retryDelayMs := rfl
  timeouts := h.timeouts.again

lemma QueueConfig.mergedInto_self (q : QueueConfig) : q.MergedInto {} q :=
  ⟨rfl, rfl, rfl, rfl, rfl, q.timeouts.mergedInto_self⟩

end Again

namespace Overrides

/-- A section that was put together is not changed when the command line gives the same again. -/
lemma directSection_again {section? direct : Option DirectConfig} (h : o.directSection section? = .ok direct) :
    o.directSection direct = .ok direct := by
  cases direct with
  | none => exact directSection_eq_none.2 ⟨rfl, (directSection_eq_none.1 h).2⟩
  | some d => exact directSection_eq_some.2 ⟨.inl rfl, (directSection_eq_some.1 h).2.again⟩

lemma queueSection_again {section? queue : Option QueueConfig} (h : o.queueSection section? = queue) :
    o.queueSection queue = queue := by
  cases queue with
  | none => exact queueSection_eq_none.2 ⟨rfl, (queueSection_eq_none.1 h).2⟩
  | some q => exact queueSection_eq_some.2 ⟨.inl rfl, (queueSection_eq_some.1 h).2.again⟩

/-- Nor is any section changed when the command line gives nothing. -/
lemma directSection_nothing (direct : Option DirectConfig) : ({} : Overrides).directSection direct = .ok direct := by
  cases direct with
  | none => rfl
  | some d => exact directSection_eq_some.2 ⟨.inl rfl, d.mergedInto_self⟩

lemma queueSection_nothing (queue : Option QueueConfig) : ({} : Overrides).queueSection queue = queue := by
  cases queue with
  | none => rfl
  | some q => exact queueSection_eq_some.2 ⟨.inl rfl, q.mergedInto_self⟩

end Overrides

namespace ChatConfig

variable {file : ConfigFile} {loginName loginName' : Option String} {g : ChatConfig}

/-- The settings of a session, written to a configuration file. -/
def toFile (g : ChatConfig) : ConfigFile where
  user := some g.user
  direct := g.node.direct
  queue := g.node.queue

/-- Whoever is named in a file is not replaced by the login name. -/
lemma resolveUser_toFile (huser : g.user = resolveUser file o loginName) :
    resolveUser g.toFile o loginName' = g.user := by
  have hblank : Text.isBlank g.user = false := huser ▸ resolveUser_not_blank file o loginName
  cases hname : o.user with
  | none => simp [resolveUser, toFile, hname, hblank]
  | some name => simp [huser, resolveUser, hname]

lemma resolveUser_nothing (huser : Text.isBlank g.user = false) : resolveUser g.toFile {} loginName' = g.user := by
  simp [resolveUser, toFile, huser]

/-- **Merging settles.**  Of the settings of a session,

* a section is there just if the file has it or the command line gives something that only this section needs,
* each field of a section is what the command line gives for it, or else what the file says, or else the usual, and
* they come out again if they are written to a file and put together once more, with the same command line or with none,
  whoever is logged in. -/
theorem merging_settles (h : resolve file o loginName = .ok g) :
    (g.node.direct.isSome ↔ file.direct.isSome ∨ o.listenPort.isSome ∨ o.peer.isSome) ∧
    (g.node.queue.isSome ↔ file.queue.isSome ∨ o.broker.isSome ∨ o.queue.isSome ∨ o.ackMode.isSome) ∧
    (∀ d, g.node.direct = some d → (file.direct.getD {}).MergedInto o d) ∧
    (∀ q, g.node.queue = some q → (file.queue.getD {}).MergedInto o q) ∧
    ∀ loginName', resolve g.toFile o loginName' = .ok g ∧ resolve g.toFile {} loginName' = .ok g := by
  obtain ⟨hdirect, hqueue, huser, hvalid⟩ := resolve_eq_ok.1 h
  have hblank : Text.isBlank g.user = false := huser ▸ resolveUser_not_blank file o loginName
  refine ⟨Overrides.isSome_of_directSection hdirect, hqueue ▸ Overrides.isSome_queueSection file.queue,
    fun d hd => ?_, fun q hq => ?_, fun loginName' => ⟨?_, ?_⟩⟩
  · exact (Overrides.directSection_eq_some.1 (hd ▸ hdirect)).2
  · exact (Overrides.queueSection_eq_some.1 (hqueue.symm.trans hq)).2
  · exact resolve_eq_ok.2 ⟨Overrides.directSection_again hdirect, (Overrides.queueSection_again hqueue.symm).symm,
      (resolveUser_toFile huser).symm, hvalid⟩
  · exact resolve_eq_ok.2 ⟨Overrides.directSection_nothing _, (Overrides.queueSection_nothing _).symm,
      (resolveUser_nothing hblank).symm, hvalid⟩

/-- The file has a queue relay, the command line a peer, a name that is blank, and a bound for calls of both relays. -/
theorem merging_settles_bothRelays :
    let file : ConfigFile := { user := some "carol", queue := some { queueName := "lobby", connectAttempts := 7 } }
    let o : Overrides :=
      { user := some " ", peer := some "peer.local:+07000", queue := some "room", requestTimeoutMs := some 250 }
    let bounds : Timeouts := { requestMs := 250 }
    let d : DirectConfig := { peerEndpoint := "http://peer.local:7000", timeouts := bounds }
    let q : QueueConfig := { queueName := "room", connectAttempts := 7, timeouts := bounds }
    let g : ChatConfig := { user := "anonymous", node := { direct := some d, queue := some q } }
    resolve file o (some "ann") = .ok g ∧ DirectConfig.MergedInto {} o d ∧
      QueueConfig.MergedInto { queueName := "lobby", connectAttempts := 7 } o q ∧
      resolve g.toFile o none = .ok g ∧ resolve g.toFile {} (some "bob") = .ok g := by
  intro file o bounds d q g
  have hg : resolve file o (some "ann") = .ok g := by decide +kernel
  obtain ⟨-, -, hdirect, hqueue, hagain⟩ := merging_settles hg
  exact ⟨hg, hdirect d rfl, hqueue q rfl, (hagain none).1, (hagain (some "bob")).2⟩

end ChatConfig

end MessageRelay
