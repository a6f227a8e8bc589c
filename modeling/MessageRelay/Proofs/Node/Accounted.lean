import MessageRelay.Proofs.Node.Ledger

/-!
# No message disappears

The ledger of a node balances after every run (`Diary.passage`), and if there always is a place in its mailbox then
every failure has been reported (`run_reports`).  So no message disappears but those that wait when the loop ends,
which are forgotten without a word (`messages_accounted_for`).
-/

namespace MessageRelay

/-- A node that has nothing to do, and nothing in its mailbox. -/
def Node.blank (relay : Relay) (transports : List Transport) (direct : Option DirectRelay) : Node :=
  { station := { relay, mailbox := { capacity := Node.maxEvents } }, direct, transports }

namespace Exchange

variable {x x' : Exchange} {d d' : Doorway} {seat : Seat} {s s' : Station} {b : Broker} {k n : Nat}
  {node node' : Node} {log entries : List (Nat × Entry)}

/-! ## Diaries -/

lemma place_passage (hn : x.nodes[k]? = some node) (hs : x.station? seat = some s)
    (h : s.mailbox.Hears [] s'.mailbox) (b : Broker) :
    ∃ node', (x.place seat s' b).nodes[k]? = some node' ∧ node.Passage [] node' := by
  rw [place_nodes, hn, Option.map_some]
  refine ⟨_, rfl, ?_⟩
  split
  · next hseat =>
    rw [hseat, station?, hn, Option.map_some, Option.some.injEq] at hs
    rw [← hs] at h
    exact .of_station h
  · exact .refl node

/-- **Whatever is done, the ledger of a node says what became of the node.** -/
lemma Deed.passage (h : Deed d x entries d' x') (hn : x.nodes[k]? = some node) :
    ∃ node', x'.nodes[k]? = some node' ∧ node.Passage (ledgerOf k entries) node' := by
  cases h with
  | turn hs h => exact place_passage hn hs h.hears _
  | grant hs h => exact place_passage hn hs (.grant h) _
  | @node n acting acting' b es hn' h =>
    by_cases hk : n = k
    · subst hk
      rw [hn, Option.some.injEq] at hn'
      subst hn'
      rw [ledgerOf_map_self]
      exact ⟨acting', withNode_nodes_self hn _, h.passage⟩
    · rw [ledgerOf_map_of_ne hk]
      refine ⟨node, ?_, .refl node⟩
      rw [withNode, setNode, List.getElem?_set_ne hk]
      exact hn
  | @take seat s hs limit =>
    rw [place_nodes, hn, Option.map_some]
    refine ⟨_, rfl, ?_⟩
    by_cases hseat : seat = .node k
    · subst hseat
      rw [if_pos rfl, ledgerOf_emptied]
      exact .emptied node _
    · have hledger : ledgerOf k seat.emptied = [] := by
        cases seat with
        | relay n => rfl
        | node n => exact ledgerOf_map_of_ne (fun heq => hseat (by rw [heq])) [.emptied]
      rw [if_neg hseat, hledger]
      exact .refl node
  | discard hs =>
    refine place_passage hn hs (.of_not_isOpen fun hopen => ?_) _
    have hkept := hopen.1
    rw [Station.discardMailbox_kept] at hkept
    cases hkept
  | breakStream hs | listen hs | retire hs => exact place_passage hn hs (by exact .refl _) _
  | leave hs =>
    refine place_passage hn hs ?_ _
    rw [Station.finishClose_eq]
    exact .leave List.filter_sublist List.filter_sublist List.count_nil List.not_mem_nil
  | enrolNode hmem config transports direct =>
    have hlt : k < x.nodes.length := (List.getElem?_eq_some_iff.1 hn).1
    refine ⟨node, ?_, ?_⟩
    · rw [List.getElem?_append_left hlt]
      exact hn
    · have hother : ledgerOf k [(x.nodes.length, .enrolled)] = [] := ledgerOf_map_of_ne hlt.ne' [.enrolled]
      rw [hother]
      exact .refl node
  | tick | decline | drop | office | welcome | enrolRelay | dismiss => exact ⟨node, hn, .refl node⟩

lemma Diary.passage (h : Diary d x log d' x') (hn : x.nodes[k]? = some node) :
    ∃ node', x'.nodes[k]? = some node' ∧ node.Passage (ledgerOf k log) node' := by
  induction h with
  | start => exact ⟨node, hn, .refl node⟩
  | step _ hdeed ih =>
    obtain ⟨node', hn', hpassage⟩ := ih
    obtain ⟨node'', hn'', hlast⟩ := hdeed.passage hn'
    rw [ledgerOf_append]
    exact ⟨node'', hn'', hpassage.trans hlast⟩

/-- In the time of a diary the loop of a node ends, or it is settled that it never starts, while a message
waits; all the messages that wait are forgotten. -/
def EndsWaiting (k : Nat) (message : String × String) (d : Doorway) (x : Exchange) (log : List (Nat × Entry))
    (d' : Doorway) (x' : Exchange) : Prop :=
  ∃ (log₁ log₂ : List (Nat × Entry)) (d₁ : Doorway) (y : Exchange) (node : Node), Diary d x log₁ d₁ y ∧
    y.nodes[k]? = some node ∧ (node.phase = .unstarted ∨ node.canRun = true) ∧ message ∈ node.messages ∧
    Diary d₁ (y.withNode k (node.exit y.link y.broker)) log₂ d' x' ∧
    log = log₁ ++ (node.messages.map fun m => (k, .settled m.1 m.2 .forgotten)) ++ log₂

/-- **Only what waits when the loop ends is forgotten.** -/
lemma Diary.forgotten {user text : String} (h : Diary d x log d' x')
    (hmem : (k, .settled user text .forgotten) ∈ log) : EndsWaiting k (user, text) d x log d' x' := by
  induction h with
  | start => cases hmem
  | @step log entries d₁ d₂ y y' hdiary hdeed ih =>
    rcases List.mem_append.1 hmem with hold | hnew
    · obtain ⟨log₁, log₂, d₀, z, node, hbefore, hn, hends, hwaits, hafter, rfl⟩ := ih hold
      exact ⟨log₁, log₂ ++ entries, d₀, z, node, hbefore, hn, hends, hwaits, .step hafter hdeed,
        List.append_assoc ..⟩
    · cases hdeed with
      | @node n node node' b es hn hdoing =>
        obtain ⟨e, he, heq⟩ := List.mem_map.1 hnew
        cases heq
        cases hdoing with
        | exit hends =>
          obtain ⟨m, hm, heq⟩ := List.mem_map.1 he
          cases heq
          refine ⟨log, [], d₁, y, node, hdiary, hn, hends, hm, .start, ?_⟩
          rw [List.append_nil, List.map_map]
          rfl
        | accept _ c => cases c <;> simp [NodeCommand.entries] at he
        | refuse | fail | giveUp => simp [Mailbox.reportFate_ne_forgotten] at he
        | begin | land | direct | note => simp at he
      | @take seat => cases seat <;> simp [Seat.emptied] at hnew
      | enrolNode => simp at hnew
      | _ => cases hnew

/-! ## Runs -/

/-- Whether the user has the mailbox of a node, and there is a place in it. -/
def hasPlace (x : Exchange) (k : Nat) : Bool :=
  x.nodes[k]?.any fun node => node.station.mailbox.kept && decide (0 < node.station.mailbox.room)

lemma isOpen_of_hasPlace (hn : x.nodes[k]? = some node) (h : x.hasPlace k = true) :
    node.station.mailbox.IsOpen := by
  rw [hasPlace, hn, Option.any_some, Bool.and_eq_true, decide_eq_true_eq] at h
  exact Mailbox.isOpen_of_room h.1 h.2

/-- The events that a command takes from the mailbox at a seat. -/
def eventsTaken (seat : Seat) (x : Exchange) : Command → List Event
  | .takeEvents other limit => if other = seat then (x.takeEvents seat limit).1 else []
  | _ => []

lemma eventsTaken_eq_nil {c : Command} (hc : ∀ limit, c ≠ .takeEvents seat limit) : x.eventsTaken seat c = [] := by
  cases c with
  | takeEvents other limit => exact if_neg fun heq => hc limit (by rw [heq])
  | _ => rfl

/-- The events of a node are only taken when somebody asks for it. -/
lemma emptied_notMem_prompts {a : Answer} {c : Command} (hc : ∀ limit, c ≠ .takeEvents (.node k) limit) :
    (k, .emptied) ∉ c.prompts x a := by
  intro hmem
  cases c with
  | takeEvents seat limit =>
    cases seat with
    | relay n => simp [Command.prompts, Seat.emptied] at hmem
    | node n =>
      have hother : k ≠ n := fun heq => hc limit (by rw [heq])
      simp [Command.prompts, Seat.emptied, hother] at hmem
  | newNode config outlook => cases a <;> simp [Command.prompts] at hmem
  | burst n calls =>
    simp only [Command.prompts] at hmem
    split at hmem
    · obtain ⟨e, he, heq⟩ := List.mem_map.1 hmem
      obtain ⟨call, -, user, text, -, rfl⟩ := NodeCall.of_mem_entries he
      cases heq
    · cases hmem
  | request n c | submit n c => cases c <;> simp [Command.prompts, NodeCommand.entries] at hmem
  | _ => cases hmem

lemma prompted_append (log log' : List (Nat × Entry)) : prompted (log ++ log') = prompted log ++ prompted log' :=
  List.filter_append ..

lemma emptied_mem_prompted : (k, .emptied) ∈ prompted log ↔ .emptied ∈ ledgerOf k log := by
  rw [mem_ledgerOf, prompted, List.mem_filter]
  exact and_iff_left rfl

/-- The user takes events from the mailbox of a node, and then everything goes on. -/
lemma takeEvents_reports (limit : Option Nat) (hx : x.Shipshape) (hn : x.nodes[k]? = some node)
    (htransports : node.SendsToQueue) (hcalm : node.station.mailbox.IsCalm)
    (hplace : (x.step (.takeEvents (.node k) limit)).2.2.hasPlace k = true) :
    ∃ log node', Diary {} x log {} (x.step (.takeEvents (.node k) limit)).2.2 ∧
      prompted log = [(k, .emptied)] ∧
      (x.step (.takeEvents (.node k) limit)).2.2.nodes[k]? = some node' ∧
      node.Reports (x.takeEvents (.node k) limit).1 (ledgerOf k log) node' := by
  have hs : x.station? (.node k) = some node.station := by rw [station?, hn, Option.map_some]
  have hshape := (act_onwards_of_command (.takeEvents (.node k) limit) hx).shipshape hx
  have htaken : (x.takeEvents (.node k) limit).1 = (node.station.mailbox.take limit).1 := by
    simp only [takeEvents, hs]
  have hacted : (x.act (.takeEvents (.node k) limit)).2 =
      x.place (.node k) { node.station with mailbox := (node.station.mailbox.take limit).2 } x.broker := by
    simp only [act, takeEvents, hs]
    rfl
  rw [step_eq] at hplace ⊢
  rw [hacted] at hplace hshape ⊢
  rw [htaken]
  obtain ⟨log, hdiary, hlog⟩ := quiesce_proceeds (d := {}) hshape
  have hn₁ := withNode_nodes_self hn ({ node with
    station := { node.station with mailbox := (node.station.mailbox.take limit).2 } }, x.broker)
  rw [← place_node hn] at hn₁
  obtain ⟨node', hn', hpassage⟩ := hdiary.passage hn₁
  have htook := Node.take_reports limit htransports hcalm
  have hnone : .emptied ∉ ledgerOf k log := by
    rw [← emptied_mem_prompted, hlog]
    exact List.not_mem_nil
  have hreports := hpassage.reports hnone htook.transports htook.calm (isOpen_of_hasPlace hn' hplace)
  have hall : Diary {} x ((Seat.node k).emptied ++ log) {} _ := Diary.trans (.step .start (.take hs limit)) hdiary
  refine ⟨_, node', hall, ?_, hn', ?_⟩
  · rw [prompted_append, hlog]
    rfl
  · rw [ledgerOf_append, ledgerOf_emptied, ← List.append_nil (node.station.mailbox.take limit).1]
    exact htook.trans hreports

/-- **A command after which there is room in the mailbox of a node has left no failure without a report.** -/
lemma step_reports (c : Command) (hx : x.Shipshape) (hn : x.nodes[k]? = some node)
    (htransports : node.SendsToQueue) (hcalm : node.station.mailbox.IsCalm)
    (hplace : (x.step c).2.2.hasPlace k = true) :
    ∃ log node', Diary {} x log {} (x.step c).2.2 ∧ prompted log = c.prompts x (x.step c).1 ∧
      (x.step c).2.2.nodes[k]? = some node' ∧
      node.Reports (x.eventsTaken (.node k) c) (ledgerOf k log) node' := by
  by_cases hc : ∃ limit, c = .takeEvents (.node k) limit
  · obtain ⟨limit, rfl⟩ := hc
    have hsome : (x.station? (.node k)).isSome = true := by
      rw [station?, hn]
      rfl
    have hprompts : ∀ a, Command.prompts x a (.takeEvents (.node k) limit) = [(k, .emptied)] := by
      intro a
      rw [Command.prompts, if_pos hsome]
      rfl
    have htaken : x.eventsTaken (.node k) (.takeEvents (.node k) limit) =
        (x.takeEvents (.node k) limit).1 := if_pos rfl
    rw [hprompts, htaken]
    exact takeEvents_reports limit hx hn htransports hcalm hplace
  · rw [not_exists] at hc
    obtain ⟨log, hdiary, hlog⟩ := step_proceeds c hx
    obtain ⟨node', hn', hpassage⟩ := hdiary.passage hn
    refine ⟨log, node', hdiary, hlog, hn', ?_⟩
    rw [eventsTaken_eq_nil hc]
    refine hpassage.reports (fun hmem => ?_) htransports hcalm (isOpen_of_hasPlace hn' hplace)
    rw [← emptied_mem_prompted, hlog] at hmem
    exact emptied_notMem_prompts hc hmem

/-- The same of a run in which there always is room. -/
lemma run_reports (cs : List Command) (hx : x.Shipshape) (hn : x.nodes[k]? = some node)
    (htransports : node.SendsToQueue) (hcalm : node.station.mailbox.IsCalm)
    (hplace : ∀ init, init <+: cs → (x.run init).2.hasPlace k = true) :
    ∃ log node', Diary {} x log {} (x.run cs).2 ∧ prompted log = x.promptsOf cs ∧
      (x.run cs).2.nodes[k]? = some node' ∧
      node.Reports (history (eventsTaken (.node k)) x cs) (ledgerOf k log) node' := by
  induction cs generalizing x node with
  | nil => exact ⟨[], node, .start, rfl, hn, htransports, hcalm, List.not_mem_nil, Nat.zero_add _⟩
  | cons c rest ih =>
    have hfirst := hplace [c] (by simp)
    rw [run_cons, run_nil] at hfirst
    obtain ⟨log, node', hdiary, hlog, hn', hreports⟩ := step_reports c hx hn htransports hcalm hfirst
    obtain ⟨log', node'', hdiary', hlog', hn'', hreports'⟩ := ih ((step_onwards c hx).shipshape hx) hn'
      hreports.transports hreports.calm fun init hinit => by
        have hlonger := hplace (c :: init) (List.cons_prefix_cons.2 ⟨rfl, hinit⟩)
        rwa [run_cons] at hlonger
    rw [run_cons]
    refine ⟨log ++ log', node'', hdiary.trans hdiary', ?_, hn'', ?_⟩
    · rw [prompted_append, hlog, hlog']
      rfl
    · rw [ledgerOf_append]
      exact hreports.trans hreports'

/-- A relay keeps its settings when it joins a queue, and is not closed by that. -/
lemma relay_finishJoin_same (r : Relay) (queue : String) (b : Broker) :
    (r.finishJoin queue b).2.1.config = r.config ∧ (r.finishJoin queue b).2.1.closed = r.closed := by
  rcases relay_finishJoin_cases r queue b with ⟨result, heq⟩ | ⟨stream, b', hclosed, -, heq⟩ <;> rw [heq]
  · exact ⟨rfl, rfl⟩
  · rw [Relay.startConsumer_of_open hclosed]
    exact ⟨rfl, rfl⟩

lemma bringUp_ok {relay : Relay} {transports : List Transport} {direct : Option DirectRelay}
    (h : x.bringUp relay transports direct = (.ok k, x')) :
    ∃ relay', relay'.config = relay.config ∧ relay'.closed = relay.closed ∧
      x'.nodes[k]? = some (.blank relay' transports direct) := by
  unfold bringUp at h
  simp only at h
  split at h
  · cases h
  · next broker _ =>
    split at h
    · cases h
    · next relay' _ hjoined =>
      cases h
      obtain ⟨hconfig, hclosed⟩ := relay_finishJoin_same relay relay.config.queueName
        (({ x with broker } : Exchange).pass x.link.consumeMs).broker
      rw [hjoined] at hconfig hclosed
      exact ⟨relay', hconfig, hclosed, List.getElem?_concat_length⟩

/-- A node without settings for a direct relay gets none. -/
lemma openDirect_none {outlook : Direct.Outlook} {config : Option DirectConfig} {direct : Option DirectRelay}
    (h : x.openDirect outlook config = (.ok direct, x')) (hnone : config = none) : direct = none := by
  subst hnone
  cases h
  rfl

lemma newNode_ok {config : NodeConfig} {outlook : Direct.Outlook}
    (h : x.newNode config outlook = (.ok (some k), x')) :
    ∃ relay direct, config.queue = some relay.config ∧ relay.closed = false ∧
      (config.direct = none → direct = none) ∧ x'.nodes[k]? = some (.blank relay config.transports direct) := by
  unfold newNode at h
  split at h
  · cases h
  · split at h
    · cases h
    · next direct x₁ hopened =>
      split at h
      · cases h
      · next queue hqueue =>
        split at h
        · cases h
        · next session x₂ _ =>
          simp only [Prod.mk.injEq] at h
          obtain ⟨hup, rfl⟩ := h
          rcases hbrought : x₂.bringUp { session, config := queue } config.transports direct with ⟨_ | n, x₃⟩
          · rw [hbrought] at hup
            cases hup
          · rw [hbrought] at hup
            cases hup
            obtain ⟨relay, hconfig, hclosed, hn⟩ := bringUp_ok hbrought
            exact ⟨relay, direct, by rw [hqueue, hconfig], hclosed, openDirect_none hopened, hn⟩

/-- The same in a step of a run. -/
lemma act_newNode {config : NodeConfig} {outlook : Direct.Outlook}
    (hup : (x.step (.newNode config outlook)).1 = .node k) :
    ∃ relay direct, config.queue = some relay.config ∧ relay.closed = false ∧
      (config.direct = none → direct = none) ∧
      (x.act (.newNode config outlook)).2.nodes[k]? = some (.blank relay config.transports direct) := by
  have hact : (x.act (.newNode config outlook)).1 = .node k := hup
  rcases hnew : x.newNode config outlook with ⟨_ | _ | n, x'⟩ <;> simp only [act, hnew] at hact ⊢
  · cases hact
  · cases hact
  · cases hact
    exact newNode_ok hnew

/-- A node with a queue relay sends to the queue. -/
lemma count_transports {config : NodeConfig} {queue : QueueConfig} (hqueue : config.queue = some queue) :
    config.transports.count .queue = 1 := by
  cases hdirect : config.direct <;> simp [NodeConfig.transports, hdirect, hqueue]

/-- After a node has come up, nothing was asked of it yet and nothing was reported. -/
lemma newNode_reports {config : NodeConfig} {outlook : Direct.Outlook} (hx : x.Shipshape)
    (hup : (x.step (.newNode config outlook)).1 = .node k)
    (hplace : (x.step (.newNode config outlook)).2.2.hasPlace k = true) :
    ∃ node, (x.step (.newNode config outlook)).2.2.nodes[k]? = some node ∧ node.Balanced [] ∧
      node.SendsToQueue ∧ node.station.mailbox.IsCalm ∧ node.station.mailbox.failures = 0 := by
  have hshape := (act_onwards_of_command (.newNode config outlook) hx).shipshape hx
  obtain ⟨relay, direct, hqueue, -, -, hn⟩ := act_newNode hup
  have hbalanced : (Node.blank relay config.transports direct).Balanced [] :=
    ⟨⟨[], rfl, List.Perm.nil⟩, fun _ => rfl, fun _ => ⟨rfl, rfl⟩⟩
  rw [step_eq] at hplace ⊢
  obtain ⟨log, hdiary, hlog⟩ := quiesce_proceeds (d := {}) hshape
  obtain ⟨node, hn', hpassage⟩ := hdiary.passage hn
  have hasked : (ledgerOf k log).asked = [] := by
    rw [← asked_ledgerOf_prompted, hlog]
    rfl
  have hempty : .emptied ∉ ledgerOf k log := by
    rw [← emptied_mem_prompted, hlog]
    exact List.not_mem_nil
  obtain ⟨hsettled, hbalanced'⟩ := (hpassage.balanced hbalanced).of_asked_eq_nil hasked
  have hreports := hpassage.reports hempty (count_transports hqueue) ⟨rfl, rfl⟩ (isOpen_of_hasPlace hn' hplace)
  refine ⟨node, hn', hbalanced', hreports.transports, hreports.calm, ?_⟩
  have hcounted := hreports.counted
  have hnone : (Node.blank relay config.transports direct).station.mailbox.failures = 0 := rfl
  rw [List.nil_append] at hsettled
  rw [hnone, Ledger.fates, hsettled, List.countP_nil] at hcounted
  simpa using hcounted

/-- **What is said of a node at the end of a run.** -/
structure Accounted (k : Nat) (x : Exchange) (cs : List Command) (log : List (Nat × Entry)) (node : Node) :
    Prop where
  diary : Diary {} x log {} (x.run cs).2
  prompted_eq : prompted log = x.promptsOf cs
  node_eq : (x.run cs).2.nodes[k]? = some node
  /-- Every message that the node was asked to send was settled once, is on its way, or waits. -/
  balanced : node.Balanced (ledgerOf k log)
  /-- When the loop has ended every message has been settled. -/
  settled : node.phase = .exited → (ledgerOf k log).asked.Perm ((ledgerOf k log).settled.map (·.1))
  /-- While the loop runs, it has a message on its way or it was not told to end and no message waits. -/
  idle : node.phase = .running → node.publication = none → node.signalled = false ∧ node.messages = []
  /-- Every failure has been reported, -/
  told : .unreported ∉ (ledgerOf k log).fates
  /-- and nothing else has. -/
  counted : (history (eventsTaken (.node k)) x cs ++ node.station.mailbox.posted).countP Event.isFailure =
    (ledgerOf k log).fates.count .reported
  /-- What was forgotten waited when the loop ended. -/
  forgotten : ∀ user text, .settled user text .forgotten ∈ ledgerOf k log →
    EndsWaiting k (user, text) {} x log {} (x.run cs).2

/-- **No message disappears but those that wait when the loop ends.**  A node with a queue relay comes up in any
exchange, with a direct relay or without one, and from then on anything may happen in which there always is a place
in its mailbox.  Every message that the node was asked to send is settled once, and when the loop has ended all of them are: it was published to the queue of the node, or
it was reported that it could not be sent, and there is just one event for each that was; or it waited among the
commands when the loop ended. -/
theorem messages_accounted_for (link : Link) (before after : List Command) (config : NodeConfig)
    (outlook : Direct.Outlook) {k ms : Nat} {x : Exchange}
    (hup : (({ link } : Exchange).run before).2.step (.newNode config outlook) = (.node k, ms, x))
    (hplace : ∀ init, init <+: after → (x.run init).2.hasPlace k = true) :
    ∃ log node, Accounted k x after log node := by
  have hbefore := shipshape_run link before
  have hrun : (({ link } : Exchange).run (before ++ .newNode config outlook :: after)).2 = (x.run after).2 := by
    rw [run_append, run_cons, hup]
  generalize hy : (({ link } : Exchange).run before).2 = y at hup hbefore
  have hfirst : (y.step (.newNode config outlook)).1 = .node k := by rw [hup]
  have hsecond : (y.step (.newNode config outlook)).2.2 = x := by rw [hup]
  have hshape := (step_onwards (.newNode config outlook) hbefore).shipshape hbefore
  have hnew := newNode_reports hbefore hfirst (by rw [hsecond]; exact hplace [] List.nil_prefix)
  rw [hsecond] at hnew hshape
  obtain ⟨node, hn, hbalanced, htransports, hcalm, hnone⟩ := hnew
  obtain ⟨log, node', hdiary, hlog, hn', hreports⟩ := run_reports after hshape hn htransports hcalm hplace
  have hbalanced' : node'.Balanced (ledgerOf k log) := by
    obtain ⟨node'', hn'', hpassage⟩ := hdiary.passage hn
    rw [hn', Option.some.injEq] at hn''
    subst hn''
    exact hpassage.balanced hbalanced
  refine ⟨log, node', hdiary, hlog, hn', hbalanced', fun hexited => ?_, fun hrunning hidle => ?_, hreports.told,
    ?_, fun user text hmem => hdiary.forgotten (mem_ledgerOf.1 hmem)⟩
  · obtain ⟨way, hway, hperm⟩ := hbalanced'.complete
    obtain ⟨hidle, hmessages⟩ := hbalanced'.exited hexited
    rw [hway.eq_nil hidle, hmessages] at hperm
    simpa using hperm
  · have hrested := rested_run link (before ++ .newNode config outlook :: after)
    rw [hrun] at hrested
    have hblocked : node'.isBlocked = false := by
      simp [Node.isBlocked, Mailbox.holds, hreports.calm.1, hreports.calm.2]
    obtain ⟨hsignalled, hcommands⟩ := hrested.loops hn' (Node.canRun_iff.2 ⟨hrunning, hblocked, hidle⟩)
    refine ⟨hsignalled, ?_⟩
    rw [Node.messages, hcommands]
    rfl
  · have hcounted := hreports.counted
    rw [hnone, Nat.zero_add] at hcounted
    rw [List.countP_append]
    exact hcounted

/-- An exchange in which a node with a queue relay has come up. -/
def openRoom : Exchange :=
  (({} : Exchange).step (.newNode { queue := some { brokerUri := "memory://", queueName := "room" } })).2.2

/-- A node is asked to send two messages, of which one has no sender, to end, and to send another one.  When it is
started it does what it was asked for in this order.  Then it is asked once more. -/
def talkativeRoom : List Command :=
  [.takeReceiver 0, .burst 0 [.send "ann" "hi", .send "" "nobody", .request .shutdown, .send "ann" "bye"],
    .start 0, .burst 0 [.send "ann" "late"], .takeEvents (.node 0) none, .shutdown 0]

theorem messages_accounted_for_talkativeRoom :
    (∀ init, init <+: talkativeRoom → (openRoom.run init).2.hasPlace 0 = true) ∧
      ∃ log node, Accounted 0 openRoom talkativeRoom log node := by
  have hinits : ∀ init ∈ talkativeRoom.inits, (openRoom.run init).2.hasPlace 0 = true := by decide +kernel
  have hplace : ∀ init, init <+: talkativeRoom → (openRoom.run init).2.hasPlace 0 = true :=
    fun init hinit => hinits init ((List.mem_inits _ _).2 hinit)
  exact ⟨hplace, messages_accounted_for {} [] talkativeRoom
    { queue := some { brokerUri := "memory://", queueName := "room" } } Direct.offline rfl hplace⟩

/-- A node is asked to send a message before it is started, and is shut down. -/
def closedRoom : List Command :=
  [.takeReceiver 0, .burst 0 [.send "ann" "hi"], .shutdown 0, .takeEvents (.node 0) none, .control (.stats "room")]

/-- The message was accepted, the mailbox was kept and there was a place in it all the time.  When the loop has ended
there is no event, and no message has ever come to the queue. -/
theorem message_forgotten_closedRoom :
    (∀ init ∈ closedRoom.inits, (openRoom.run init).2.hasPlace 0 = true) ∧
      openRoom.promptsOf closedRoom = [(0, .asked "ann" "hi"), (0, .emptied)] ∧
      (openRoom.run closedRoom).2.hasExited 0 = true ∧
      (openRoom.run closedRoom).1.map Prod.fst =
        [.done, .burst [], .done, .events [], .control (.stats (some ⟨0, 0, 0, 0, 0⟩))] :=
  ⟨by decide +kernel, by decide +kernel, by decide +kernel, rfl⟩

end Exchange

end MessageRelay
