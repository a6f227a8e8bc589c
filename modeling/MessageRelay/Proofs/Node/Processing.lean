import MessageRelay.Proofs.Node.Questions

/-!
# Commands are processed in order

Where messages arrive at once and there always is a place in the mailbox of a node, all that becomes of its commands in
a run is told in its annals (`Annals`): an episode for every command of the run.  The node keeps to the logbook that
comes of them, and the failures that the logbook tells of are the ones that the user finds in the mailbox (`run_annals`).
So the commands are processed in the order in which they were accepted (`commands_processed_in_order`).
-/

namespace MessageRelay

namespace Node

variable {node node' node'' : Node} {taken taken' : List Event} {log log' : Logbook}

/-- `node` becomes `node'` while the given events are taken from its mailbox: nobody waits for a place in it, and the
user has found there what the logbook tells of. -/
structure Reveals (taken : List Event) (log : Logbook) (node node' : Node) : Prop where
  transports_eq : node'.transports = node.transports
  calm : node'.station.mailbox.IsCalm
  reports_eq : taken.filter Event.isReport ++ node'.station.mailbox.reports =
    node.station.mailbox.reports ++ log.reports node.transports

namespace Reveals

/-- No event is taken. -/
lemma of_tells (htransports : node'.transports = node.transports)
    (htells : node.station.mailbox.Tells (log.reports node.transports) node'.station.mailbox)
    (hcalm : node.station.mailbox.IsCalm) (hopen : node'.station.mailbox.IsOpen) : node.Reveals [] log node' := by
  obtain ⟨hcalm', hreports⟩ := htells.tells hopen hcalm
  exact ⟨htransports, hcalm', hreports⟩

lemma trans (h : node.Reveals taken log node') (h' : node'.Reveals taken' log' node'') :
    node.Reveals (taken ++ taken') (log ++ log') node'' where
  transports_eq := h'.transports_eq.trans h.transports_eq
  calm := h'.calm
  reports_eq := by
    have hlast := h'.reports_eq
    rw [h.transports_eq] at hlast
    rw [List.filter_append, List.append_assoc, hlast, ← List.append_assoc, h.reports_eq, Logbook.reports_append,
      List.append_assoc]

end Reveals

/-- When the user takes events, reports go from the mailbox to him. -/
lemma take_reveals (limit : Option Nat) (hcalm : node.station.mailbox.IsCalm) :
    node.Reveals (node.station.mailbox.take limit).1 [.emptied]
      { node with station := { node.station with mailbox := (node.station.mailbox.take limit).2 } } where
  transports_eq := rfl
  calm := ⟨by simp [Mailbox.take, Mailbox.grant, hcalm.1, hcalm.2], by simp [Mailbox.take, Mailbox.grant, hcalm.2]⟩
  reports_eq := by
    have hsplit := List.take_append_drop (limit.getD node.station.mailbox.posted.length) node.station.mailbox.posted
    have hreports := congrArg (List.filter Event.isReport) hsplit
    rw [List.filter_append] at hreports
    exact hreports.trans (List.append_nil _).symm

end Node

namespace Exchange

variable {x x' : Exchange} {k : Nat} {node node' : Node} {config : QueueConfig} {before log : Logbook} {c : Command}

/-! ## Annals -/

/-- **What becomes of the commands of a node in one step of a run.** -/
inductive Episode (k : Nat) (x : Exchange) (c : Command) : Logbook → Prop
  /-- Others are asked for something. -/
  | others (hc : c.concerns k = false) (haside : Aside k x (x.step c).2.2) : Episode k x c []
  /-- The node is asked for something. -/
  | own {log : Logbook} (hc : c.concerns k = true) (hasked : log.asked = x.requestsOf k c)
      (hchronicle : Chronicle k x log (x.step c).2.2) : Episode k x c log

/-- **What becomes of the commands of a node in a run**, step by step. -/
inductive Annals (k : Nat) : Exchange → List Command → Logbook → Prop
  | start (x : Exchange) : Annals k x [] []
  | step {x : Exchange} {c : Command} {rest : List Command} {log log' : Logbook} (hepisode : Episode k x c log)
      (hrest : Annals k (x.step c).2.2 rest log') : Annals k x (c :: rest) (log ++ log')

lemma Episode.asked_eq (h : Episode k x c log) : log.asked = x.requestsOf k c := by
  cases h with
  | others hc => exact (requestsOf_eq_nil hc).symm
  | own _ hasked => exact hasked

lemma Episode.keeps (h : Episode k x c log) (hn : x.nodes[k]? = some node) (hk : node.Keeps config before) :
    ∃ node', (x.step c).2.2.nodes[k]? = some node' ∧ node'.Keeps config (before ++ log) := by
  cases h with
  | others _ haside =>
    obtain ⟨node', hn', hbystands⟩ := haside.node hn
    refine ⟨node', hn', ?_⟩
    rw [List.append_nil]
    exact hk.bystands hbystands
  | own _ _ hchronicle => exact hchronicle.keeps hn hk

/-- What the node was asked for in a run is what the commands ask it for. -/
lemma Annals.asked_eq {cs : List Command} (h : Annals k x cs log) : log.asked = history (requestsOf k) x cs := by
  induction h with
  | start => rfl
  | step hepisode _ ih => rw [Logbook.asked_append, hepisode.asked_eq, ih, history]

/-! ## Steps -/

/-- The user takes events from the mailbox of a node. -/
lemma takeEvents_episode (limit : Option Nat) (hx : x.Prompt) (hn : x.nodes[k]? = some node)
    (hk : node.Keeps config before) (hcalm : node.station.mailbox.IsCalm)
    (hplace : (x.step (.takeEvents (.node k) limit)).2.2.hasPlace k = true) :
    ∃ log node', Episode k x (.takeEvents (.node k) limit) log ∧
      (x.step (.takeEvents (.node k) limit)).2.2.nodes[k]? = some node' ∧
      node.Reveals (x.takeEvents (.node k) limit).1 log node' := by
  have hprompt := hx.act (.takeEvents (.node k) limit)
  have htaken : (x.takeEvents (.node k) limit).1 = (node.station.mailbox.take limit).1 := by
    simp only [takeEvents, station?_node hn]
  have hacted : (x.act (.takeEvents (.node k) limit)).2 = x.withNode k ({ node with
      station := { node.station with mailbox := (node.station.mailbox.take limit).2 } }, x.broker) := by
    rw [← place_node hn]
    simp only [act, takeEvents, station?_node hn]
    rfl
  have htake : node.Handles x.link x.broker (some .emptied) _ x.broker := .take node limit
  have hreveals := Node.take_reveals limit hcalm
  have hk' := htake.keeps hk
  have hn' := withNode_nodes_self hn ({ node with
    station := { node.station with mailbox := (node.station.mailbox.take limit).2 } }, x.broker)
  rw [hacted] at hprompt
  rw [step_eq, hacted] at hplace
  -- then everything goes on
  obtain ⟨log, hchronicle, hasked, hnot⟩ :=
    (quiesce_strides hprompt.shipshape.allCrewed).recounts hprompt hn' hk'
  obtain ⟨node', hn'', htransports, htells⟩ := hchronicle.tells hn'
  have hrest := Node.Reveals.of_tells htransports (htells hnot) hreveals.calm (isOpen_of_hasPlace hn'' hplace)
  refine ⟨[.emptied] ++ log, node', .own (by simp [Command.concerns]) ?_ ?_, ?_, ?_⟩
  · rw [Logbook.asked_append, hasked]
    rfl
  · rw [step_eq, hacted]
    exact (Chronicle.handle .start hn htake).trans hchronicle
  · rw [step_eq, hacted]
    exact hn''
  · rw [htaken, ← List.append_nil (node.station.mailbox.take limit).1]
    exact hreveals.trans hrest

/-- **A step after which there is a place in the mailbox of a node is an episode**, and leaves nothing untold. -/
lemma step_episode (c : Command) (hx : x.Prompt) (hs : x.Still) (hn : x.nodes[k]? = some node)
    (hk : node.Keeps config before) (hcalm : node.station.mailbox.IsCalm) (hplace : (x.step c).2.2.hasPlace k = true) :
    ∃ log node', Episode k x c log ∧ (x.step c).2.2.nodes[k]? = some node' ∧
      node.Reveals (x.eventsTaken (.node k) c) log node' := by
  have hdozes := hs.dozes hn hk hcalm
  by_cases hc : ∃ limit, c = .takeEvents (.node k) limit
  · obtain ⟨limit, rfl⟩ := hc
    have htaken : x.eventsTaken (.node k) (.takeEvents (.node k) limit) = (x.takeEvents (.node k) limit).1 := if_pos rfl
    rw [htaken]
    exact takeEvents_episode limit hx hn hk hcalm hplace
  · rw [not_exists] at hc
    rw [eventsTaken_eq_nil hc]
    cases hconcerns : c.concerns k with
    | false =>
      have haside := step_aside hconcerns hx.shipshape hdozes
      obtain ⟨node', hn', hbystands⟩ := haside.node hn
      have htransports : node'.transports = node.transports := by rw [hbystands.node_eq]
      exact ⟨[], node', .others hconcerns haside, hn',
        .of_tells htransports hbystands.tells hcalm (isOpen_of_hasPlace hn' hplace)⟩
    | true =>
      obtain ⟨log, hchronicle, hasked, hnot⟩ := step_recounts hconcerns hc hx hdozes hn hk
      obtain ⟨node', hn', htransports, htells⟩ := hchronicle.tells hn
      exact ⟨log, node', .own hconcerns hasked hchronicle, hn',
        .of_tells htransports (htells hnot) hcalm (isOpen_of_hasPlace hn' hplace)⟩

/-- **A run in which there always is a place in the mailbox of a node has annals**, and leaves nothing untold. -/
lemma run_annals (cs : List Command) (hx : x.Prompt) (hs : x.Still) (hn : x.nodes[k]? = some node)
    (hk : node.Keeps config before) (hcalm : node.station.mailbox.IsCalm)
    (hplace : ∀ init, init <+: cs → (x.run init).2.hasPlace k = true) :
    ∃ log node', Annals k x cs log ∧ (x.run cs).2.nodes[k]? = some node' ∧ node'.Keeps config (before ++ log) ∧
      node.Reveals (history (eventsTaken (.node k)) x cs) log node' := by
  induction cs generalizing x node before with
  | nil =>
    rw [run_nil]
    exact ⟨[], node, .start x, hn, by rwa [List.append_nil], rfl, hcalm, (List.append_nil _).symm⟩
  | cons c rest ih =>
    have hfirst := hplace [c] (by simp)
    rw [run_cons, run_nil] at hfirst
    obtain ⟨log, node', hepisode, hn', hreveals⟩ := step_episode c hx hs hn hk hcalm hfirst
    obtain ⟨node₁, hn₁, hk'⟩ := hepisode.keeps hn hk
    rw [hn', Option.some.injEq] at hn₁
    subst hn₁
    obtain ⟨log', node'', hannals, hn'', hk'', hreveals'⟩ := ih (hx.step c) (hx.still c) hn' hk' hreveals.calm
      fun init hinit => by
        have hlonger := hplace (c :: init) (List.cons_prefix_cons.2 ⟨rfl, hinit⟩)
        rwa [run_cons] at hlonger
    rw [run_cons]
    refine ⟨log ++ log', node'', .step hepisode hannals, hn'', ?_, hreveals.trans hreveals'⟩
    rwa [← List.append_assoc]

/-! ## Runs -/

lemma Prompt.run (hx : x.Prompt) (cs : List Command) : (x.run cs).2.Prompt :=
  hx.next (run_onwards cs hx.shipshape) (run_proceeds cs hx.shipshape)

/-- A node that has just come up has an empty logbook, and nothing was reported to its user. -/
lemma newNode_keeps {settings : NodeConfig} {outlook : Direct.Outlook} (hx : x.Prompt) (hdirect : settings.direct = none)
    (hup : (x.step (.newNode settings outlook)).1 = .node k)
    (hplace : (x.step (.newNode settings outlook)).2.2.hasPlace k = true) :
    ∃ queue node, settings.queue = some queue ∧ (x.step (.newNode settings outlook)).2.2.nodes[k]? = some node ∧
      node.Keeps queue [] ∧ node.transports = [.queue] ∧ node.station.mailbox.IsCalm ∧
      node.station.mailbox.reports = [] := by
  have hprompt := hx.act (.newNode settings outlook)
  obtain ⟨relay, direct, hqueue, hopen, hnone, hn⟩ := act_newNode hup
  obtain rfl := hnone hdirect
  rw [step_eq] at hplace ⊢
  have hdozes : (x.act (.newNode settings outlook)).2.Dozes k := ⟨_, hn, rfl, rfl, (fun h => by cases h)⟩
  obtain ⟨node, hn', hbystands⟩ := (quiesce_aside hprompt.shipshape hdozes).node hn
  have hkeeps : (Node.blank relay settings.transports none).Keeps relay.config [] :=
    ⟨rfl, Logbook.sound_nil _, rfl, rfl, rfl, iff_of_false (fun h => by cases h) (fun h => by cases h),
      fun _ => hopen, rfl⟩
  obtain ⟨hcalm, hreports⟩ := hbystands.tells.tells (isOpen_of_hasPlace hn' hplace) ⟨rfl, rfl⟩
  have htransports : node.transports = [.queue] := by
    rw [hbystands.node_eq]
    simp [Node.blank, NodeConfig.transports, hdirect, hqueue]
  exact ⟨relay.config, node, hqueue, hn', hkeeps.bystands hbystands, htransports, hcalm, hreports⟩

/-- **What is said of the commands of a node at the end of a run.** -/
structure Processed (k : Nat) (x : Exchange) (cs : List Command) (config : QueueConfig) (log : Logbook) (node : Node) :
    Prop where
  /-- All that becomes of them is in the logbook, -/
  annals : Annals k x cs log
  /-- beginning with what the node was asked for. -/
  asked_eq : log.asked = history (requestsOf k) x cs
  node_eq : (x.run cs).2.nodes[k]? = some node
  /-- A command is accepted while the loop is there and less than 256 commands wait, -/
  accepts : ∀ (before : Logbook) c after, log = before ++ .accepted c :: after → before.hasEnded = false ∧
    ∃ waiting, before.accepted = before.handled ++ waiting ∧ waiting.length < 256
  /-- and a message is refused when the loop is gone or 256 commands wait. -/
  refuses : ∀ (before : Logbook) user text reason after, log = before ++ .refused user text reason :: after →
    before.hasEnded = true ∧ reason = "node stopped" ∨
      before.hasEnded = false ∧ reason = "node busy: command queue full" ∧
        ∃ waiting, before.accepted = before.handled ++ waiting ∧ waiting.length = 256
  /-- The loop takes the commands in the order in which they were accepted. -/
  fifo : log.accepted = log.handled ++ (log.forgotten ++ node.commands)
  /-- Only the end of the loop makes it forget commands, -/
  alive : node.phase ≠ .exited → log.forgotten = []
  /-- and when it runs it has taken all of them. -/
  rests : node.phase = .running → log.handled = log.accepted
  /-- What it publishes is the encoding of each message that it takes and that can be sent, -/
  payloads_eq : log.payloads = log.handled.filterMap NodeCommand.encoding?
  /-- and each of the others fails. -/
  failures_eq : log.failures = log.handled.filterMap NodeCommand.failure?
  /-- The user has found an event for each failure, and for each refusal one for every transport, and no other. -/
  reports_eq : (history (eventsTaken (.node k)) x cs ++ node.station.mailbox.posted).filter Event.isReport =
    log.reports [.queue]
  /-- The loop has answered each question with the number of messages that were accepted before it, -/
  answers : ∀ (before : Logbook) s after, log = before ++ .answered s :: after → ∃ earlier later,
    before.accepted = earlier ++ .status :: later ∧
      s = { queueName := config.queueName, ackMode := config.ackMode, sent := earlier.countP NodeCommand.isSend }
  /-- and so it answers whoever asks next. -/
  status : ((x.run cs).2.step (.status k)).1 = match node.phase with
    | .unstarted => .never
    | .running => .status
        { queueName := config.queueName, ackMode := config.ackMode, sent := log.accepted.countP NodeCommand.isSend }
    | .exited => .failed loopExited

/-- The loop of a node that runs has taken all that was accepted. -/
lemma Still.handled_eq (hs : x.Still) (hn : x.nodes[k]? = some node) (hk : node.Keeps config log)
    (hcalm : node.station.mailbox.IsCalm) (hrunning : node.phase = .running) :
    node.canRun = true ∧ log.handled = log.accepted := by
  have hrun : node.canRun = true :=
    Node.canRun_iff.2 ⟨hrunning, by simp [Node.isBlocked, Mailbox.holds, hcalm.1, hcalm.2], hk.idle⟩
  obtain ⟨-, hcommands⟩ := hs.rested.loops hn hrun
  have halive : log.hasEnded = false := by
    rw [← Bool.not_eq_true, hk.ended_iff, hrunning]
    intro heq
    cases heq
  refine ⟨hrun, ?_⟩
  rw [hk.sound.orderly.waits halive, hk.waiting_eq, hcommands, List.append_nil]

/-- A node is asked about itself between two commands. -/
lemma Still.status_eq (hs : x.Still) (hx : x.Prompt) (hn : x.nodes[k]? = some node) (hk : node.Keeps config log)
    (hcalm : node.station.mailbox.IsCalm) (hinert : node.phase = .exited → node.Inert) :
    (x.step (.status k)).1 = match node.phase with
      | .unstarted => .never
      | .running => .status
          { queueName := config.queueName, ackMode := config.ackMode, sent := log.accepted.countP NodeCommand.isSend }
      | .exited => .failed loopExited := by
  have hasked : (x.step (.status k)).1 = (x.askStatus k).1 := by simp only [step, act]
  rw [hasked]
  cases hphase : node.phase with
  | unstarted => exact askStatus_of_unstarted hx hn hk.direct_eq hphase hk.idle
  | running =>
    obtain ⟨hrun, hhandled⟩ := hs.handled_eq hn hk hcalm hphase
    rw [askStatus_of_running hx hs hn hk.direct_eq hrun, hk.status_eq, hhandled]
  | exited => rw [askStatus_of_inert hs hn (hinert hphase)]

/-- What the logbook of a node says at the end of a run. -/
lemma Still.processed {cs : List Command} {node₀ : Node} (hs : (x.run cs).2.Still) (hx : (x.run cs).2.Prompt)
    (hannals : Annals k x cs log) (hn : (x.run cs).2.nodes[k]? = some node) (hk : node.Keeps config log)
    (hinert : node.phase = .exited → node.Inert) (htransports : node₀.transports = [.queue])
    (hnone : node₀.station.mailbox.reports = [])
    (hreveals : node₀.Reveals (history (eventsTaken (.node k)) x cs) log node) :
    Processed k x cs config log node where
  annals := hannals
  asked_eq := hannals.asked_eq
  node_eq := hn
  accepts _ _ _ := hk.sound.accepts
  refuses _ _ _ _ _ := hk.sound.refuses
  fifo := by rw [hk.sound.orderly.fifo, hk.waiting_eq]
  alive halive := hk.sound.orderly.alive (by rwa [← Bool.not_eq_true, hk.ended_iff])
  rests hrunning := (hs.handled_eq hn hk hreveals.calm hrunning).2
  payloads_eq := hk.sound.payloads_eq
  failures_eq := hk.sound.failures_eq
  reports_eq := by
    have hreports := hreveals.reports_eq
    rw [hnone, List.nil_append, htransports] at hreports
    rw [List.filter_append]
    exact hreports
  answers _ _ _ := hk.sound.answers
  status := hs.status_eq hx hn hk hreveals.calm hinert

/-- **Commands are processed in the order in which they were accepted, and nothing is kept from the user.**  A node that
has only a queue relay comes up in an exchange where messages arrive at once, and from then on anything may happen in
which there always is a place in its mailbox. -/
theorem commands_processed_in_order (link : Link) (before after : List Command) (settings : NodeConfig)
    (outlook : Direct.Outlook) {k ms : Nat} {x : Exchange} (hdirect : settings.direct = none)
    (hinstant : link.publishMs = 0)
    (hup : (({ link } : Exchange).run before).2.step (.newNode settings outlook) = (.node k, ms, x))
    (hplace : ∀ init, init <+: after → (x.run init).2.hasPlace k = true) :
    ∃ queue log node, settings.queue = some queue ∧ Processed k x after queue log node := by
  have hprompt : (({ link } : Exchange).run before).2.Prompt :=
    ⟨shipshape_run link before, roster_run link before,
      by rw [(run_onwards before (shipshape_empty link)).link_eq]; exact hinstant⟩
  have hrun : (({ link } : Exchange).run (before ++ .newNode settings outlook :: after)).2 = (x.run after).2 := by
    rw [run_append, run_cons, hup]
  have hstill := run_still link (before ++ .newNode settings outlook :: after)
  have hinert := fun node => @inert_of_exited k node link (before ++ .newNode settings outlook :: after)
  rw [hrun] at hstill hinert
  generalize (({ link } : Exchange).run before).2 = y at hup hprompt
  have hfirst : (y.step (.newNode settings outlook)).1 = .node k := by rw [hup]
  have hsecond : (y.step (.newNode settings outlook)).2.2 = x := by rw [hup]
  have hnew := newNode_keeps hprompt hdirect hfirst (by rw [hsecond]; exact hplace [] List.nil_prefix)
  have hx := hprompt.step (.newNode settings outlook)
  have hs := hprompt.still (.newNode settings outlook)
  rw [hsecond] at hnew hx hs
  obtain ⟨queue, node₀, hqueue, hn₀, hk₀, htransports, hcalm₀, hnone⟩ := hnew
  obtain ⟨log, node, hannals, hn, hk, hreveals⟩ := run_annals after hx hs hn₀ hk₀ hcalm₀ hplace
  exact ⟨queue, log, node, hqueue, hstill.processed (hx.run after) hannals hn hk (hinert node hn) htransports hnone
    hreveals⟩

/-- Before the node is started it is asked all at once to send more messages than can wait, most of which have no sender.
Then it is asked for this and that, and in the end it is told to stop. -/
def crowdedRoom : List Command :=
  [.takeReceiver 0, .burst 0 ((.send "ann" "hi" :: List.replicate 254 (.send "" "nobody")) ++
      [.request .status, .send "ann" "one", .request (.send "cat" "two")]), .status 0, .start 0,
    .burst 0 [.request (.send "bob" "three"), .request .status, .send "" "four"], .status 0,
    .takeEvents (.node 0) none, .request 0 .shutdown, .burst 0 [.send "ann" "late"]]

theorem commands_processed_in_order_crowdedRoom :
    (∀ init, init <+: crowdedRoom → (openRoom.run init).2.hasPlace 0 = true) ∧
      ∃ queue log node, queue.queueName = "room" ∧ Processed 0 openRoom crowdedRoom queue log node := by
  have hinits : ∀ init ∈ crowdedRoom.inits, (openRoom.run init).2.hasPlace 0 = true := by decide +kernel
  have hplace : ∀ init, init <+: crowdedRoom → (openRoom.run init).2.hasPlace 0 = true :=
    fun init hinit => hinits init ((List.mem_inits _ _).2 hinit)
  obtain ⟨queue, log, node, hqueue, hprocessed⟩ := commands_processed_in_order {} [] crowdedRoom
    { queue := some { brokerUri := "memory://", queueName := "room" } } Direct.offline rfl rfl rfl hplace
  cases hqueue
  exact ⟨hplace, _, log, node, rfl, hprocessed⟩

end Exchange

end MessageRelay
