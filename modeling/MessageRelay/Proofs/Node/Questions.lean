import MessageRelay.Proofs.Node.Requests

/-!
# Questions about a node

Whoever asks a node about itself while nothing goes on has an answer at once if the loop runs (`askStatus_of_running`).
If the loop has not been started he waits, and nothing that goes on by itself brings him an answer
(`askStatus_of_unstarted`).
-/

namespace MessageRelay

/-- A node that has nothing to do but to answer a question. -/
def Node.questioned (node : Node) : Node :=
  { node with commands := [.status], answer := none }

/-- A node that has answered a question, and has nothing to do. -/
def Node.replied (node : Node) : Node :=
  { node with commands := [], answer := some node.status }

namespace Exchange

variable {x : Exchange} {k : Nat} {node : Node}

/-! ## A loop that runs -/

/-- The loop comes to a question if nothing else waits. -/
lemma finishLoop_questioned (hn : x.nodes[k]? = some node.questioned) (hrun : node.canRun = true)
    (hsignalled : node.signalled = false) : (x.finishLoop k).nodes[k]? = some node.replied := by
  have hrun' : node.questioned.canRun = true := hrun
  have hsignalled' : node.questioned.signalled = false := hsignalled
  have hstep : node.questioned.stepLoop x.link x.clock x.broker = (node.replied, x.broker) := by
    rw [Node.stepLoop, if_neg (by simp [hrun']), if_neg (by simp [hsignalled'])]
    rfl
  have hn' := withNode_nodes_self hn (node.replied, x.broker)
  have hrest : node.replied.Resting := fun _ => ⟨hsignalled, rfl⟩
  have hone : node.questioned.commands.length = 1 := rfl
  unfold finishLoop
  rw [hn]
  simp only [noteUnderway_nodes, hone, runLoop, onNode_eq hn, hstep]
  rwa [onNode_eq hn', Node.stepLoop_of_resting hrest, withNode_self hn']

/-- Loops go on one after the other, and do nothing to other nodes. -/
lemma foldl_finishLoop_nodes {l : List Nat} (hmem : k ∉ l) : (l.foldl finishLoop x).nodes[k]? = x.nodes[k]? := by
  induction l generalizing x with
  | nil => rfl
  | cons n rest ih =>
    rw [List.mem_cons, not_or] at hmem
    rw [List.foldl_cons, ih hmem.2, finishLoop_nodes_of_ne hmem.1]

/-- When all loops go on, each of them does once. -/
lemma foldl_finishLoop_range (hn : x.nodes[k]? = some node) : ∃ y : Exchange, y.nodes[k]? = some node ∧
    ((List.range x.nodes.length).foldl finishLoop x).nodes[k]? = (y.finishLoop k).nodes[k]? := by
  obtain ⟨hlt, -⟩ := List.getElem?_eq_some_iff.1 hn
  obtain ⟨earlier, later, hsplit⟩ := List.append_of_mem (List.mem_range.2 hlt)
  have hnodup : (earlier ++ k :: later).Nodup := hsplit ▸ List.nodup_range
  have hothers := (List.nodup_cons.1 (List.nodup_middle.1 hnodup)).1
  rw [List.mem_append, not_or] at hothers
  obtain ⟨hearlier, hlater⟩ := hothers
  refine ⟨earlier.foldl finishLoop x, by rw [foldl_finishLoop_nodes hearlier, hn], ?_⟩
  rw [hsplit, List.foldl_append, List.foldl_cons, foldl_finishLoop_nodes hlater]

/-- A question is put to a node while nothing goes on. -/
lemma quiesce_questioned (hs : x.Still) (hcrewed : x.AllCrewed) (hn : x.nodes[k]? = some node)
    (hdirect : node.direct = none) (hrun : node.canRun = true) :
    ∃ node', (x.setNode k node.questioned).quiesce.nodes[k]? = some node' ∧ node'.answer = some node.status := by
  obtain ⟨hsignalled, -⟩ := hs.rested.loops hn hrun
  have hn' := setNode_nodes_self hn node.questioned
  have hsame : ∀ {seat : Seat} {s : Station}, (x.setNode k node.questioned).station? seat = some s →
      x.station? seat = some s := fun h => station?_of_setNode hn (by rfl) h
  have htimely : (x.setNode k node.questioned).Timely := by
    intro n other p hn₁ hp
    rcases setNode_nodes_cases hn₁ with ⟨rfl, rfl⟩ | ⟨-, hold⟩
    · exact hs.timely hn hp
    · exact hs.timely hold hp
  generalize x.setNode k node.questioned = y at hn' hsame htimely ⊢
  have hcrewed' : y.AllCrewed := fun _ _ hs' => hcrewed (hsame hs')
  have hresumed : y.resumed = y :=
    foldl_eq_self (fun seat => resumeSeat_of_granted fun s hs' => hs.rested.granted (hsame hs')) _
  have harrived : y.arrived = y := by
    rw [arrived, hresumed]
    exact foldl_eq_self (arriveAt_of_timely htimely) _
  -- its loop comes to it, and then consumers go on
  obtain ⟨z, hz, hfold⟩ := foldl_finishLoop_range hn'
  have hlooped : y.looped.nodes[k]? = some node.replied := by
    rw [looped, harrived, hfold]
    exact finishLoop_questioned hz hrun hsignalled
  have hdozes : y.looped.Dozes k := ⟨_, hlooped, hdirect, (Node.canRun_iff.1 hrun).2.2, fun _ => ⟨hsignalled, rfl⟩⟩
  have hstrides : Strides y y.looped := by
    rw [looped, harrived]
    exact foldl_strides (fun z n _ => finishLoop_strides z n) _ hcrewed'
  have hbegun := beginTasks_strides y.looped
  have hlast := Strides.aside (hbegun.trans (runConsumers_strides (hcrewed'.strides (hstrides.trans hbegun)))) hdozes
  obtain ⟨node', hn₂, hbystands⟩ := hlast.node hlooped
  exact ⟨node', hn₂, by rw [hbystands.node_eq, Node.replied]⟩

/-- **While its loop runs, a node answers at once.** -/
lemma askStatus_of_running (hx : x.Prompt) (hs : x.Still) (hn : x.nodes[k]? = some node) (hdirect : node.direct = none)
    (hrun : node.canRun = true) : (x.askStatus k).1 = .status node.status := by
  obtain ⟨-, hcommands⟩ := hs.rested.loops hn hrun
  have hphase := (Node.canRun_iff.1 hrun).1
  have halive : node.hasExited = false := by simp [Node.hasExited, hphase]
  have hroom : node.hasRoom = true := by simp [Node.hasRoom, hcommands, Node.maxCommands]
  have hready : x.wait (fun x => x.nodes[k]?.any fun node => node.hasExited || node.hasRoom) = x :=
    hs.wait_eq (by simp [hn, hroom])
  have hhand : x.hand k .status = (some true, x.setNode k (node.enqueue .status)) := by
    simp only [hand, hready, hn, halive, hroom, if_true, Bool.false_eq_true, if_false]
    rfl
  have hfresh : (x.setNode k (node.enqueue .status)).fresh k = x.setNode k node.questioned := by
    rw [fresh_eq (setNode_nodes_self hn _), setNode_setNode, Node.enqueue, hcommands]
    rfl
  obtain ⟨node', hn', hanswer⟩ := quiesce_questioned hs hx.shipshape.allCrewed hn hdirect hrun
  have hanswered : (x.setNode k (node.enqueue .status)).answered k = (x.setNode k node.questioned).quiesce := by
    rw [answered, hfresh]
    simp [wait, waitFor, hn', hanswer]
  rw [askStatus_of_accepted hhand, hanswered, hn', Option.bind_some, hanswer]

/-! ## A loop that was not started -/

/-- **A node that has not been started does not answer.** -/
lemma askStatus_of_unstarted (hx : x.Prompt) (hn : x.nodes[k]? = some node) (hdirect : node.direct = none)
    (hphase : node.phase = .unstarted) (hidle : node.publication = none) : (x.askStatus k).1 = .never := by
  have hdoze : ∀ {y : Exchange} {node' : Node}, y.nodes[k]? = some node' → node'.direct = none →
      node'.phase = .unstarted → node'.publication = none → y.Dozes k := by
    intro y node' hn' hdirect' hphase' hidle'
    refine ⟨node', hn', hdirect', hidle', fun hrunning => ?_⟩
    rw [hphase'] at hrunning
    cases hrunning
  obtain ⟨node₀, hn₀, hbystands⟩ := (wait_aside (fun x => x.nodes[k]?.any fun node => node.hasExited || node.hasRoom)
    hx.shipshape (hdoze hn hdirect hphase hidle)).node hn
  have hdirect₀ : node₀.direct = none := by rw [hbystands.node_eq]; exact hdirect
  have hphase₀ : node₀.phase = .unstarted := by rw [hbystands.node_eq]; exact hphase
  have hidle₀ : node₀.publication = none := by rw [hbystands.node_eq]; exact hidle
  have halive : node₀.hasExited = false := by simp [Node.hasExited, hphase₀]
  by_cases hroom : node₀.hasRoom = true
  · have hhand : ∃ y, x.hand k .status = (some true, y) ∧ y.nodes[k]? = some (node₀.enqueue .status) := by
      refine ⟨_, ?_, setNode_nodes_self hn₀ (node₀.enqueue .status)⟩
      simp only [hand, hn₀, halive, hroom, if_true, Bool.false_eq_true, if_false]
      rfl
    obtain ⟨y, hhand, hy⟩ := hhand
    -- nobody comes to the question while it waits
    have hfresh : (y.fresh k).nodes[k]? = some { node₀.enqueue .status with answer := none } := by
      rw [fresh_eq hy]
      exact setNode_nodes_self hy _
    have hshape := ((hx.hand hhand).fresh k).shipshape
    obtain ⟨node', hn', hwaits⟩ := (Strides.aside (answered_strides hshape.allCrewed)
      (hdoze hfresh hdirect₀ hphase₀ hidle₀)).node hfresh
    have hanswer : node'.answer = none := by rw [hwaits.node_eq]
    have hnot : (y.answered k).hasExited k = false := by
      rw [hasExited, hn', Option.any_some, hwaits.node_eq]
      exact halive
    rw [askStatus_of_accepted hhand, hn', Option.bind_some, hanswer, hnot]
    rfl
  · have hhand : (x.hand k .status).1 = none := by
      simp only [hand, hn₀, halive, hroom, if_false, Bool.false_eq_true]
    rcases heq : x.hand k .status with ⟨accepted, y⟩
    rw [heq] at hhand
    obtain rfl : accepted = none := hhand
    simp only [askStatus, heq]

end Exchange

end MessageRelay
