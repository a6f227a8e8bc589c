import MessageRelay.Proofs.Node.Chronicle

/-!
# What is asked of others

What is asked of relays, of the broker and of other nodes has nothing to do with the commands of a node that does
nothing by itself, although time may pass meanwhile (`step_aside`).
-/

namespace MessageRelay.Exchange

variable {x x' : Exchange} {seat : Seat} {s : Station} {k n : Nat}

/-! ## Relays -/

lemma openSession_aside (config : QueueConfig) (hx : x.Shipshape) (hd : x.Dozes k) :
    Aside k x (x.openSession config).2 := by
  have hconnected : Aside k x { x with broker := (x.link.connect config x.broker).2.2 } := .of_nodes_eq rfl
  rw [openSession_eq]
  exact hconnected.trans (pass_aside _ ((linkConnect_onwards x config).shipshape hx) (hconnected.dozes hd))

lemma connect_aside (config : QueueConfig) (capacity : Nat) (hx : x.Shipshape) (hd : x.Dozes k) :
    Aside k x (x.connect config capacity).2 := by
  have hopen := openSession_aside config hx hd
  unfold connect
  split
  · next heq => rwa [heq] at hopen
  · next heq =>
    rw [heq] at hopen
    exact hopen.trans (.of_nodes_eq rfl)

lemma finishJoin_aside (k : Nat) (x : Exchange) (n : Nat) (queue : String) :
    Aside k x (x.finishJoin (.relay n) queue).2 := by
  unfold finishJoin
  split
  · exact .refl k x
  · exact .of_nodes_eq rfl

lemma join_aside (n : Nat) (queue : String) (hx : x.Shipshape) (hd : x.Dozes k) :
    Aside k x (x.join (.relay n) queue).2 := by
  unfold join
  split
  · exact .refl k x
  · next s hs =>
    have hbegun := (beginJoin_onwards x s.relay queue).shipshape hx
    split
    · exact .of_nodes_eq rfl
    · next broker heq =>
      rw [heq] at hbegun
      have hdeclared : Aside k x { x with broker } := .of_nodes_eq rfl
      split
      · exact hdeclared
      · have hpassed := hdeclared.trans (pass_aside x.link.consumeMs hbegun (hdeclared.dozes hd))
        exact hpassed.trans (finishJoin_aside k _ n queue)

lemma publish_aside (n : Nat) (queue user text : String) (hx : x.Shipshape) (hd : x.Dozes k) :
    Aside k x (x.publish n queue user text).2 := by
  unfold publish
  split
  · exact .refl k x
  · next s hs =>
    split
    · exact .refl k x
    · exact (pass_aside (s.relay.publishDelay x.link) hx hd).trans (.of_nodes_eq rfl)

lemma publishAll_aside (n : Nat) (queue user : String) (texts : List String)
    (last : Option (Except RelayError Unit)) (hx : x.Shipshape) (hd : x.Dozes k) :
    Aside k x (publishAll n queue user texts last x).2 := by
  induction texts generalizing x last with
  | nil => exact .refl k x
  | cons text rest ih =>
    have honwards : OnwardsBy (fun _ => True) x _ := publish_onwards n queue user text hx trivial
    have hfirst := publish_aside n queue user text hx hd
    exact hfirst.trans (ih _ (honwards.shipshape hx) (hfirst.dozes hd))

lemma close_aside (k : Nat) (x : Exchange) (n : Nat) : Aside k x (x.close n).2 := by
  unfold close
  split
  · exact .refl k x
  · exact .of_nodes_eq rfl

lemma closeWhileJoining_aside (hs : x.station? (.relay n) = some s) (queue : String) (hx : x.Shipshape)
    (hd : x.Dozes k) : Aside k x (x.closeWhileJoining n queue).2.2 := by
  have hmarked : Onwards x (x.place (.relay n) s.markClosed x.broker) :=
    act_onwards hs .markClosed (by simp) (by simp)
  have haside : Aside k x (x.place (.relay n) s.markClosed x.broker) := .of_nodes_eq rfl
  have hpassed := haside.trans (pass_aside x.link.consumeMs (hmarked.shipshape hx) (haside.dozes hd))
  unfold closeWhileJoining
  rw [onStation_eq hs]
  simp only
  split
  · exact hpassed
  · exact hpassed.trans (.of_nodes_eq rfl)

lemma joinThenClose_aside (n : Nat) (queue : String) (hx : x.Shipshape) (hd : x.Dozes k) :
    Aside k x (x.joinThenClose n queue).2.2 := by
  unfold joinThenClose
  split
  · exact .refl k x
  · next s hs =>
    have hbegun := (beginJoin_onwards x s.relay queue).shipshape hx
    split
    · have hjoin := join_aside n queue hx hd
      have hjoined := (join_onwards (.relay n) queue hx).shipshape hx
      have hclosed := (hjoin.trans (quiesce_aside hjoined (hjoin.dozes hd))).trans
        (close_aside k (x.join (.relay n) queue).2.quiesce n)
      rcases hj : x.join (.relay n) queue with ⟨joined, x₁⟩
      rcases hc : x₁.quiesce.close n with ⟨closed, x₂⟩
      simp only [hj, hc] at hclosed ⊢
      exact hclosed
    · split
      · next broker heq =>
        have hrefused : Aside k x { x with broker } := .of_nodes_eq rfl
        exact hrefused.trans (close_aside k _ n)
      · next broker heq =>
        rw [heq] at hbegun
        have hdeclared : Aside k x { x with broker } := .of_nodes_eq rfl
        refine hdeclared.trans (closeWhileJoining_aside (s := s) ?_ queue hbegun (hdeclared.dozes hd))
        rwa [withBroker_station?]

lemma drop_aside (k : Nat) (x : Exchange) (n : Nat) : Aside k x (x.drop n) :=
  (close_aside k x n).trans (.of_nodes_eq rfl)

lemma breakStream_aside (k : Nat) (x : Exchange) (stream : Nat) : Aside k x (x.breakStream stream) := by
  have hfold : ∀ (seats : List Seat) (y : Exchange), Aside k y
      (seats.foldl (fun x seat => x.onStation seat fun s b => (s.breakStream stream, b)) y) := by
    intro seats
    induction seats with
    | nil => exact .refl k
    | cons seat rest ih =>
      intro y
      refine Aside.trans ?_ (ih _)
      simp only
      cases hs : y.station? seat with
      | none =>
        simp only [onStation, hs]
        exact .refl k y
      | some s =>
        rw [onStation_eq hs]
        refine .place hs ?_ ?_ ?_ y.broker
        · rfl
        · rfl
        · exact .refl s.mailbox
  exact hfold x.seats x

/-! ## Other mailboxes -/

lemma takeEvents_aside (hne : seat ≠ .node k) (x : Exchange) (limit : Option Nat) :
    Aside k x (x.takeEvents seat limit).2 := by
  unfold takeEvents
  split
  · exact .refl k x
  · exact .place_of_ne hne _ x.broker

lemma onStation_aside (hne : seat ≠ .node k) (x : Exchange) (f : Station → Broker → Station × Broker) :
    Aside k x (x.onStation seat f) := by
  cases hs : x.station? seat with
  | none =>
    simp only [onStation, hs]
    exact .refl k x
  | some s =>
    rw [onStation_eq hs]
    exact .place_of_ne hne _ _

/-! ## Other nodes -/

lemma onNode_aside (hne : n ≠ k) (x : Exchange) (f : Node → Broker → Node × Broker) : Aside k x (x.onNode n f) := by
  cases hn : x.nodes[n]? with
  | none =>
    simp only [onNode, hn]
    exact .refl k x
  | some node =>
    rw [onNode_eq hn]
    exact .withNode_of_ne hne _

/-- A node comes up. -/
lemma Aside.of_append (h : Aside k x x') (hd : x.Dozes k) (broker : Broker) (node : Node) :
    Aside k x { x' with broker, nodes := x'.nodes ++ [node] } := by
  refine h.trans (.of_nodes_eq ?_)
  obtain ⟨node', hn', -⟩ := h.dozes hd
  exact List.getElem?_append_left (List.getElem?_eq_some_iff.1 hn').1

lemma bringUp_aside (relay : Relay) (transports : List Transport) (direct : Option DirectRelay) (hx : x.Shipshape)
    (hd : x.Dozes k) : Aside k x (x.bringUp relay transports direct).2 := by
  have hbegun := (beginJoin_onwards x relay relay.config.queueName).shipshape hx
  unfold bringUp
  simp only
  split
  · exact .of_nodes_eq rfl
  · next broker heq =>
    rw [heq] at hbegun
    have hdeclared : Aside k x { x with broker } := .of_nodes_eq rfl
    have hpassed := hdeclared.trans (pass_aside x.link.consumeMs hbegun (hdeclared.dozes hd))
    split
    · exact hpassed.trans (.of_nodes_eq rfl)
    · exact hpassed.of_append hd _ _

lemma openDirect_aside (outlook : Direct.Outlook) (direct : Option DirectConfig) (hx : x.Shipshape) (hd : x.Dozes k) :
    Aside k x (x.openDirect outlook direct).2 := by
  cases direct with
  | none => exact .refl k x
  | some config => exact pass_aside _ hx hd

lemma newNode_aside (config : NodeConfig) (outlook : Direct.Outlook) (hx : x.Shipshape) (hd : x.Dozes k) :
    Aside k x (x.newNode config outlook).2 := by
  unfold newNode
  split
  · exact .refl k x
  · have hdirect := openDirect_aside outlook config.direct hx hd
    have hup := (openDirect_onwards outlook config.direct hx).shipshape hx
    split
    · next heq => rwa [heq] at hdirect
    · next direct x₁ heq =>
      rw [heq] at hdirect hup
      split
      · exact hdirect
      · next queue _ =>
        have hopen := hdirect.trans (openSession_aside queue hup (hdirect.dozes hd))
        have hshape := (openSession_onwards queue hup).shipshape hup
        split
        · next heq => rwa [heq] at hopen
        · next heq =>
          rw [heq] at hopen hshape
          exact hopen.trans (bringUp_aside _ _ _ hshape (hopen.dozes hd))

lemma takeReceiver_aside (hne : n ≠ k) (x : Exchange) : Aside k x (x.takeReceiver n).2 := by
  unfold takeReceiver
  split
  · exact .refl k x
  · split
    · exact .refl k x
    · exact .of_nodes_eq (List.getElem?_set_ne hne)

lemma start_aside (hne : n ≠ k) (x : Exchange) : Aside k x (x.start n).2 := by
  rcases start_cases x n with heq | ⟨node, -, -, heq⟩ <;> rw [heq]
  · exact .refl k x
  · exact .of_nodes_eq (List.getElem?_set_ne hne)

lemma request_aside (hne : n ≠ k) (x : Exchange) (c : NodeCommand) : Aside k x (x.request n c).2 := by
  unfold request
  split
  · exact .refl k x
  · exact .of_nodes_eq (List.getElem?_set_ne hne)

lemma burst_aside (hne : n ≠ k) (x : Exchange) (calls : List NodeCall) : Aside k x (x.burst n calls).2 := by
  unfold burst
  split
  · exact .refl k x
  · exact .of_nodes_eq (List.getElem?_set_ne hne)

lemma hand_aside (hne : n ≠ k) (c : NodeCommand) (hx : x.Shipshape) (hd : x.Dozes k) :
    Aside k x (x.hand n c).2 := by
  have hready : Aside k x (x.readyFor n) := wait_aside _ hx hd
  generalize hy : x.readyFor n = y at hready
  rcases hand_cases hy c with ⟨accepted, -, heq⟩ | ⟨node, hn, -, heq⟩ <;> rw [heq]
  · exact hready
  · exact hready.trans (.of_nodes_eq (List.getElem?_set_ne hne))

lemma submit_aside (hne : n ≠ k) (c : NodeCommand) (hx : x.Shipshape) (hd : x.Dozes k) :
    Aside k x (x.submit n c).2 := by
  have hhand := hand_aside hne c hx hd
  unfold submit
  split
  · next heq => rwa [heq] at hhand
  · next heq => rwa [heq] at hhand

lemma askStatus_aside (hne : n ≠ k) (hx : x.Shipshape) (hd : x.Dozes k) : Aside k x (x.askStatus n).2 := by
  have hhand := hand_aside hne .status hx hd
  have honwards : OnwardsBy (fun _ => True) x _ := hand_onwards n .status hx fun _ _ _ => trivial
  have hshape := honwards.shipshape hx
  have hfresh : Aside k x ((x.hand n .status).2.fresh n) :=
    hhand.trans (.of_nodes_eq (List.getElem?_modify_ne _ _ hne))
  rcases askStatus_cases x n with heq | heq <;> rw [heq]
  · exact hhand
  · exact hfresh.trans (wait_aside _ ((fresh_onwards _ n).shipshape hshape) (hfresh.dozes hd))

lemma shutdown_aside (hne : n ≠ k) (hx : x.Shipshape) (hd : x.Dozes k) : Aside k x (x.shutdown n).2 := by
  have htold : Aside k x (x.told n) := onNode_aside hne x _
  have hwait := htold.trans (wait_aside (·.hasExited n) ((told_onwards x n).shipshape hx) (htold.dozes hd))
  rw [told] at hwait
  simp only [shutdown]
  generalize Exchange.wait _ _ = y at hwait ⊢
  split
  · exact .refl k x
  · exact hwait

/-! ## Commands -/

/-- **What is asked of others has nothing to do with the commands of a node that does nothing by itself.** -/
lemma act_aside {c : Command} (hc : c.concerns k = false) (hx : x.Shipshape) (hd : x.Dozes k) :
    Aside k x (x.act c).2 := by
  have hseat : ∀ n, (n == k) = false → Seat.node n ≠ .node k := by
    rintro n hne heq
    cases heq
    simp at hne
  have hnode : ∀ n, (n == k) = false → n ≠ k := fun n hne => by simpa using hne
  cases c with
  | connect config capacity =>
    have h := connect_aside config capacity hx hd
    simp only [act]
    split
    · next heq => rwa [heq] at h
    · next heq => rwa [heq] at h
  | join n queue => exact join_aside n queue hx hd
  | publish n queue user texts => exact publishAll_aside n queue user texts none hx hd
  | close n => exact close_aside k x n
  | joinThenClose n queue => exact joinThenClose_aside n queue hx hd
  | drop n => exact drop_aside k x n
  | breakStream stream => exact breakStream_aside k x stream
  | takeEvents seat limit =>
    refine takeEvents_aside ?_ x limit
    cases seat with
    | relay n =>
      intro heq
      cases heq
    | node n => exact hseat n hc
  | discardMailbox seat =>
    simp only [act, discardMailbox]
    refine onStation_aside ?_ x _
    cases seat with
    | relay n =>
      intro heq
      cases heq
    | node n => exact hseat n hc
  | newNode config outlook =>
    have h := newNode_aside config outlook hx hd
    simp only [act]
    split
    · next heq => rwa [heq] at h
    · next heq => rwa [heq] at h
    · next heq => rwa [heq] at h
  | takeReceiver n => exact takeReceiver_aside (hnode n hc) x
  | start n => exact start_aside (hnode n hc) x
  | burst n calls => exact burst_aside (hnode n hc) x calls
  | status n =>
    rw [act]
    exact askStatus_aside (hnode n hc) hx hd
  | request n c => exact request_aside (hnode n hc) x c
  | submit n c =>
    rw [act]
    exact submit_aside (hnode n hc) c hx hd
  | shutdown n =>
    rw [act]
    exact shutdown_aside (hnode n hc) hx hd
  | dropNode n =>
    simp only [act]
    exact onNode_aside (hnode n hc) x _
  | peerCalls n user text =>
    simp only [act, peerCalls]
    exact onNode_aside (hnode n hc) x _
  | peerAnswers n task outcome =>
    simp only [act, peerAnswers]
    exact onNode_aside (hnode n hc) x _
  | control c => exact .of_nodes_eq rfl

lemma step_aside {c : Command} (hc : c.concerns k = false) (hx : x.Shipshape) (hd : x.Dozes k) :
    Aside k x (x.step c).2.2 := by
  have hact := act_aside hc hx hd
  rw [step_eq]
  exact hact.trans (quiesce_aside ((act_onwards_of_command c hx).shipshape hx) (hact.dozes hd))

end MessageRelay.Exchange
