import MessageRelay.Proofs.Exchange.Accounting
import MessageRelay.Proofs.Exchange.Course

/-!
# Every run is a course

An exchange that answers commands lets everything go on in a certain order.  This file shows that each
thing it does is a sequence of moves, so that every run of commands is a course (`run_course`), in which
nothing is published by a relay, accepted by a node or brought from outside unless a command asks for it.
-/

namespace MessageRelay

namespace Station

variable {link : Link} {p p' : Station × Broker}

/-- Something happens at a station by itself: it is not the call of a peer. -/
def Goes (link : Link) (p p' : Station × Broker) : Prop :=
  ∃ e, Act link p e p' ∧ ∀ user text, e ≠ some (.called user text)

/-- Things that happen at a station one after the other and do not close the relay. -/
abbrev Acts (link : Link) : Station × Broker → Station × Broker → Prop :=
  Relation.ReflTransGen fun p p' => Goes link p p' ∧ p'.1.relay.closed = p.1.relay.closed

lemma Turn.goes (h : Turn p p') : Goes link p p' := by
  cases h with
  | post hc hwhole hfree hpoll hoffer => exact ⟨_, .post hc hpoll hoffer, by simp⟩
  | wait hc hwhole hfree hpoll hoffer => exact ⟨_, .wait hc hpoll hoffer, by simp⟩
  | refuse hc hwhole hfree hpoll hoffer => exact ⟨_, .serveLast hc hpoll, by simp⟩
  | stop hc hfree => exact ⟨_, .stop hc, by simp⟩

lemma Turns.acts (h : Turns p p') : Acts link p p' :=
  Relation.ReflTransGen.mono (fun _ _ ht => ⟨ht.goes, ht.steady.closed_eq⟩) _ _ h

/-- A failure that somebody who is no consumer leaves in the mailbox is posted or waits for a place, unless the mailbox
was thrown away. -/
lemma leave_goes (link : Link) (s : Station) (b : Broker) (sender : Sender) (hsender : sender.stream? = none)
    (t : Transport) (reason : String) :
    s.mailbox.leave sender (.sendFailed t reason) = s.mailbox ∨
      Goes link (s, b) ({ s with mailbox := s.mailbox.leave sender (.sendFailed t reason) }, b) := by
  rcases s.mailbox.leave_cases sender (.sendFailed t reason) with hoffer | hoffer | hsame
  · obtain ⟨-, hroom, heq⟩ := Mailbox.offer_eq_posted hoffer
    have hreport : Act link (s, b) _ _ := .report t reason hroom
    rw [← heq] at hreport
    exact .inr ⟨_, hreport, by simp⟩
  · obtain ⟨-, hroom, heq⟩ := Mailbox.offer_eq_waits hoffer
    have hhold : Act link (s, b) _ _ := .hold sender hsender t reason hroom
    rw [← heq] at hhold
    exact .inr ⟨_, hhold, by simp⟩
  · exact .inl hsame

end Station

/-- The message that a command asks a node to send. -/
def NodeCommand.message? : NodeCommand → Option (String × String)
  | send user text => some (user, text)
  | status | shutdown => none

namespace Node

/-- What could not be published is left in the mailbox as a report. -/
lemma conclude_error (node : Node) (e : RelayError) :
    node.conclude (.error e) = { node with station := { node.station with
      mailbox := node.station.mailbox.leave .loop (.sendFailed .queue e.message) } } := by
  simp only [conclude, Mailbox.leave]
  cases node.station.mailbox.offer .loop (.sendFailed .queue e.message) <;> rfl

/-- Only the mailbox changes when the loop takes in how a publication ended. -/
lemma conclude_eq (node : Node) (result : Except RelayError Unit) :
    ∃ m, node.conclude result = { node with station := { node.station with mailbox := m } } := by
  cases result with
  | ok => exact ⟨node.station.mailbox, rfl⟩
  | error e => exact ⟨_, node.conclude_error e⟩

end Node

/-- What a call asks a node to do. -/
def NodeCall.command : NodeCall → NodeCommand
  | send user text => .send user text
  | request c => c

namespace Exchange

variable {x x' x'' : Exchange} {seat other : Seat} {s s' : Station} {b : Broker} {n k : Nat}
  {node node' : Node} {ok : Happening → Prop}

/-! ## Stations -/

@[simp] lemma place_link (x : Exchange) (seat : Seat) (s : Station) (b : Broker) :
    (x.place seat s b).link = x.link := by
  cases seat <;> rfl

lemma modify_eq_self {α : Type} {l : List α} {f : α → α} {a : α} (h : l[n]? = some a) (hf : f a = a) :
    l.modify n f = l := by
  apply List.ext_getElem?
  intro k
  rw [List.getElem?_modify]
  by_cases hk : n = k
  · subst hk
    rw [h]
    simp [hf]
  · cases l[k]? <;> simp [hk]

lemma place_self (hs : x.station? seat = some s) : x.place seat s x.broker = x := by
  cases seat with
  | relay n =>
    obtain ⟨m, hm, rfl⟩ := Option.map_eq_some_iff.1 hs
    simp only [place, setStation, modify_eq_self hm]
  | node n =>
    obtain ⟨m, hm, rfl⟩ := Option.map_eq_some_iff.1 hs
    simp only [place, setStation, modify_eq_self hm]

lemma place_place (x : Exchange) (seat : Seat) (s s' : Station) (b b' : Broker) :
    (x.place seat s b).place seat s' b' = x.place seat s' b' := by
  cases seat <;> simp only [place, setStation, List.modify_modify_eq] <;> rfl

lemma act_onwards {e : Option Station.Entry} (hs : x.station? seat = some s)
    (h : Station.Act x.link (s, x.broker) e (s', b))
    (hclosed : ∀ n, seat = .node n → s'.relay.closed = s.relay.closed)
    (hcalled : ∀ user text, e ≠ some (.called user text)) : Onwards x (x.place seat s' b) := by
  refine .of_move (.station hs h hclosed) fun e' he' hprompted => ?_
  obtain ⟨entry, rfl, rfl⟩ := Option.map_eq_some_iff.1 he'
  cases entry with
  | posted => cases hprompted
  | called user text => exact hcalled user text rfl

lemma acts_onwards (hs : x.station? seat = some s) {p : Station × Broker}
    (h : Station.Acts x.link (s, x.broker) p) : Onwards x (x.place seat p.1 p.2) := by
  induction h with
  | refl => rw [place_self hs]; exact .refl x
  | @tail p p' _ hlast ih =>
    obtain ⟨⟨e, hact, hcalled⟩, hclosed⟩ := hlast
    have hact' : Station.Act (x.place seat p.1 p.2).link (p.1, (x.place seat p.1 p.2).broker) e
        (p'.1, p'.2) := by
      rw [place_link, place_broker]
      exact hact
    have hstep := act_onwards (place_station?_self hs _ _) hact' (fun _ _ => hclosed) hcalled
    rw [place_place] at hstep
    exact ih.trans hstep

lemma onStation_eq (hs : x.station? seat = some s) (f : Station → Broker → Station × Broker) :
    x.onStation seat f = x.place seat (f s x.broker).1 (f s x.broker).2 := by
  simp only [onStation, hs]
  rfl

lemma onStation_onwards {f : Station → Broker → Station × Broker}
    (h : ∀ s, x.station? seat = some s → Station.Acts x.link (s, x.broker) (f s x.broker)) :
    Onwards x (x.onStation seat f) := by
  cases hs : x.station? seat with
  | none => simp only [onStation, hs]; exact .refl x
  | some s =>
    rw [onStation_eq hs]
    exact acts_onwards hs (h s hs)

/-- Things that are done one after the other. -/
lemma foldl_onwards {α : Type} {f : Exchange → α → Exchange}
    (hf : ∀ x a, x.Shipshape → Onwards x (f x a)) (l : List α) (hx : x.Shipshape) :
    Onwards x (l.foldl f x) := by
  induction l generalizing x with
  | nil => exact .refl x
  | cons a rest ih => exact (hf x a hx).trans (ih ((hf x a hx).shipshape hx))

lemma runConsumers_onwards (hx : x.Shipshape) : Onwards x x.runConsumers := by
  refine foldl_onwards (fun y seat hy => ?_) x.seats hx
  exact onStation_onwards fun s hs => (Station.runConsumers_turns (hy.manned hs).nodup y.broker).acts

/-! ## The loop of a node -/

lemma setNode_setNode (x : Exchange) (n : Nat) (node node' : Node) :
    (x.setNode n node).setNode n node' = x.setNode n node' := by
  simp [setNode]

lemma setNode_withNode (x : Exchange) (n : Nat) (node : Node) (p : Node × Broker) :
    (x.setNode n node).withNode n p = x.withNode n p := by
  simp [setNode, withNode]

lemma onNode_eq (hn : x.nodes[n]? = some node) (f : Node → Broker → Node × Broker) :
    x.onNode n f = x.withNode n (f node x.broker) := by
  simp only [onNode, hn]
  rfl

lemma place_node (hn : x.nodes[n]? = some node) (s : Station) (b : Broker) :
    x.place (.node n) s b = x.withNode n ({ node with station := s }, b) := by
  have hnodes : x.nodes.modify n (fun m => { m with station := s }) =
      x.nodes.set n { node with station := s } := by
    apply List.ext_getElem?
    intro k
    rw [List.getElem?_modify, List.getElem?_set]
    by_cases hk : n = k
    · subst hk
      rw [if_pos rfl, if_pos (List.getElem?_eq_some_iff.1 hn).1, hn]
      simp
    · rw [if_neg hk]
      cases x.nodes[k]? <;> simp [hk]
  simp only [place, setStation, withNode, setNode, hnodes]

/-- A node notes something. -/
lemma keep_onwards (hn : x.nodes[n]? = some node) (hstation : node'.station = node.station)
    (hdirect : node.IsHungUp → node'.IsHungUp)
    (hpublication : node'.publication = node.publication ∨ node'.publication = none)
    (hphase : node'.phase = .exited ↔ node.phase = .exited)
    (hcommands : ∀ user text, .send user text ∈ node'.commands → .send user text ∈ node.commands) :
    Onwards x (x.setNode n node') :=
  (Move.keep hn hstation hdirect hpublication hphase hcommands).onwards

lemma exit_onwards (hn : x.nodes[n]? = some node) (hphase : node.phase ≠ .exited)
    (hdirect : node.IsHungUp) : Onwards x (x.withNode n (node.exit x.link x.broker)) :=
  (Move.exit hn hphase hdirect).onwards

/-- What happens at a direct relay happens at the station of its node. -/
lemma relayTurn_onwards (hn : x.nodes[n]? = some node) {d d' : DirectRelay} {m' : Mailbox}
    {call : Option (String × String)} (hturn : DirectRelay.Turn (d, node.station.mailbox) call (d', m'))
    (hhungUp : node.IsHungUp → (node.withDirect (d', m')).IsHungUp)
    (hok : ∀ user text, call = some (user, text) → ok (.called (.node n) user text)) :
    OnwardsBy ok x (x.setNode n (node.withDirect (d', m'))) := by
  have hs : x.station? (.node n) = some node.station := Option.map_eq_some_iff.2 ⟨node, hn, rfl⟩
  -- the mailbox changes first, and then the direct relay notes what has happened
  have hnote : OnwardsBy ok x (x.setNode n { node with station := { node.station with mailbox := m' } }) →
      OnwardsBy ok x (x.setNode n (node.withDirect (d', m'))) := by
    intro hmailbox
    have hn' := setNode_nodes_self hn { node with station := { node.station with mailbox := m' } }
    have hkeep : Onwards _ (Exchange.setNode _ n (node.withDirect (d', m'))) :=
      keep_onwards hn' rfl hhungUp (Or.inl rfl) Iff.rfl fun _ _ => id
    rw [setNode_setNode] at hkeep
    exact hmailbox.trans hkeep.weaken
  have hact : ∀ {e : Option Station.Entry},
      Station.Act x.link (node.station, x.broker) e ({ node.station with mailbox := m' }, x.broker) →
      (∀ user text, e = some (.called user text) → ok (.called (.node n) user text)) →
      OnwardsBy ok x (x.setNode n (node.withDirect (d', m'))) := by
    intro e hact hcalled
    have hmove := Move.station hs hact fun _ _ => rfl
    rw [place_node hn] at hmove
    refine hnote (.of_move hmove fun e' he' hprompted => ?_)
    obtain ⟨entry, rfl, rfl⟩ := Option.map_eq_some_iff.1 he'
    cases entry with
    | posted => cases hprompted
    | called user text => exact hcalled user text rfl
  have hsame : m' = node.station.mailbox → OnwardsBy ok x (x.setNode n (node.withDirect (d', m'))) := by
    rintro rfl
    have hkeep : Onwards x (x.setNode n (node.withDirect (d', node.station.mailbox))) :=
      keep_onwards hn (by rfl) hhungUp (Or.inl rfl) Iff.rfl fun _ _ => id
    exact hkeep.weaken
  cases hturn with
  | note => exact hsame rfl
  | report hends task reason =>
    rcases Station.leave_goes x.link node.station x.broker (.outgoing task) rfl .direct reason with
      hleave | ⟨e, hreport, hcalled⟩
    · exact hsame hleave
    · exact hact hreport fun user text he => absurd he (hcalled user text)
  | called hends hlistens k user text =>
    rcases node.station.mailbox.leave_cases (.call k) (Direct.Service.eventOf user text) with hoffer | hoffer | hleave
    · exact hact (.called k user text (.inl hoffer)) (by rintro _ _ ⟨⟩; exact hok user text rfl)
    · exact hact (.called k user text (.inr hoffer)) (by rintro _ _ ⟨⟩; exact hok user text rfl)
    · exact hsame hleave
  | release => exact hact .hangUp (by simp)

lemma directTurn_onwards (hn : x.nodes[n]? = some node) {call : Option (String × String)}
    (h : node.DirectTurn call node')
    (hok : ∀ user text, call = some (user, text) → ok (.called (.node n) user text)) :
    OnwardsBy ok x (x.setNode n node') := by
  have hhungUp := h.isHungUp
  cases h with
  | turn hd hturn => exact relayTurn_onwards hn hturn hhungUp hok

lemma directTurns_onwards (hn : x.nodes[n]? = some node) (h : node.DirectTurns node') :
    Onwards x (x.setNode n node') := by
  induction h with
  | refl => exact keep_onwards hn rfl id (Or.inl rfl) Iff.rfl fun _ _ => id
  | @tail node₁ node₂ _ hturn ih =>
    have hlast : Onwards _ _ := directTurn_onwards (setNode_nodes_self hn node₁) hturn (by simp)
    rw [setNode_setNode] at hlast
    exact ih.trans hlast

/-- The loop of a node ends, or will never start: the direct relay is released, and then the queue relay. -/
lemma leave_onwards (hn : x.nodes[n]? = some node) (hphase : node.phase ≠ .exited) :
    Onwards x (x.withNode n (node.leave x.link x.broker)) := by
  have hexit := exit_onwards (setNode_nodes_self hn node.hangUp) (by rwa [Node.hangUp_phase]) node.isHungUp_hangUp
  rw [setNode_withNode] at hexit
  exact (directTurns_onwards hn node.hangUp_turns).trans hexit

/-- The loop of a node posts a failure, or waits for a place, or finds the mailbox gone. -/
lemma conclude_onwards (hn : x.nodes[n]? = some node) (result : Except RelayError Unit) :
    Onwards x (x.setNode n (node.conclude result)) := by
  have hs : x.station? (.node n) = some node.station := Option.map_eq_some_iff.2 ⟨node, hn, rfl⟩
  have hsame : Onwards x (x.setNode n node) := keep_onwards hn rfl id (Or.inl rfl) Iff.rfl fun _ _ => id
  cases result with
  | ok => exact hsame
  | error e =>
    rw [Node.conclude_error]
    rcases Station.leave_goes x.link node.station x.broker .loop rfl .queue e.message with
      hleave | ⟨_, hreport, hcalled⟩
    · rw [hleave]
      exact hsame
    · have h := act_onwards hs hreport (fun _ _ => rfl) hcalled
      rw [place_node hn] at h
      exact h

lemma tick_onwards (x : Exchange) (clock : Nat) {underway : List Nat} (hnoted : Noted x.nodes underway) :
    Onwards x { x with clock, underway } :=
  (Move.tick x clock hnoted).onwards

lemma noteUnderway_onwards (n : Nat) (hx : x.Shipshape) : Onwards x (x.noteUnderway n) := by
  have hsubset := subset_noteUnderway x n
  rcases noteUnderway_cases x n with h | h
  · rw [h]
    exact .refl x
  · rw [h] at hsubset ⊢
    exact tick_onwards x x.clock fun _ _ hn hp => hsubset (hx.noted hn hp)

@[simp] lemma conclude_publication (node : Node) (result : Except RelayError Unit) :
    (node.conclude result).publication = node.publication := by
  obtain ⟨m, heq⟩ := node.conclude_eq result
  rw [heq]

/-- A message that has arrived or was given up is not on its way any more. -/
lemma arrive_publication (link : Link) (node : Node) (b : Broker) :
    (node.arrive link b).1.publication = none := by
  unfold Node.arrive
  split
  · next h => exact h
  · exact conclude_publication _ _

/-- When the message of a node has arrived, the node need not be on the list any more. -/
lemma noted_of_arrived (hx : Noted x.nodes x.underway) (hp : node'.publication = none) {underway : List Nat}
    (hunderway : ∀ k ∈ x.underway, k ≠ n → k ∈ underway) : Noted (x.nodes.set n node') underway := by
  intro k node hn hpublication
  rcases setNode_nodes_cases hn with ⟨rfl, rfl⟩ | ⟨hne, hold⟩
  · rw [hp] at hpublication
    cases hpublication
  · exact hunderway k (hx hold hpublication) hne

/-- The message of a node arrives, or is given up. -/
lemma arrive_onwards (hx : x.Shipshape) (hn : x.nodes[n]? = some node) :
    Onwards x (x.withNode n (node.arrive x.link x.broker)) := by
  cases hp : node.publication with
  | none =>
    simp only [Node.arrive, hp]
    exact keep_onwards hn rfl id (Or.inl rfl) Iff.rfl fun _ _ => id
  | some p =>
    obtain ⟨user, text, hencodes⟩ := hx.encodes hn hp
    simp only [Node.arrive, hp]
    rcases arrive_cases x.link node.station.relay node.station.relay.config.queueName p.payload x.broker
      with ⟨e, heq⟩ | heq
    · rw [heq]
      have hgiven : Onwards x (x.setNode n { node with publication := none }) :=
        keep_onwards hn rfl id (Or.inr rfl) Iff.rfl fun _ _ => id
      have hconclude := conclude_onwards (setNode_nodes_self hn { node with publication := none })
        (.error e)
      rw [setNode_setNode] at hconclude
      exact hgiven.trans hconclude
    · have harrive : Onwards x _ := .of_move (.arrive hn hp hencodes heq) fun e he hprompted => by
        cases he
        cases hprompted
      rw [heq]
      exact harrive

lemma withNode_of_noted (x : Exchange) (n : Nat) (node : Node) (p : Node × Broker) :
    ({ ((x.setNode n node).noteUnderway n).withNode n p with
      clock := x.clock, underway := x.underway } : Exchange) = x.withNode n p := by
  rcases noteUnderway_cases (x.setNode n node) n with h | h <;> rw [h] <;> simp [withNode, setNode]

lemma send_mem_of_tail {c : NodeCommand} {rest : List NodeCommand} (h : node.commands = c :: rest)
    (user text : String) (hmem : .send user text ∈ rest) : .send user text ∈ node.commands := by
  rw [h]
  exact List.mem_cons_of_mem _ hmem

/-- The loop of a node takes a message from its commands and publishes it. -/
lemma deliver_onwards (hx : x.Shipshape) (hn : x.nodes[n]? = some node) (hrun : node.canRun = true)
    {user text : String} {rest : List NodeCommand} (hcommands : node.commands = .send user text :: rest)
    (now : Nat) : Onwards x ((x.withNode n
      (({ node with commands := rest } : Node).deliver x.link now user text x.broker)).noteUnderway n) := by
  simp only [Node.deliver]
  cases hpayload : node.station.relay.payloadOf user text with
  | error e =>
    have htaken : Onwards x (x.setNode n (({ node with commands := rest } : Node).count user text)) :=
      keep_onwards hn rfl (Node.isHungUp_count user text) (Or.inl rfl) Iff.rfl (send_mem_of_tail hcommands)
    have hconclude := conclude_onwards
      (setNode_nodes_self hn (({ node with commands := rest } : Node).count user text)) (.error e)
    rw [setNode_setNode] at hconclude
    have hdone := htaken.trans hconclude
    exact hdone.trans (noteUnderway_onwards n (hdone.shipshape hx))
  | ok payload =>
    have hcounted : Onwards x (x.setNode n (node.count user text)) :=
      keep_onwards hn rfl (Node.isHungUp_count user text) (Or.inl rfl) Iff.rfl fun _ _ => id
    have hsend : Onwards (x.setNode n (node.count user text)) _ :=
      .of_move (.send (setNode_nodes_self hn (node.count user text)) hrun hcommands hpayload
        (now + node.station.relay.publishDelay x.link)) fun e he hprompted => by
          cases he
          cases hprompted
    rw [setNode_setNode] at hsend
    have hbegun : Onwards x ((x.setNode n ((({ node with commands := rest } : Node).count user text).sending
        ⟨payload, now + node.station.relay.publishDelay x.link⟩)).noteUnderway n) :=
      hcounted.trans hsend
    simp only
    split
    · -- the message arrives at once, so the node is on the list for a moment only
      generalize (({ node with commands := rest } : Node).count user text).sending
        ⟨payload, now + node.station.relay.publishDelay x.link⟩ = begun at hbegun ⊢
      have hbegun₁ : ((x.setNode n begun).noteUnderway n).nodes[n]? = some begun := by
        rw [noteUnderway_nodes, setNode_nodes_self hn]
      have harrive := arrive_onwards (hbegun.shipshape hx) hbegun₁
      rw [noteUnderway_link, noteUnderway_broker] at harrive
      have hnoted : Noted (((x.setNode n begun).noteUnderway n).withNode n
          (begun.arrive x.link x.broker)).nodes x.underway := by
        simp only [withNode, setNode, noteUnderway_nodes, List.set_set]
        exact noted_of_arrived hx.noted (arrive_publication _ _ _) fun _ hk _ => hk
      have hall := (hbegun.trans harrive).trans (tick_onwards _ x.clock hnoted)
      rw [withNode_of_noted] at hall
      exact hall.trans (noteUnderway_onwards n (hall.shipshape hx))
    · exact hbegun

lemma phase_of_canRun (h : node.canRun = true) : node.phase ≠ .exited := by
  intro hphase
  simp [Node.canRun, hphase] at h

/-- The loop of a node takes its next step. -/
lemma stepLoop_onwards (hx : x.Shipshape) (hn : x.nodes[n]? = some node) (now : Nat) :
    Onwards x ((x.withNode n (node.stepLoop x.link now x.broker)).noteUnderway n) := by
  have hnote : ∀ {y : Exchange}, Onwards x y → Onwards x (y.noteUnderway n) :=
    fun hy => hy.trans (noteUnderway_onwards n (hy.shipshape hx))
  have hsame : Onwards x (x.withNode n (node, x.broker)) :=
    keep_onwards hn rfl id (Or.inl rfl) Iff.rfl fun _ _ => id
  unfold Node.stepLoop
  split
  · exact hnote hsame
  · next hrun =>
    have hrun : node.canRun = true := by simpa using hrun
    split
    · exact hnote (leave_onwards hn (phase_of_canRun hrun))
    · split
      · exact hnote hsame
      · next c rest hcommands =>
        cases c with
        | send user text => exact deliver_onwards hx hn hrun hcommands now
        | status => exact hnote (keep_onwards hn rfl id (Or.inl rfl) Iff.rfl (send_mem_of_tail hcommands))
        | shutdown =>
          have htaken : Onwards x (x.setNode n { node with commands := rest }) :=
            keep_onwards hn rfl id (Or.inl rfl) Iff.rfl (send_mem_of_tail hcommands)
          have hleave := leave_onwards (setNode_nodes_self hn { node with commands := rest })
            (phase_of_canRun hrun)
          rw [setNode_withNode] at hleave
          exact hnote (htaken.trans hleave)

/-- What a node and the broker do together. -/
lemma onNode_onwards {f : Node → Broker → Node × Broker}
    (h : ∀ node, x.nodes[n]? = some node → OnwardsBy ok x (x.withNode n (f node x.broker))) :
    OnwardsBy ok x (x.onNode n f) := by
  cases hn : x.nodes[n]? with
  | none => simp only [onNode, hn]; exact .refl x
  | some node =>
    rw [onNode_eq hn]
    exact h node hn

lemma withNode_self (hn : x.nodes[n]? = some node) : x.withNode n (node, x.broker) = x := by
  obtain ⟨hlt, rfl⟩ := List.getElem?_eq_some_iff.1 hn
  simp only [withNode, setNode, List.set_getElem_self]

/-- A loop that cannot take a command does nothing. -/
lemma runLoop_of_not_canRun (hn : x.nodes[n]? = some node) (hrun : node.canRun = false) (steps : Nat) :
    x.runLoop n steps = x := by
  induction steps with
  | zero => rfl
  | succ steps ih =>
    rw [runLoop, onNode_eq hn, Node.stepLoop, hrun, if_pos (by rfl), withNode_self hn, ih]

/-- A node goes onto the list when its loop has begun to publish a message, or when the loop can do no more:
this makes no difference, for then it does nothing. -/
lemma runLoop_noteUnderway (x : Exchange) (n steps : Nat) :
    ((x.noteUnderway n).runLoop n steps).noteUnderway n = (x.runLoop n steps).noteUnderway n := by
  by_cases hnoted : x.noteUnderway n = x
  · rw [hnoted]
  · obtain ⟨node, hn, hp⟩ : ∃ node, x.nodes[n]? = some node ∧ node.publication.isSome = true := by
      by_contra hnone
      refine hnoted (if_neg ?_)
      simp only [Bool.and_eq_true, Option.any_eq_true]
      rintro ⟨⟨node, hn, hp⟩, -⟩
      exact hnone ⟨node, hn, hp⟩
    have hrun : node.canRun = false := by
      rw [Node.canRun, Option.isNone_eq_false_iff.2 hp, Bool.and_false]
    have hn' : (x.noteUnderway n).nodes[n]? = some node := by rw [noteUnderway_nodes, hn]
    rw [runLoop_of_not_canRun hn hrun, runLoop_of_not_canRun hn' hrun]
    refine if_neg ?_
    simp [mem_noteUnderway hn hp]

lemma runLoop_onwards (n steps : Nat) (hx : x.Shipshape) :
    Onwards x ((x.runLoop n steps).noteUnderway n) := by
  induction steps generalizing x with
  | zero => exact noteUnderway_onwards n hx
  | succ steps ih =>
    have hfirst : Onwards x ((x.onNode n (Node.stepLoop x.link x.clock)).noteUnderway n) := by
      cases hn : x.nodes[n]? with
      | none =>
        simp only [onNode, hn]
        exact noteUnderway_onwards n hx
      | some node =>
        rw [onNode_eq hn]
        exact stepLoop_onwards hx hn x.clock
    have hrest := ih (hfirst.shipshape hx)
    rw [runLoop_noteUnderway] at hrest
    exact hfirst.trans hrest

lemma finishLoop_onwards (n : Nat) (hx : x.Shipshape) : Onwards x (x.finishLoop n) := by
  unfold finishLoop
  split
  · exact .refl x
  · exact runLoop_onwards n _ hx

lemma arriveAt_onwards (n : Nat) (hx : x.Shipshape) : Onwards x (x.arriveAt n) := by
  unfold arriveAt
  split
  · next hdue =>
    obtain ⟨node, hn⟩ : ∃ node, x.nodes[n]? = some node := by
      cases hn : x.nodes[n]? with
      | none => simp [dueOf, hn] at hdue
      | some node => exact ⟨node, rfl⟩
    rw [onNode_eq hn]
    have harrive := arrive_onwards hx hn
    have hnoted : Noted (x.withNode n (node.arrive x.link x.broker)).nodes
        ((x.withNode n (node.arrive x.link x.broker)).underway.filter (· != n)) := by
      refine noted_of_arrived hx.noted (arrive_publication _ _ _) fun k hk hne => ?_
      exact List.mem_filter.2 ⟨hk, by simpa using hne⟩
    have hlisted := harrive.trans (tick_onwards _ (x.withNode n (node.arrive x.link x.broker)).clock hnoted)
    exact hlisted.trans (finishLoop_onwards n (hlisted.shipshape hx))
  · exact .refl x

/-! ## Going on -/

lemma useGrants_onwards (seat : Seat) (count : Nat) (hx : x.Shipshape) :
    Onwards x (x.useGrants seat count) := by
  induction count generalizing x with
  | zero => exact .refl x
  | succ count ih =>
    unfold useGrants
    cases hs : x.station? seat with
    | none => exact .refl x
    | some s =>
      cases hg : s.mailbox.useGrant with
      | none => simp only [hg]; exact .refl x
      | some p =>
        obtain ⟨sender, m⟩ := p
        obtain ⟨event, rest, hgranted, rfl⟩ := Mailbox.useGrant_eq_some hg
        have hposted := act_onwards (b := x.broker) hs (.grant hgranted) (fun _ _ => rfl) (by simp)
        obtain ⟨y, hy⟩ : ∃ y, x.setStation seat { s with mailbox :=
            ({ s.mailbox with granted := rest } : Mailbox).put event } = y := ⟨_, rfl⟩
        have hxy : Onwards x y := hy ▸ hposted
        have hshape := hxy.shipshape hx
        simp only [hg, hy]
        refine hxy.trans ?_
        have hnext : ∀ {z : Exchange}, Onwards y z → Onwards y (z.useGrants seat count) :=
          fun hz => hz.trans (ih (hz.shipshape hshape))
        apply hnext
        split
        · exact onStation_onwards fun s _ => (Station.resume_turns s _ _).acts
        · exact finishLoop_onwards _ hshape
        · exact .refl _
        · exact .refl _
        · exact .refl _

lemma resumeSeat_onwards (seat : Seat) (hx : x.Shipshape) : Onwards x (x.resumeSeat seat) := by
  unfold resumeSeat
  split
  · exact .refl x
  · exact useGrants_onwards seat _ hx

lemma beginTasks_onwards (hx : x.Shipshape) : Onwards x x.beginTasks := by
  refine foldl_onwards (fun y n _ => ?_) (List.range x.nodes.length) hx
  exact onNode_onwards fun node hn => directTurns_onwards hn node.beginTasks_turns

/-- **Everything that goes on by itself does so in moves.** -/
lemma quiesce_onwards (hx : x.Shipshape) : Onwards x x.quiesce := by
  have hresumed : Onwards x (x.seats.foldl resumeSeat x) :=
    foldl_onwards (fun _ seat hy => resumeSeat_onwards seat hy) _ hx
  have hx₁ := hresumed.shipshape hx
  have harrived := hresumed.trans (foldl_onwards (fun _ n hy => arriveAt_onwards n hy)
    (x.seats.foldl resumeSeat x).underway hx₁)
  have hlooped := harrived.trans (foldl_onwards (fun _ n hy => finishLoop_onwards n hy)
    (List.range ((x.seats.foldl resumeSeat x).underway.foldl arriveAt
      (x.seats.foldl resumeSeat x)).nodes.length) (harrived.shipshape hx))
  have hbegun := hlooped.trans (beginTasks_onwards (hlooped.shipshape hx))
  exact hbegun.trans (runConsumers_onwards (hbegun.shipshape hx))

lemma waitFor_onwards (done : Exchange → Bool) (fuel : Nat) (hx : x.Shipshape) :
    Onwards x (x.waitFor done fuel) := by
  induction fuel generalizing x with
  | zero => exact .refl x
  | succ fuel ih =>
    unfold waitFor
    split
    · exact .refl x
    · split
      · exact .refl x
      · next due _ =>
        have hticked := tick_onwards x (max x.clock due) hx.noted
        have hrested := hticked.trans (quiesce_onwards (hticked.shipshape hx))
        exact hrested.trans (ih (hrested.shipshape hx))

lemma wait_onwards (done : Exchange → Bool) (hx : x.Shipshape) : Onwards x (x.wait done) :=
  (quiesce_onwards hx).trans (waitFor_onwards done _ ((quiesce_onwards hx).shipshape hx))

lemma pass_onwards (ms : Nat) (hx : x.Shipshape) : Onwards x (x.pass ms) := by
  unfold pass
  split
  · exact .refl x
  · have hwait := wait_onwards (fun x' => x'.nextDue?.all (x.clock + ms ≤ ·)) hx
    exact hwait.trans (tick_onwards _ _ (hwait.shipshape hx).noted)

/-! ## Relays -/

lemma broker_onwards (x : Exchange) (c : Desk.Command) (hc : isClerical c = true) :
    Onwards x { x with broker := (x.desk.step c).2.broker } :=
  (Move.broker x c hc).onwards

lemma attempt_onwards (x : Exchange) (link : Link) (timeouts : Timeouts) :
    Onwards x { x with broker := (link.attempt timeouts x.broker).2.2 } := by
  have hconnect := broker_onwards x .connect rfl
  rw [Desk.step_connect] at hconnect
  simp only [Link.attempt]
  split
  · exact .refl x
  · split
    · next heq => rw [desk, heq] at hconnect; exact hconnect
    · next heq =>
      rw [desk, heq] at hconnect
      split
      · exact hconnect
      · exact hconnect

lemma retry_onwards (x : Exchange) (link : Link) (config : QueueConfig) (left : Nat) (last : String)
    (spent : Nat) : Onwards x { x with broker := (link.retry config left last spent x.broker).2.2 } := by
  induction left generalizing x last spent with
  | zero => exact .refl x
  | succ left ih =>
    have hattempt := attempt_onwards x link config.timeouts
    unfold Link.retry
    split
    · next heq => rw [heq] at hattempt; exact hattempt
    · next heq => rw [heq] at hattempt; exact hattempt
    · next heq =>
      rw [heq] at hattempt
      exact hattempt.trans (ih _ _ _)

lemma linkConnect_onwards (x : Exchange) (config : QueueConfig) :
    Onwards x { x with broker := (x.link.connect config x.broker).2.2 } := by
  unfold Link.connect
  split
  · exact .refl x
  · exact retry_onwards x x.link config _ _ _

lemma openSession_onwards (config : QueueConfig) (hx : x.Shipshape) :
    Onwards x (x.openSession config).2 := by
  have hconnect := linkConnect_onwards x config
  rw [openSession_eq]
  exact hconnect.trans (pass_onwards _ (hconnect.shipshape hx))

/-- The number of a session is that of one which there is. -/
lemma openSession_lt {config : QueueConfig} {session : Nat} (hx : x.Shipshape)
    (h : x.openSession config = (.ok session, x')) : session < x'.broker.sessions.length := by
  have hconnects := connects_link x.link config x.broker
  rw [openSession_eq, Prod.mk.injEq] at h
  obtain ⟨hresult, hfinal⟩ := h
  have hconnect := linkConnect_onwards x config
  have hle := (pass_onwards (x.link.connect config x.broker).2.1 (hconnect.shipshape hx)).sessions_le
  rw [hfinal] at hle
  refine Nat.lt_of_lt_of_le ?_ hle
  rcases hconnects.sessions with ⟨⟨e, he⟩, -⟩ | ⟨hok, hs⟩
  · rw [hresult] at he
    cases he
  · rw [hresult] at hok
    cases hok
    simp only [hs, List.length_append]
    exact Nat.lt_succ_self _

lemma connect_onwards (config : QueueConfig) (capacity : Nat) (hx : x.Shipshape) :
    Onwards x (x.connect config capacity).2 := by
  have hopen := openSession_onwards config hx
  unfold connect
  split
  · next heq => rw [heq] at hopen; exact hopen
  · next session x' heq =>
    rw [heq] at hopen
    exact hopen.trans ((Move.enrolRelay (openSession_lt hx heq) config capacity).onwards)

/-- The first part of joining. -/
lemma beginJoin_onwards (x : Exchange) (r : Relay) (queue : String) :
    Onwards x { x with broker := (r.beginJoin x.link queue x.broker).2 } := by
  unfold Relay.beginJoin Link.declare
  split
  · exact .refl x
  · split
    · exact .refl x
    · split
      · exact .refl x
      · exact broker_onwards x (.declare r.session queue) rfl

/-- The relay has its stream and starts a consumer on it, or nothing happens. -/
lemma relay_finishJoin_cases (r : Relay) (queue : String) (b : Broker) :
    (∃ result, r.finishJoin queue b = (result, r, b)) ∨
      ∃ stream b', r.closed = false ∧
        b.consume r.session queue r.config.ackMode = (.ok stream, b') ∧
        r.finishJoin queue b = r.startConsumer queue stream b' := by
  unfold Relay.finishJoin Relay.subscribe
  by_cases hjoined : r.hasJoined queue = true
  · exact Or.inl ⟨.ok (), by simp [hjoined]⟩
  · cases hclosed : r.closed with
    | true => exact Or.inl ⟨.error (Relay.closedError "join"), by simp [hjoined]⟩
    | false =>
      rcases Broker.consume_cases b r.session queue r.config.ackMode with ⟨e, heq⟩ | ⟨q, -, -, heq⟩
      · exact Or.inl ⟨.error e, by simp [hjoined, heq]⟩
      · exact Or.inr ⟨_, _, rfl, heq, by simp [hjoined, heq]⟩

lemma startConsumer_closed (r : Relay) (queue : String) (stream : Nat) (b : Broker) :
    (r.startConsumer queue stream b).2.1.closed = r.closed := by
  unfold Relay.startConsumer
  split <;> rfl

lemma finishJoin_onwards (x : Exchange) (seat : Seat) (queue : String) :
    Onwards x (x.finishJoin seat queue).2 := by
  unfold finishJoin
  split
  · exact .refl x
  · next s hs =>
    rcases relay_finishJoin_cases s.relay queue x.broker with ⟨result, heq⟩ | ⟨stream, b, -, hconsume, heq⟩
    · simp only [heq]
      have hself := place_self hs
      rw [place] at hself
      rw [hself]
      exact .refl x
    · simp only [heq]
      exact act_onwards hs (.listen hconsume) (fun _ _ => startConsumer_closed s.relay queue stream b)
        (by simp)

lemma join_onwards (seat : Seat) (queue : String) (hx : x.Shipshape) :
    Onwards x (x.join seat queue).2 := by
  unfold join
  split
  · exact .refl x
  · next s hs =>
    have hbegin := beginJoin_onwards x s.relay queue
    split
    · next heq => rw [heq] at hbegin; exact hbegin
    · next heq =>
      rw [heq] at hbegin
      split
      · exact hbegin
      · have hpassed := hbegin.trans (pass_onwards x.link.consumeMs (hbegin.shipshape hx))
        exact hpassed.trans (finishJoin_onwards _ seat queue)

lemma arrive_congr {r r' : Relay} (hsession : r'.session = r.session) (hconfig : r'.config = r.config)
    (link : Link) (queue : String) (payload : Bytes) (b : Broker) :
    r'.arrive link queue payload b = r.arrive link queue payload b := by
  have hbound : r'.publishBound = r.publishBound := by rw [Relay.publishBound, hconfig, Relay.publishBound]
  rw [Relay.arrive, Relay.arrive, hbound, hsession]

lemma publish_onwards (n : Nat) (queue user text : String) (hx : x.Shipshape)
    (hok : ok (.published (.relay n) queue user text)) :
    OnwardsBy ok x (x.publish n queue user text).2 := by
  unfold publish
  split
  · exact .refl x
  · next s hs =>
    split
    · exact .refl x
    · next payload hpayload =>
      have hpassed := pass_onwards (s.relay.publishDelay x.link) hx
      -- the relay is still there, with the same session and the same settings
      obtain ⟨s', hs', hsession, hconfig, -⟩ := hpassed.seated.station hs
      have hlink := hpassed.link_eq
      refine hpassed.weaken.trans ?_
      generalize x.pass (s.relay.publishDelay x.link) = y at hs' hlink
      rcases arrive_cases x.link s.relay queue payload y.broker with ⟨e, heq⟩ | heq
      · simp only [heq]
        exact .refl _
      · simp only [heq]
        rw [← arrive_congr hsession hconfig, ← hlink] at heq
        refine .of_move (.publish hs' (Relay.encodes_of_payloadOf hpayload) heq) fun e he _ => ?_
        cases he
        exact hok

lemma publishAll_onwards (n : Nat) (queue user : String) (texts : List String)
    (last : Option (Except RelayError Unit)) (hx : x.Shipshape)
    (hok : ∀ text ∈ texts, ok (.published (.relay n) queue user text)) :
    OnwardsBy ok x (publishAll n queue user texts last x).2 := by
  induction texts generalizing x last with
  | nil => exact .refl x
  | cons text rest ih =>
    have hfirst := publish_onwards n queue user text hx (hok text List.mem_cons_self)
    exact hfirst.trans (ih _ (hfirst.shipshape hx) fun t ht => hok t (List.mem_cons_of_mem _ ht))

lemma close_onwards (x : Exchange) (n : Nat) : Onwards x (x.close n).2 := by
  unfold close
  split
  · exact .refl x
  · next s hs => exact act_onwards hs .close (by simp) (by simp)

lemma finishClose_onwards (hs : x.station? (.relay n) = some s) :
    Onwards x (x.place (.relay n) (s.finishClose x.link x.broker).2.1 (s.finishClose x.link x.broker).2.2) :=
  act_onwards hs .finishClose (by simp) (by simp)

lemma closeWhileJoining_onwards (hs : x.station? (.relay n) = some s) (queue : String)
    (hx : x.Shipshape) : Onwards x (x.closeWhileJoining n queue).2.2 := by
  have hmarked : Onwards x (x.onStation (.relay n) fun s b => (s.markClosed, b)) := by
    rw [onStation_eq hs]
    exact act_onwards hs .markClosed (by simp) (by simp)
  have hpass := pass_onwards x.link.consumeMs (hmarked.shipshape hx)
  -- the relay counts as closed meanwhile, so no consumer starts
  have hself : (x.onStation (.relay n) fun s b => (s.markClosed, b)).station? (.relay n) =
      some s.markClosed := by
    rw [onStation_eq hs, place_station?_self hs]
  obtain ⟨s', hs', -, -, hclosed⟩ := hpass.seated.station hself
  have hlink := (hmarked.trans hpass).link_eq
  refine (hmarked.trans hpass).trans ?_
  generalize hpassed : (x.onStation (.relay n) fun s b => (s.markClosed, b)).pass x.link.consumeMs = y
    at hs' hlink
  simp only [closeWhileJoining, hpassed, hs']
  rcases Broker.consume_cases y.broker s'.relay.session queue s'.relay.config.ackMode with
    ⟨e, heq⟩ | ⟨q, -, -, heq⟩
  · rw [heq, ← hlink]
    exact finishClose_onwards hs'
  · rw [heq]
    have hlisten := act_onwards hs' (.listen heq) (by simp) (by simp)
    simp only [Relay.startConsumer_of_closed (hclosed rfl)] at hlisten ⊢
    generalize Broker.dropStream _ y.broker.streams.length = b at hlisten ⊢
    have hfinish := finishClose_onwards (place_station?_self hs' s' b)
    rw [place_place, place_link, place_broker, hlink] at hfinish
    exact hlisten.trans hfinish

lemma joinThenClose_onwards (n : Nat) (queue : String) (hx : x.Shipshape) :
    Onwards x (x.joinThenClose n queue).2.2 := by
  unfold joinThenClose
  split
  · exact .refl x
  · next s hs =>
    split
    · have hjoin := join_onwards (.relay n) queue hx
      have hrested := hjoin.trans (quiesce_onwards (hjoin.shipshape hx))
      have hclosed := hrested.trans (close_onwards (x.join (.relay n) queue).2.quiesce n)
      rcases hj : x.join (.relay n) queue with ⟨joined, x₁⟩
      rcases hc : x₁.quiesce.close n with ⟨closed, x₂⟩
      simp only [hj, hc] at hclosed ⊢
      exact hclosed
    · have hbegin := beginJoin_onwards x s.relay queue
      split
      · next heq =>
        rw [heq] at hbegin
        exact hbegin.trans (close_onwards _ n)
      · next heq =>
        rw [heq] at hbegin
        refine hbegin.trans (closeWhileJoining_onwards (s := s) ?_ queue (hbegin.shipshape hx))
        rwa [withBroker_station?]

lemma drop_onwards (x : Exchange) (n : Nat) : Onwards x (x.drop n) :=
  (close_onwards x n).trans ((Move.drop (x.close n).2 n).onwards)

lemma breakStream_onwards (stream : Nat) (hx : x.Shipshape) : Onwards x (x.breakStream stream) := by
  refine foldl_onwards (fun y seat _ => ?_) x.seats hx
  exact onStation_onwards fun s _ => .single ⟨⟨none, .breakStream stream, by simp⟩, rfl⟩

/-! ## Mailboxes -/

lemma takeEvents_onwards (x : Exchange) (seat : Seat) (limit : Option Nat) :
    Onwards x (x.takeEvents seat limit).2 := by
  unfold takeEvents
  split
  · exact .refl x
  · next s hs => exact act_onwards (b := x.broker) hs (.take limit) (fun _ _ => rfl) (by simp)

lemma discardMailbox_closed (s : Station) (b : Broker) :
    (s.discardMailbox b).1.relay.closed = s.relay.closed := by
  rw [Station.discardMailbox_eq]
  rfl

lemma discardMailbox_onwards (x : Exchange) (seat : Seat) : Onwards x (x.discardMailbox seat) :=
  onStation_onwards fun s _ => .single ⟨⟨none, .discard, by simp⟩, discardMailbox_closed s _⟩

/-! ## Nodes -/

/-- The relay of a node that does not come up has no consumer, so there is only its session to end. -/
lemma giveUp_eq (x : Exchange) (session : Nat) (config : QueueConfig) (mailbox : Mailbox) :
    x.giveUp { relay := { session, config }, mailbox } = { x with broker := x.broker.close session } := by
  have hclose : (Station.close x.link { relay := { session, config }, mailbox } x.broker).2.2 =
      x.broker.close session := by
    simp only [Station.close, Bool.false_eq_true, if_false]
    rw [Station.finishClose_eq]
    rfl
  simp only [giveUp]
  rw [hclose]

lemma giveUp_onwards (x : Exchange) (session : Nat) (config : QueueConfig) (mailbox : Mailbox) :
    Onwards x (x.giveUp { relay := { session, config }, mailbox }) := by
  rw [giveUp_eq]
  exact broker_onwards x (.close session) rfl

/-- A node comes up, and then its relay gets a stream. -/
lemma enrolNode_onwards {session stream : Nat} (config : QueueConfig) (transports : List Transport)
    (direct : Option DirectRelay) (hsession : session < x.broker.sessions.length)
    (hconsume : x.broker.consume session config.queueName config.ackMode = (.ok stream, b)) :
    Onwards x { x with
      broker := b
      nodes := x.nodes ++ [{ newNodeWith session config transports direct with
        station := { relay := ({ session, config } : Relay).withConsumer config.queueName stream
                     mailbox := { capacity := Node.maxEvents } } }] } := by
  have henrol := (Move.enrolNode hsession config transports direct).onwards
  refine henrol.trans ?_
  have hn : (x.nodes ++ [newNodeWith session config transports direct])[x.nodes.length]? =
      some (newNodeWith session config transports direct) := List.getElem?_concat_length
  generalize hy : ({ x with nodes := x.nodes ++ [newNodeWith session config transports direct] } : Exchange) = y
  have hn' : y.nodes[x.nodes.length]? = some (newNodeWith session config transports direct) := by
    rw [← hy]
    exact hn
  have hs : y.station? (.node x.nodes.length) = some (newNodeWith session config transports direct).station := by
    rw [station?, hn', Option.map_some]
  have hconsume' : y.broker.consume session config.queueName config.ackMode = (.ok stream, b) := by
    rw [← hy]
    exact hconsume
  have hlisten := act_onwards hs (.listen hconsume') (fun _ _ => startConsumer_closed _ _ _ _) (by simp)
  rw [place_node hn', Relay.startConsumer_of_open rfl] at hlisten
  have hset : y.nodes.set x.nodes.length { newNodeWith session config transports direct with
      station := { relay := ({ session, config } : Relay).withConsumer config.queueName stream
                   mailbox := { capacity := Node.maxEvents } } } =
      x.nodes ++ [{ newNodeWith session config transports direct with
        station := { relay := ({ session, config } : Relay).withConsumer config.queueName stream
                     mailbox := { capacity := Node.maxEvents } } }] := by
    rw [← hy, List.set_append_right _ _ (Nat.le_refl _), Nat.sub_self, List.set_cons_zero]
  rw [← hset]
  subst hy
  exact hlisten

lemma bringUp_onwards {session : Nat} (config : QueueConfig) (transports : List Transport)
    (direct : Option DirectRelay) (hx : x.Shipshape) (hsession : session < x.broker.sessions.length) :
    Onwards x (x.bringUp { session, config } transports direct).2 := by
  have hbegin := beginJoin_onwards x { session, config } config.queueName
  unfold bringUp
  simp only
  split
  · next heq =>
    rw [heq] at hbegin
    exact hbegin.trans (giveUp_onwards _ session config _)
  · next b heq =>
    rw [heq] at hbegin
    have hpassed := hbegin.trans (pass_onwards x.link.consumeMs (hbegin.shipshape hx))
    refine hpassed.trans ?_
    have hsession' := Nat.lt_of_lt_of_le hsession hpassed.sessions_le
    generalize ({ x with broker := b } : Exchange).pass x.link.consumeMs = y at hsession'
    rcases relay_finishJoin_cases { session, config } config.queueName y.broker with
      ⟨result, hjoin⟩ | ⟨stream, b', hclosed, hconsume, hjoin⟩
    · rw [hjoin]
      cases result with
      | error e => exact giveUp_onwards y session config _
      | ok =>
        exact (Move.enrolNode hsession' config transports direct).onwards
    · rw [hjoin, Relay.startConsumer_of_open hclosed]
      exact enrolNode_onwards config transports direct hsession' hconsume

lemma openDirect_onwards (outlook : Direct.Outlook) (config : Option DirectConfig) (hx : x.Shipshape) :
    Onwards x (x.openDirect outlook config).2 := by
  cases config with
  | none => exact .refl x
  | some config => exact pass_onwards _ hx

lemma newNode_onwards (config : NodeConfig) (outlook : Direct.Outlook) (hx : x.Shipshape) :
    Onwards x (x.newNode config outlook).2 := by
  have hdirect := openDirect_onwards outlook config.direct hx
  unfold newNode
  split
  · exact .refl x
  · split
    · next heq => rw [heq] at hdirect; exact hdirect
    · next direct x₁ heq =>
      rw [heq] at hdirect
      refine hdirect.trans ?_
      have hx₁ := hdirect.shipshape hx
      split
      · exact .refl x₁
      · next queue _ =>
        have hopen := openSession_onwards queue hx₁
        split
        · next heq => rw [heq] at hopen; exact hopen
        · next session x₂ heq =>
          rw [heq] at hopen
          exact hopen.trans (bringUp_onwards queue config.transports direct (hopen.shipshape hx₁)
            (openSession_lt hx₁ heq))

/-- A node accepts a command. -/
lemma enqueue_onwards (hn : x.nodes[n]? = some node) (c : NodeCommand)
    (hok : ∀ user text, c = .send user text → ok (.asked n user text)) :
    OnwardsBy ok x (x.setNode n (node.enqueue c)) := by
  have hother : (∀ user text, c ≠ .send user text) → Onwards x (x.setNode n (node.enqueue c)) := by
    intro hne
    refine keep_onwards hn rfl id (Or.inl rfl) Iff.rfl fun user text hmem => ?_
    rcases List.mem_append.1 hmem with hmem | hmem
    · exact hmem
    · exact absurd (List.mem_singleton.1 hmem).symm (hne user text)
  cases c with
  | send user text =>
    refine .of_move (.ask hn user text) fun e he _ => ?_
    cases he
    exact hok user text rfl
  | status => exact (hother fun _ _ h => by cases h).weaken
  | shutdown => exact (hother fun _ _ h => by cases h).weaken

lemma hand_onwards (n : Nat) (c : NodeCommand) (hx : x.Shipshape)
    (hok : ∀ user text, c = .send user text → ok (.asked n user text)) :
    OnwardsBy ok x (x.hand n c).2 := by
  have hwait : OnwardsBy ok x _ := (wait_onwards
    (fun x => x.nodes[n]?.any fun node => node.hasExited || node.hasRoom) hx).weaken
  simp only [hand]
  generalize x.wait _ = y at hwait ⊢
  split
  · exact hwait
  · next node hn =>
    split
    · exact hwait
    · split
      · exact hwait.trans (enqueue_onwards hn c hok)
      · exact hwait

lemma submit_onwards (n : Nat) (c : NodeCommand) (hx : x.Shipshape)
    (hok : ∀ user text, c = .send user text → ok (.asked n user text)) :
    OnwardsBy ok x (x.submit n c).2 := by
  have hhand := hand_onwards n c hx hok
  unfold submit
  split
  · next heq => rw [heq] at hhand; exact hhand
  · next heq => rw [heq] at hhand; exact hhand

/-- The answer to an earlier question is forgotten. -/
def fresh (x : Exchange) (n : Nat) : Exchange :=
  { x with nodes := x.nodes.modify n fun node => { node with answer := none } }

lemma fresh_eq (hn : x.nodes[n]? = some node) : x.fresh n = x.setNode n { node with answer := none } := by
  have hset : x.nodes.modify n (fun node => { node with answer := none }) =
      x.nodes.set n { node with answer := none } := by
    rw [List.modify_eq_set_getElem?, hn]
    rfl
  rw [fresh, hset, setNode]

/-- The exchange in which a question to a node was answered, or nobody waits for the answer any more. -/
def answered (x : Exchange) (n : Nat) : Exchange :=
  (x.fresh n).wait fun x => x.nodes[n]?.any fun node => node.hasExited || node.answer.isSome

lemma askStatus_of_accepted (h : x.hand n .status = (some true, y)) :
    x.askStatus n = ((match (y.answered n).nodes[n]?.bind (·.answer) with
      | some status => .status status
      | none => if (y.answered n).hasExited n then .failed questionDropped else .never), y.answered n) := by
  have hanswered : (({ y with nodes := y.nodes.modify n fun node => { node with answer := none } } : Exchange).wait
      fun x => x.nodes[n]?.any fun node => node.hasExited || node.answer.isSome) = y.answered n := rfl
  rw [askStatus, h]
  simp only [hanswered]
  generalize y.answered n = z
  cases z.nodes[n]?.bind (·.answer) <;> rfl

lemma askStatus_of_not_accepted (h : (x.hand n .status).1 ≠ some true) :
    (x.askStatus n).2 = (x.hand n .status).2 := by
  rcases heq : x.hand n .status with ⟨accepted, y⟩
  rw [heq] at h
  rw [askStatus, heq]
  rcases accepted with - | - | -
  · rfl
  · rfl
  · exact absurd rfl h

lemma askStatus_snd (h : x.hand n .status = (some true, y)) : (x.askStatus n).2 = y.answered n := by
  rw [askStatus_of_accepted h]

lemma askStatus_cases (x : Exchange) (n : Nat) :
    (x.askStatus n).2 = (x.hand n .status).2 ∨ (x.askStatus n).2 = (x.hand n .status).2.answered n := by
  rcases heq : x.hand n .status with ⟨accepted, y⟩
  by_cases haccepted : accepted = some true
  · subst haccepted
    exact Or.inr (askStatus_snd heq)
  · have hnot : (x.hand n .status).1 ≠ some true := by rwa [heq]
    rw [askStatus_of_not_accepted hnot, heq]
    exact Or.inl rfl

lemma fresh_onwards (x : Exchange) (n : Nat) : Onwards x (x.fresh n) := by
  cases hn : x.nodes[n]? with
  | none =>
    rw [fresh, List.modify_eq_self (List.getElem?_eq_none_iff.1 hn)]
    exact .refl x
  | some node =>
    rw [fresh_eq hn]
    exact keep_onwards hn rfl id (Or.inl rfl) Iff.rfl fun _ _ => id

lemma askStatus_onwards (n : Nat) (hx : x.Shipshape) : Onwards x (x.askStatus n).2 := by
  have hhand : Onwards x (x.hand n .status).2 := hand_onwards n .status hx fun _ _ h => by cases h
  have hfresh := hhand.trans (fresh_onwards _ n)
  rcases askStatus_cases x n with heq | heq <;> rw [heq]
  · exact hhand
  · exact hfresh.trans (wait_onwards _ (hfresh.shipshape hx))

/-- A node is told to end. -/
lemma signal_onwards (hn : x.nodes[n]? = some node) :
    Onwards x (x.withNode n (node.signal x.link x.broker)) := by
  unfold Node.signal
  split
  · next hphase => exact leave_onwards hn (by rw [hphase]; decide)
  · exact keep_onwards hn rfl id (Or.inl rfl) Iff.rfl fun _ _ => id
  · exact keep_onwards hn rfl id (Or.inl rfl) Iff.rfl fun _ _ => id

/-- The exchange after a node was told to shut down. -/
def told (x : Exchange) (n : Nat) : Exchange :=
  x.onNode n (Node.shutdown x.link)

lemma told_onwards (x : Exchange) (n : Nat) : Onwards x (x.told n) := by
  refine onNode_onwards fun node hn => ?_
  unfold Node.shutdown
  split
  · exact keep_onwards hn rfl id (Or.inl rfl) Iff.rfl fun _ _ => id
  · have hstate : Onwards x (x.setNode n { node with state := .shuttingDown }) :=
      keep_onwards hn rfl id (Or.inl rfl) Iff.rfl fun _ _ => id
    have hsignal := signal_onwards (setNode_nodes_self hn { node with state := .shuttingDown })
    rw [setNode_withNode] at hsignal
    exact hstate.trans hsignal

lemma shutdown_onwards (n : Nat) (hx : x.Shipshape) : Onwards x (x.shutdown n).2 := by
  have htold := told_onwards x n
  have hwait := htold.trans (wait_onwards (·.hasExited n) (htold.shipshape hx))
  rw [told] at hwait
  simp only [shutdown]
  generalize Exchange.wait _ _ = y at hwait ⊢
  split
  · exact .refl x
  · exact hwait

/-- A loop that was not started is, or nothing happens. -/
lemma start_cases (x : Exchange) (n : Nat) :
    (x.start n).2 = x ∨ ∃ node, x.nodes[n]? = some node ∧ node.phase = .unstarted ∧
      (x.start n).2 = x.setNode n { node with state := .running, phase := .running } := by
  unfold start
  cases hn : x.nodes[n]? with
  | none => exact Or.inl rfl
  | some node =>
    simp only [Option.map_some, Node.start]
    by_cases hstate : node.state = .initializing
    · by_cases hphase : node.phase = .unstarted
      · simp only [hstate, hphase]
        exact Or.inr ⟨node, rfl, hphase, rfl⟩
      · exact Or.inl (by simp [hstate, hphase])
    · exact Or.inl (by simp [hstate])

lemma start_onwards (x : Exchange) (n : Nat) : Onwards x (x.start n).2 := by
  rcases start_cases x n with heq | ⟨node, hn, hphase, heq⟩ <;> rw [heq]
  · exact .refl x
  · exact keep_onwards hn rfl id (Or.inl rfl) (by simp [hphase]) fun _ _ => id

lemma nodeRequest_onwards (hn : x.nodes[n]? = some node) (c : NodeCommand)
    (hok : ∀ user text, c = .send user text → ok (.asked n user text)) :
    OnwardsBy ok x (x.setNode n (node.request c).2) := by
  unfold Node.request
  split
  · exact (keep_onwards hn rfl id (Or.inl rfl) Iff.rfl fun _ _ => id).weaken
  · exact enqueue_onwards hn c hok

lemma request_onwards (x : Exchange) (n : Nat) (c : NodeCommand)
    (hok : ∀ user text, c = .send user text → ok (.asked n user text)) :
    OnwardsBy ok x (x.request n c).2 := by
  unfold request
  cases hn : x.nodes[n]? with
  | none => exact .refl x
  | some node => exact nodeRequest_onwards hn c hok

lemma takeReceiver_onwards (x : Exchange) (n : Nat) : Onwards x (x.takeReceiver n).2 := by
  unfold takeReceiver
  split
  · exact .refl x
  · next node hn =>
    split
    · exact .refl x
    · exact keep_onwards hn rfl id (Or.inl rfl) Iff.rfl fun _ _ => id

/-- A refusal is reported for some transports, as far as there is room. -/
lemma tryPost_onwards (hn : x.nodes[n]? = some node) (reason : String) (transports : List Transport) :
    Onwards x (x.setNode n { node with station := { node.station with
      mailbox := transports.foldl (fun m t => m.tryPost (.sendFailed t reason))
        node.station.mailbox } }) := by
  induction transports generalizing x node with
  | nil => exact keep_onwards hn rfl id (Or.inl rfl) Iff.rfl fun _ _ => id
  | cons t rest ih =>
    have hfirst : Onwards x (x.setNode n { node with station := { node.station with
        mailbox := node.station.mailbox.tryPost (.sendFailed t reason) } }) := by
      unfold Mailbox.tryPost
      split
      · next hroom =>
        simp only [Bool.and_eq_true, decide_eq_true_eq] at hroom
        have hs : x.station? (.node n) = some node.station :=
          Option.map_eq_some_iff.2 ⟨node, hn, rfl⟩
        have hreport := act_onwards (b := x.broker) hs (.report t reason hroom.2) (fun _ _ => rfl)
          (by simp)
        rw [place_node hn] at hreport
        exact hreport
      · exact keep_onwards hn rfl id (Or.inl rfl) Iff.rfl fun _ _ => id
    have hrest := ih (setNode_nodes_self hn { node with station := { node.station with
      mailbox := node.station.mailbox.tryPost (.sendFailed t reason) } })
    rw [setNode_setNode] at hrest
    exact hfirst.trans hrest

lemma sendMessage_onwards (hn : x.nodes[n]? = some node) (user text : String)
    (hok : ok (.asked n user text)) : OnwardsBy ok x (x.setNode n (node.sendMessage user text)) := by
  unfold Node.sendMessage
  split
  · exact (tryPost_onwards hn _ node.transports).weaken
  · exact enqueue_onwards hn _ fun _ _ h => by cases h; exact hok

/-- Calls are made one after the other. -/
lemma nodeBurst_onwards (hn : x.nodes[n]? = some node) (calls : List NodeCall)
    (hok : ∀ call ∈ calls, ∀ user text, call.command = .send user text → ok (.asked n user text)) :
    OnwardsBy ok x (x.setNode n (node.burst calls).2) := by
  induction calls generalizing x node with
  | nil => exact (keep_onwards hn rfl id (Or.inl rfl) Iff.rfl fun _ _ => id).weaken
  | cons call rest ih =>
    have hrest : ∀ node', OnwardsBy ok x (x.setNode n node') →
        OnwardsBy ok x (x.setNode n (node'.burst rest).2) := by
      intro node' hfirst
      have h := ih (setNode_nodes_self hn node') fun c hc => hok c (List.mem_cons_of_mem _ hc)
      rw [setNode_setNode] at h
      exact hfirst.trans h
    have hcall := hok call List.mem_cons_self
    cases call with
    | send user text => exact hrest _ (sendMessage_onwards hn user text (hcall user text rfl))
    | request c =>
      refine hrest _ (nodeRequest_onwards hn c fun user text hc => hcall user text ?_)
      rw [hc]
      rfl

lemma burst_onwards (x : Exchange) (n : Nat) (calls : List NodeCall)
    (hok : ∀ call ∈ calls, ∀ user text, call.command = .send user text → ok (.asked n user text)) :
    OnwardsBy ok x (x.burst n calls).2 := by
  unfold burst
  cases hn : x.nodes[n]? with
  | none => exact .refl x
  | some node => exact nodeBurst_onwards hn calls hok

lemma dropNode_onwards (x : Exchange) (n : Nat) : Onwards x (x.onNode n (Node.drop x.link)) := by
  refine onNode_onwards fun node hn => ?_
  -- the mailbox goes if nobody has taken it, and then the node is told to end
  have hkept : Onwards x (x.withNode n (if node.taken then (node, x.broker)
      else node.discardMailbox x.broker)) := by
    split
    · exact keep_onwards hn rfl id (Or.inl rfl) Iff.rfl fun _ _ => id
    · have hs : x.station? (.node n) = some node.station := Option.map_eq_some_iff.2 ⟨node, hn, rfl⟩
      have hdiscard := act_onwards hs .discard (fun _ _ => discardMailbox_closed node.station x.broker)
        (by simp)
      rw [place_node hn] at hdiscard
      exact hdiscard
  unfold Node.drop
  rcases hpair : (if node.taken then (node, x.broker) else node.discardMailbox x.broker) with ⟨kept, b⟩
  rw [hpair] at hkept
  have hn₁ : (x.withNode n (kept, b)).nodes[n]? = some kept := withNode_nodes_self hn _
  have hdropped : Onwards (x.withNode n (kept, b))
      ((x.withNode n (kept, b)).setNode n { kept with dropped := true }) :=
    keep_onwards hn₁ rfl id (Or.inl rfl) Iff.rfl fun _ _ => id
  have hsignal := signal_onwards (setNode_nodes_self hn₁ { kept with dropped := true })
  rw [setNode_withNode] at hsignal
  have hall := (hkept.trans hdropped).trans hsignal
  simpa [withNode, setNode] using hall

/-- The peer of a node calls it. -/
lemma peerCalls_onwards (x : Exchange) (n : Nat) (user text : String) (hok : ok (.called (.node n) user text)) :
    OnwardsBy ok x (x.peerCalls n user text).2 := by
  simp only [peerCalls]
  refine onNode_onwards fun node hn => ?_
  rcases node.peerCalls_cases user text with ⟨-, hturn⟩ | hsame
  · refine directTurn_onwards hn hturn ?_
    rintro _ _ ⟨⟩
    exact hok
  · rw [hsame]
    exact (keep_onwards hn rfl id (Or.inl rfl) Iff.rfl fun _ _ => id).weaken

lemma peerAnswers_onwards (x : Exchange) (n task : Nat) (outcome : Except Direct.Status Unit) :
    Onwards x (x.peerAnswers n task outcome) :=
  onNode_onwards fun node hn => directTurns_onwards hn (node.peerAnswers_turns task outcome)

/-! ## Commands and runs -/

/-- Whether a command asks for something that happens. -/
def Command.Prompts : Command → Happening → Prop
  | .publish n queue user texts, h => ∃ text ∈ texts, h = .published (.relay n) queue user text
  | .burst n calls, h => ∃ call ∈ calls, ∃ user text, call.command = .send user text ∧ h = .asked n user text
  | .request n (.send user text), h | .submit n (.send user text), h => h = .asked n user text
  | .peerCalls n user text, h => h = .called (.node n) user text
  | .control (.inject queue payload), h => h = .injected queue payload
  | _, _ => False

/-- Whether a command brings a message from outside. -/
def Command.injects : Command → Bool
  | .control (.inject ..) | .peerCalls .. => true
  | _ => false

lemma Command.injects_of_prompts {c : Command} {h : Happening} (hprompts : c.Prompts h)
    (hinjected : h.isInjected = true) : c.injects = true := by
  unfold Prompts at hprompts
  split at hprompts
  · obtain ⟨text, -, rfl⟩ := hprompts
    cases hinjected
  · obtain ⟨call, -, user, text, -, rfl⟩ := hprompts
    cases hinjected
  · subst hprompts
    cases hinjected
  · subst hprompts
    cases hinjected
  · rfl
  · rfl
  · cases hprompts

/-- Whatever is asked of an exchange, it does it in moves. -/
lemma act_onwards_of_command (c : Command) (hx : x.Shipshape) : OnwardsBy c.Prompts x (x.act c).2 := by
  cases c with
  | connect config capacity =>
    have h := connect_onwards config capacity hx
    simp only [act]
    split
    · next heq => rw [heq] at h; exact h
    · next heq => rw [heq] at h; exact h
  | join n queue => exact join_onwards (.relay n) queue hx
  | publish n queue user texts =>
    exact publishAll_onwards n queue user texts none hx fun text ht => ⟨text, ht, rfl⟩
  | close n => exact close_onwards x n
  | joinThenClose n queue => exact joinThenClose_onwards n queue hx
  | drop n => exact drop_onwards x n
  | breakStream stream => exact breakStream_onwards stream hx
  | takeEvents seat limit => exact takeEvents_onwards x seat limit
  | discardMailbox seat => exact discardMailbox_onwards x seat
  | newNode config outlook =>
    have h := newNode_onwards config outlook hx
    simp only [act]
    split
    · next heq => rw [heq] at h; exact h
    · next heq => rw [heq] at h; exact h
    · next heq => rw [heq] at h; exact h
  | takeReceiver n => exact takeReceiver_onwards x n
  | start n => exact start_onwards x n
  | burst n calls =>
    exact burst_onwards x n calls fun call hc user text hmessage => ⟨call, hc, user, text, hmessage, rfl⟩
  | status n => exact askStatus_onwards n hx
  | request n c => exact request_onwards x n c fun _ _ hc => by rw [hc]; rfl
  | submit n c => exact submit_onwards n c hx fun _ _ hc => by rw [hc]; rfl
  | shutdown n => exact shutdown_onwards n hx
  | dropNode n => exact dropNode_onwards x n
  | peerCalls n user text => exact peerCalls_onwards x n user text rfl
  | peerAnswers n task outcome => exact (peerAnswers_onwards x n task outcome).weaken
  | control c =>
    cases c with
    | inject queue payload =>
      refine .of_move (.inject x queue payload) fun e he _ => ?_
      cases he
      rfl
    | stats queue => exact broker_onwards x (.control (.stats queue)) rfl
    | openSessions => exact .refl x
    | refuseConnects n => exact broker_onwards x (.control (.refuseConnects n)) rfl
    | refuseChannel => exact broker_onwards x (.control .refuseChannel) rfl

lemma step_onwards (c : Command) (hx : x.Shipshape) : OnwardsBy c.Prompts x (x.step c).2.2 := by
  have hact := act_onwards_of_command c hx
  rw [step_eq]
  exact hact.trans (quiesce_onwards (hact.shipshape hx)).weaken

/-- Every run is a course, whatever has happened before. -/
lemma run_onwards (cs : List Command) (hx : x.Shipshape) :
    OnwardsBy (fun h => ∃ c ∈ cs, c.Prompts h) x (x.run cs).2 := by
  induction cs generalizing x with
  | nil => exact .refl _
  | cons c rest ih =>
    have hfirst := step_onwards c hx
    have hrest := ih (hfirst.shipshape hx)
    rw [run_cons]
    refine (hfirst.mono fun h hc => ⟨c, List.mem_cons_self, hc⟩).trans (hrest.mono ?_)
    rintro h ⟨c', hc', hprompts⟩
    exact ⟨c', List.mem_cons_of_mem _ hc', hprompts⟩

/-- **Every run is a course**, in which only such things are asked for as a command asks for. -/
theorem run_course (link : Link) (cs : List Command) :
    ∃ log, Course { link } log (({ link } : Exchange).run cs).2 ∧
      ∀ h ∈ log, h.isPrompted = true → ∃ c ∈ cs, c.Prompts h :=
  run_onwards cs (shipshape_empty link)

end Exchange

end MessageRelay
