import MessageRelay.Proofs.Exchange.Rest

/-!
# The ledger of a node

What a diary says about one node is the ledger of the node.  Whatever the node does, its ledger balances: every
message that it was asked to send has been settled once, is on its way, or waits for the loop (`Node.Balanced`).
As long as no event is taken from the mailbox, and there is still a place in it at the end, there has been a place
all the time, so every failure has been reported (`Mailbox.Hears`).

Both are said at once of what is written down between two moments (`Node.Passage`).
-/

namespace MessageRelay

/-! ## Ledgers -/

/-- What is written down about one node. -/
abbrev Ledger := List Entry

namespace Ledger

/-- The messages that the node was asked to send. -/
def asked (es : Ledger) : List (String × String) :=
  es.filterMap fun
    | .asked user text => some (user, text)
    | _ => none

/-- The messages of which it is known what became of them, and what that is. -/
def settled (es : Ledger) : List ((String × String) × Fate) :=
  es.filterMap fun
    | .settled user text fate => some ((user, text), fate)
    | _ => none

/-- What became of the messages. -/
def fates (es : Ledger) : List Fate :=
  es.settled.map (·.2)

variable {es es' : Ledger}

@[simp] lemma asked_append : asked (es ++ es') = es.asked ++ es'.asked :=
  List.filterMap_append

@[simp] lemma settled_append : settled (es ++ es') = es.settled ++ es'.settled :=
  List.filterMap_append

@[simp] lemma fates_append : fates (es ++ es') = es.fates ++ es'.fates := by
  rw [fates, settled_append, List.map_append, fates, fates]

lemma asked_forgotten (messages : List (String × String)) :
    asked (messages.map fun m => .settled m.1 m.2 .forgotten) = [] := by
  simp [asked, List.filterMap_map]

lemma settled_forgotten (messages : List (String × String)) :
    settled (messages.map fun m => .settled m.1 m.2 .forgotten) = messages.map fun m => (m, .forgotten) := by
  simp [settled, List.filterMap_map]

@[simp] lemma asked_entries (c : NodeCommand) : asked c.entries = c.message?.toList := by
  cases c <;> rfl

@[simp] lemma settled_entries (c : NodeCommand) : settled c.entries = [] := by
  cases c <;> rfl

end Ledger

/-- The part of a diary that is about a node. -/
def ledgerOf (k : Nat) (log : List (Nat × Entry)) : Ledger :=
  log.filterMap fun e => if e.1 = k then some e.2 else none

lemma ledgerOf_append (k : Nat) (log log' : List (Nat × Entry)) :
    ledgerOf k (log ++ log') = ledgerOf k log ++ ledgerOf k log' :=
  List.filterMap_append

lemma ledgerOf_map_self (k : Nat) (es : Ledger) : ledgerOf k (es.map fun e => (k, e)) = es := by
  simp [ledgerOf, List.filterMap_map]

lemma ledgerOf_map_of_ne {k n : Nat} (h : n ≠ k) (es : Ledger) :
    ledgerOf k (es.map fun e => (n, e)) = [] := by
  simp [ledgerOf, List.filterMap_map, h]

lemma mem_ledgerOf {k : Nat} {e : Entry} {log : List (Nat × Entry)} : e ∈ ledgerOf k log ↔ (k, e) ∈ log := by
  simp [ledgerOf, List.mem_filterMap]

lemma ledgerOf_emptied (k : Nat) : ledgerOf k (Seat.node k).emptied = [.emptied] :=
  ledgerOf_map_self k [.emptied]

/-- What a node is asked to send is asked for. -/
lemma asked_ledgerOf_prompted (k : Nat) (log : List (Nat × Entry)) :
    (ledgerOf k (Exchange.prompted log)).asked = (ledgerOf k log).asked := by
  induction log with
  | nil => rfl
  | cons e rest ih =>
    obtain ⟨n, e⟩ := e
    by_cases hn : n = k <;> cases e <;>
      simp_all [Exchange.prompted, ledgerOf, Ledger.asked, Entry.isPrompt]

/-! ## Mailboxes in which there is room -/

/-- Whether an event says that a message could not be sent through the queue. -/
def Event.isFailure : Event → Bool
  | sendFailed .queue _ => true
  | _ => false

namespace Mailbox

variable {m m' m'' : Mailbox} {fs fs' : List Fate} {event : Event} {sender : Sender}

/-- The user has the mailbox, and it is not full. -/
def IsOpen (m : Mailbox) : Prop :=
  m.kept = true ∧ m.posted.length < m.capacity

/-- Nobody waits for a place, and nobody was given one. -/
def IsCalm (m : Mailbox) : Prop :=
  m.granted = [] ∧ m.waiting = []

/-- How many of the events that can be taken are failures to send. -/
def failures (m : Mailbox) : Nat :=
  m.posted.countP Event.isFailure

lemma isOpen_of_room (hkept : m.kept = true) (hroom : 0 < m.room) : m.IsOpen := by
  have h : 0 < m.capacity - m.posted.length - m.granted.length := hroom
  exact ⟨hkept, by omega⟩

lemma IsOpen.room (h : m.IsOpen) (hcalm : m.IsCalm) : 0 < m.room := by
  have hlt := h.2
  rw [Mailbox.room, hcalm.1, List.length_nil]
  omega

lemma reportFate_ne_forgotten (m : Mailbox) : .forgotten ≠ m.reportFate := by
  unfold Mailbox.reportFate
  split <;> simp

lemma isOpen_of_put (h : (m.put event).IsOpen) : m.IsOpen := by
  have hlt := h.2
  simp only [put, List.length_append, List.length_singleton] at hlt
  exact ⟨h.1, by omega⟩

/-- `m'` is `m` at a later time, and nothing was taken in between: if there is room at the end then there was
room all the time, nobody had to wait, and the failures that came are there. -/
structure Hears (fs : List Fate) (m m' : Mailbox) : Prop where
  isOpen : m'.IsOpen → m.IsOpen
  hears : m'.IsOpen → m.IsCalm →
    m'.IsCalm ∧ .unreported ∉ fs ∧ m'.failures = m.failures + fs.count .reported

namespace Hears

/-- Nothing comes. -/
lemma silent (hreported : fs.count .reported = 0) (hunreported : .unreported ∉ fs) : Hears fs m m :=
  ⟨id, fun _ hcalm => ⟨hcalm, hunreported, by rw [hreported, Nat.add_zero]⟩⟩

lemma refl (m : Mailbox) : Hears [] m m :=
  silent List.count_nil List.not_mem_nil

lemma trans (h : Hears fs m m') (h' : Hears fs' m' m'') : Hears (fs ++ fs') m m'' := by
  refine ⟨fun hopen => h.isOpen (h'.isOpen hopen), fun hopen hcalm => ?_⟩
  obtain ⟨hcalm', htold, hcount⟩ := h.hears (h'.isOpen hopen) hcalm
  obtain ⟨hcalm'', htold', hcount'⟩ := h'.hears hopen hcalm'
  refine ⟨hcalm'', ?_, ?_⟩
  · rw [List.mem_append, not_or]
    exact ⟨htold, htold'⟩
  · rw [List.count_append]
    omega

/-- Of a mailbox that is full, or thrown away, nothing is said. -/
lemma of_not_isOpen (h : ¬ m'.IsOpen) : Hears fs m m' :=
  ⟨fun hopen => absurd hopen h, fun hopen => absurd hopen h⟩

/-- Where there is room nobody waits. -/
lemma waits (hroom : m.room = 0) : Hears fs m { m with waiting := m.waiting ++ [(sender, event)] } := by
  refine ⟨fun hopen => hopen, fun hopen hcalm => ?_⟩
  have hpos : 0 < m.room := IsOpen.room (m := m) hopen hcalm
  omega

/-- Those who wait may go away. -/
lemma leave {waiting granted : List (Sender × Event)} (hwaiting : waiting.Sublist m.waiting)
    (hgranted : granted.Sublist m.granted) (hreported : fs.count .reported = 0) (hunreported : .unreported ∉ fs) :
    Hears fs m { m with waiting, granted } := by
  refine ⟨fun hopen => hopen, fun _ hcalm => ⟨⟨?_, ?_⟩, hunreported, ?_⟩⟩
  · rw [hcalm.1] at hgranted
    exact List.sublist_nil.1 hgranted
  · rw [hcalm.2] at hwaiting
    exact List.sublist_nil.1 hwaiting
  · rw [hreported]
    rfl

lemma forget (m : Mailbox) (sender : Sender) : Hears [] m (m.forget sender) :=
  leave List.filter_sublist List.filter_sublist List.count_nil List.not_mem_nil

/-- An event is posted. -/
lemma put (hevent : (if event.isFailure then 1 else 0) = fs.count .reported) (htold : .unreported ∉ fs) :
    Hears fs m (m.put event) := by
  refine ⟨isOpen_of_put, fun _ hcalm => ⟨hcalm, htold, ?_⟩⟩
  rw [failures, Mailbox.put, List.countP_append, List.countP_singleton, hevent]
  rfl

/-- An event that is no failure is left. -/
lemma leaves (m : Mailbox) (sender : Sender) (hevent : event.isFailure = false) :
    Hears [] m (m.leave sender event) := by
  rcases m.leave_cases sender event with hoffer | hoffer | hsame
  · obtain ⟨-, -, heq⟩ := offer_eq_posted hoffer
    rw [heq]
    exact put (by rw [hevent]; rfl) List.not_mem_nil
  · obtain ⟨-, hroom, heq⟩ := offer_eq_waits hoffer
    rw [heq]
    exact waits hroom
  · rw [hsame]
    exact refl m

/-- Somebody uses a place that he was given. -/
lemma grant {rest : List (Sender × Event)} (h : m.granted = (sender, event) :: rest) :
    Hears fs m (({ m with granted := rest } : Mailbox).put event) := by
  refine ⟨fun hopen => isOpen_of_put (m := m) hopen, fun _ hcalm => ?_⟩
  rw [hcalm.1] at h
  cases h

/-- A failure is posted if there is room, and it is written down whether there was. -/
lemma tryPost (m : Mailbox) (reason : String) :
    Hears [m.reportFate] m (m.tryPost (.sendFailed .queue reason)) := by
  unfold Mailbox.tryPost Mailbox.reportFate
  split
  · exact put rfl (by decide)
  · next hfull =>
    refine ⟨id, fun hopen hcalm => absurd ?_ hfull⟩
    simp [hopen.1, hopen.room hcalm]

/-- Something else is posted if there is room. -/
lemma tryPost_other (m : Mailbox) (hevent : event.isFailure = false) : Hears [] m (m.tryPost event) := by
  unfold Mailbox.tryPost
  split
  · exact put (by rw [hevent]; rfl) List.not_mem_nil
  · exact refl m

/-- A place that is left when something was posted is there without it. -/
lemma reportFate_eq (hopen : m.IsOpen) (hcalm : m.IsCalm) : m.reportFate = .reported := by
  simp [Mailbox.reportFate, hopen.1, hopen.room hcalm]

/-- A refusal that is reported for every transport is reported once for the queue. -/
lemma foldl_tryPost (reason : String) {transports : List Transport} (m : Mailbox)
    (hqueue : transports.count .queue = 1) :
    Hears [m.reportFate] m (transports.foldl (fun m t => m.tryPost (.sendFailed t reason)) m) := by
  have hothers : ∀ (l : List Transport) (m : Mailbox), l.count .queue = 0 →
      Hears [] m (l.foldl (fun m t => m.tryPost (.sendFailed t reason)) m) := by
    intro l
    induction l with
    | nil => exact fun m _ => refl m
    | cons t rest ih =>
      intro m hnone
      rw [List.count_cons] at hnone
      have hother : (Event.sendFailed t reason).isFailure = false := by
        cases t with
        | direct => rfl
        | queue => simp at hnone
      exact (tryPost_other m hother).trans (ih _ (by omega))
  induction transports generalizing m with
  | nil => cases hqueue
  | cons t rest ih =>
    rw [List.foldl_cons]
    cases t with
    | queue =>
      rw [List.count_cons_self] at hqueue
      exact (tryPost m reason).trans (hothers rest _ (by omega))
    | direct =>
      have hfirst : Hears [] m (m.tryPost (.sendFailed .direct reason)) := tryPost_other m rfl
      have hrest := ih (m.tryPost (.sendFailed .direct reason)) (by simpa using hqueue)
      -- what is written down is the same if there is room at the end
      refine ⟨fun hopen => hfirst.isOpen (hrest.isOpen hopen), fun hopen hcalm => ?_⟩
      obtain ⟨hcalm', -, -⟩ := hfirst.hears (hrest.isOpen hopen) hcalm
      have hfate : (m.tryPost (.sendFailed .direct reason)).reportFate = m.reportFate :=
        (reportFate_eq (hrest.isOpen hopen) hcalm').trans
          (reportFate_eq (hfirst.isOpen (hrest.isOpen hopen)) hcalm).symm
      have hheard := (hfirst.trans hrest).hears hopen hcalm
      rwa [hfate] at hheard

end Hears

end Mailbox

/-- A call of a peer is no failure to send. -/
lemma Direct.Service.eventOf_isFailure (user text : String) : (eventOf user text).isFailure = false := by
  unfold eventOf
  split <;> rfl

/-! ## Stations -/

namespace Station

variable {s s' : Station} {b b' : Broker}

lemma eventOf_isFailure (payload : Bytes) : (Relay.eventOf payload).1.isFailure = false := by
  unfold Relay.eventOf
  split <;> rfl

/-- Whatever a consumer does, no failure comes of it. -/
lemma Turn.hears (h : Turn (s, b) (s', b')) : s.mailbox.Hears [] s'.mailbox := by
  cases h with
  | post _ _ _ _ hoffer =>
    obtain ⟨-, -, rfl⟩ := Mailbox.offer_eq_posted hoffer
    exact .put (by rw [eventOf_isFailure]; rfl) List.not_mem_nil
  | wait _ _ _ _ hoffer =>
    obtain ⟨-, hroom, rfl⟩ := Mailbox.offer_eq_waits hoffer
    exact .waits hroom
  | refuse => exact .forget _ _
  | stop => exact .forget _ _

lemma close_hears {fs : List Fate} (hreported : fs.count .reported = 0) (hunreported : .unreported ∉ fs)
    (link : Link) (s : Station) (b : Broker) : s.mailbox.Hears fs (s.close link b).2.1.mailbox := by
  unfold Station.close
  split
  · exact .silent hreported hunreported
  · rw [finishClose_eq]
    exact .leave List.filter_sublist List.filter_sublist hreported hunreported

lemma discardMailbox_kept (s : Station) (b : Broker) : (s.discardMailbox b).1.mailbox.kept = false := by
  simp only [discardMailbox, stopConsumers_eq]
  rfl

end Station

/-! ## Nodes -/

namespace Node

variable {link : Link} {b b' : Broker} {node node' node'' : Node} {es es' : Ledger}

/-- The queue is one of the transports of a node, and only once. -/
def SendsToQueue (node : Node) : Prop :=
  node.transports.count .queue = 1

lemma SendsToQueue.of_eq (h : node.SendsToQueue) (heq : node'.transports = node.transports) : node'.SendsToQueue := by
  rwa [SendsToQueue, heq]

/-- What a node has on its way: nothing, or one message. -/
def OnItsWay (node : Node) (way : List (String × String)) : Prop :=
  match node.publication with
  | none => way = []
  | some p => ∃ user text, way = [(user, text)] ∧ Envelope.Encodes user text p.payload

/-- **The ledger of a node balances.**  Every message that the node was asked to send has been settled once, or
is on its way, or waits.  Nothing is on its way before the loop starts, and nothing is left when it has ended. -/
structure Balanced (es : Ledger) (node : Node) : Prop where
  complete : ∃ way, node.OnItsWay way ∧ es.asked.Perm (es.settled.map (·.1) ++ (way ++ node.messages))
  unstarted : node.phase = .unstarted → node.publication = none
  exited : node.phase = .exited → node.publication = none ∧ node.messages = []

lemma OnItsWay.eq_nil {way : List (String × String)} (h : node.OnItsWay way) (hnone : node.publication = none) :
    way = [] := by
  rwa [OnItsWay, hnone] at h

lemma OnItsWay.eq_singleton {way : List (String × String)} {p : Publication} {user text : String}
    (h : node.OnItsWay way) (hp : node.publication = some p) (hencodes : Envelope.Encodes user text p.payload) :
    way = [(user, text)] := by
  rw [OnItsWay, hp] at h
  obtain ⟨user', text', rfl, hencodes'⟩ := h
  obtain ⟨rfl, rfl⟩ := hencodes.unique hencodes'
  rfl

lemma onItsWay_nil (h : node.publication = none) : node.OnItsWay [] := by
  rw [OnItsWay, h]

/-- Balance does not depend on what else a node notes. -/
lemma Balanced.congr (h : node.Balanced es) (hpublication : node'.publication = node.publication)
    (hmessages : node'.messages = node.messages)
    (hphase : node'.phase = node.phase ∨ node.phase = .unstarted ∧ node'.phase = .running) :
    node'.Balanced es where
  complete := by
    obtain ⟨way, hway, hperm⟩ := h.complete
    rw [OnItsWay, ← hpublication] at hway
    rw [← hmessages] at hperm
    exact ⟨way, hway, hperm⟩
  unstarted hunstarted := by
    rw [hpublication]
    rcases hphase with heq | ⟨-, hrunning⟩
    · exact h.unstarted (heq.symm.trans hunstarted)
    · rw [hrunning] at hunstarted
      cases hunstarted
  exited hexited := by
    rw [hpublication, hmessages]
    rcases hphase with heq | ⟨-, hrunning⟩
    · exact h.exited (heq.symm.trans hexited)
    · rw [hrunning] at hexited
      cases hexited

/-- A node that was asked for nothing has nothing left to do, and nothing was settled. -/
lemma Balanced.of_asked_eq_nil (h : node.Balanced es) (hasked : es.asked = []) :
    es.settled = [] ∧ node.Balanced [] := by
  obtain ⟨way, hway, hperm⟩ := h.complete
  rw [hasked] at hperm
  obtain ⟨hsettled, hrest⟩ := List.append_eq_nil_iff.1 hperm.nil_eq.symm
  refine ⟨List.map_eq_nil_iff.1 hsettled, ⟨way, hway, ?_⟩, h.unstarted, h.exited⟩
  rw [hrest]
  exact List.Perm.nil

/-- A node that has a message on its way has a loop that runs. -/
lemma Balanced.running {p : Publication} (h : node.Balanced es) (hp : node.publication = some p) :
    node.phase = .running := by
  cases hphase : node.phase with
  | unstarted =>
    rw [h.unstarted hphase] at hp
    cases hp
  | running => rfl
  | exited =>
    rw [(h.exited hphase).1] at hp
    cases hp

/-- The loop goes on: some of what was on its way or waited is settled, and the rest is still there. -/
lemma Balanced.goOn (h : node.Balanced es) (hasked : es'.asked = []) (hphase : node'.phase = .running)
    (hleft : ∀ way, node.OnItsWay way → ∃ way', node'.OnItsWay way' ∧
      way ++ node.messages = es'.settled.map (·.1) ++ (way' ++ node'.messages)) :
    node'.Balanced (es ++ es') where
  complete := by
    obtain ⟨way, hway, hperm⟩ := h.complete
    obtain ⟨way', hway', heq⟩ := hleft way hway
    refine ⟨way', hway', ?_⟩
    rw [heq] at hperm
    simpa [hasked] using hperm
  unstarted hunstarted := by
    rw [hphase] at hunstarted
    cases hunstarted
  exited hexited := by
    rw [hphase] at hexited
    cases hexited

/-- **What is written down of a node between two moments** keeps the ledger balanced, and says what was reported
if no event was taken. -/
structure Passage (es : Ledger) (node node' : Node) : Prop where
  balanced : ∀ {before : Ledger}, node.Balanced before → node'.Balanced (before ++ es)
  transports : node'.transports = node.transports
  hears : .emptied ∉ es → node.SendsToQueue →
    node.station.mailbox.Hears es.fates node'.station.mailbox

namespace Passage

lemma refl (node : Node) : Passage [] node node where
  balanced h := by rwa [List.append_nil]
  transports := rfl
  hears _ _ := .refl _

lemma trans (h : Passage es node node') (h' : Passage es' node' node'') : Passage (es ++ es') node node'' where
  balanced hbefore := by
    rw [← List.append_assoc]
    exact h'.balanced (h.balanced hbefore)
  transports := h'.transports.trans h.transports
  hears hempty htransports := by
    rw [List.mem_append, not_or] at hempty
    rw [Ledger.fates_append]
    exact (h.hears hempty.1 htransports).trans (h'.hears hempty.2 (htransports.of_eq h.transports))

/-- Only the station of a node changes. -/
lemma of_station {s : Station} (h : node.station.mailbox.Hears [] s.mailbox) :
    Passage [] node { node with station := s } where
  balanced hbefore := by
    rw [List.append_nil]
    exact hbefore.congr rfl rfl (Or.inl rfl)
  transports := rfl
  hears _ _ := h

/-- The user takes events. -/
lemma emptied (node : Node) (s : Station) : Passage [.emptied] node { node with station := s } where
  balanced hbefore := by
    obtain ⟨way, hway, hperm⟩ := hbefore.complete
    refine ⟨⟨way, hway, ?_⟩, hbefore.unstarted, hbefore.exited⟩
    have hasked : Ledger.asked [.emptied] = [] := rfl
    have hsettled : Ledger.settled [.emptied] = [] := rfl
    rw [Ledger.asked_append, Ledger.settled_append, hasked, hsettled, List.append_nil, List.append_nil]
    exact hperm
  transports := rfl
  hears hempty := absurd List.mem_cons_self hempty

end Passage

/-- **Every failure between two moments has been reported.**  The events that were taken in between, and those that
can still be taken, are evidence of it. -/
structure Reports (taken : List Event) (es : Ledger) (node node' : Node) : Prop where
  transports : node'.SendsToQueue
  calm : node'.station.mailbox.IsCalm
  told : .unreported ∉ es.fates
  counted : taken.countP Event.isFailure + node'.station.mailbox.failures =
    node.station.mailbox.failures + es.fates.count .reported

lemma Reports.trans {taken taken' : List Event} (h : Reports taken es node node')
    (h' : Reports taken' es' node' node'') : Reports (taken ++ taken') (es ++ es') node node'' where
  transports := h'.transports
  calm := h'.calm
  told := by
    rw [Ledger.fates_append, List.mem_append, not_or]
    exact ⟨h.told, h'.told⟩
  counted := by
    have hfirst := h.counted
    have hlast := h'.counted
    rw [List.countP_append, Ledger.fates_append, List.count_append]
    omega

/-- If there is room in the mailbox at the end then every failure has been reported. -/
lemma Passage.reports (h : Passage es node node') (hempty : .emptied ∉ es)
    (htransports : node.SendsToQueue) (hcalm : node.station.mailbox.IsCalm)
    (hopen : node'.station.mailbox.IsOpen) : Reports [] es node node' := by
  obtain ⟨hcalm', htold, hcount⟩ := (h.hears hempty htransports).hears hopen hcalm
  refine ⟨htransports.of_eq h.transports, hcalm', htold, ?_⟩
  rw [List.countP_nil, Nat.zero_add, hcount]

/-- When the user takes events, failures go from the mailbox to him. -/
lemma take_reports (limit : Option Nat) (htransports : node.SendsToQueue)
    (hcalm : node.station.mailbox.IsCalm) :
    Reports (node.station.mailbox.take limit).1 [.emptied] node
      { node with station := { node.station with mailbox := (node.station.mailbox.take limit).2 } } := by
  refine ⟨htransports, ⟨?_, ?_⟩, List.not_mem_nil, ?_⟩
  · simp [Mailbox.take, Mailbox.grant, hcalm.1, hcalm.2]
  · simp [Mailbox.take, Mailbox.grant, hcalm.2]
  · have hsplit := List.take_append_drop (limit.getD node.station.mailbox.posted.length)
      node.station.mailbox.posted
    have hcount := congrArg (List.countP Event.isFailure) hsplit
    rw [List.countP_append] at hcount
    exact hcount

/-- A failure that the loop reports. -/
lemma conclude_hears (node : Node) (e : RelayError) :
    node.station.mailbox.Hears [node.station.mailbox.reportFate]
      (node.conclude (.error e)).station.mailbox := by
  simp only [conclude]
  cases hoffer : node.station.mailbox.offer .loop (.sendFailed .queue e.message) with
  | posted m =>
    obtain ⟨hkept, hroom, rfl⟩ := Mailbox.offer_eq_posted hoffer
    have hfate : node.station.mailbox.reportFate = .reported := by simp [Mailbox.reportFate, hkept, hroom]
    rw [hfate]
    exact .put rfl (by decide)
  | waits m =>
    obtain ⟨-, hroom, rfl⟩ := Mailbox.offer_eq_waits hoffer
    exact .waits hroom
  | refused =>
    have hgone := Mailbox.offer_eq_refused hoffer
    refine .of_not_isOpen fun hopen => ?_
    have hkept : node.station.mailbox.kept = true := hopen.1
    rw [hgone] at hkept
    cases hkept

lemma conclude_messages (node : Node) (result : Except RelayError Unit) :
    (node.conclude result).messages = node.messages := by
  rw [messages, conclude_commands, messages]

lemma conclude_phase (node : Node) (result : Except RelayError Unit) :
    (node.conclude result).phase = node.phase := by
  obtain ⟨s, heq⟩ := conclude_eq node result
  rw [heq]

lemma conclude_transports (node : Node) (result : Except RelayError Unit) :
    (node.conclude result).transports = node.transports := by
  obtain ⟨s, heq⟩ := conclude_eq node result
  rw [heq]

/-- A message that waits is taken by the loop. -/
lemma messages_of_send {user text : String} {rest : List NodeCommand}
    (h : node.commands = .send user text :: rest) :
    node.messages = (user, text) :: ({ node with commands := rest } : Node).messages := by
  rw [messages, h]
  rfl

/-! ## What a node does -/

lemma enqueue_passage (hphase : node.phase ≠ .exited) (c : NodeCommand) :
    Passage c.entries node (node.enqueue c) := by
  refine ⟨fun hbefore => ⟨?_, hbefore.unstarted, fun hexited => absurd hexited hphase⟩, rfl, fun _ _ => ?_⟩
  · obtain ⟨way, hway, hperm⟩ := hbefore.complete
    refine ⟨way, hway, ?_⟩
    have hmessages : (node.enqueue c).messages = node.messages ++ c.message?.toList := by
      simp only [messages, enqueue, List.filterMap_append]
      cases c <;> rfl
    rw [hmessages]
    simpa [List.append_assoc] using hperm.append_right c.message?.toList
  · rw [Ledger.fates, Ledger.settled_entries]
    exact .refl _

/-- A message that is refused is settled at once. -/
lemma reportRefused_passage (node : Node) (user text reason : String) :
    Passage [.asked user text, .settled user text node.station.mailbox.reportFate] node
      (node.reportRefused reason) := by
  generalize hfate : node.station.mailbox.reportFate = fate
  refine ⟨fun hbefore => ⟨?_, hbefore.unstarted, hbefore.exited⟩, rfl, fun _ htransports => ?_⟩
  · obtain ⟨way, hway, hperm⟩ := hbefore.complete
    refine ⟨way, hway, ?_⟩
    have hasked : Ledger.asked [.asked user text, .settled user text fate] = [(user, text)] := rfl
    have hsettled : (Ledger.settled [.asked user text, .settled user text fate]).map (·.1) =
      [(user, text)] := rfl
    have hmore := hperm.append_right [(user, text)]
    rw [List.append_assoc] at hmore
    rw [Ledger.asked_append, Ledger.settled_append, List.map_append, hasked, hsettled, List.append_assoc]
    exact hmore.trans (List.perm_append_comm.append_left _)
  · rw [← hfate]
    exact .foldl_tryPost reason _ htransports

/-- The loop reports that it could not send a message, which it had on its way or has just taken. -/
lemma conclude_passage {acting : Node} {user text : String} (e : RelayError)
    (hstation : acting.station = node.station) (htransports : acting.transports = node.transports)
    (hnone : acting.publication = none)
    (hphase : ∀ {before : Ledger}, node.Balanced before → acting.phase = .running)
    (hleft : ∀ {way : List (String × String)}, node.OnItsWay way →
      way ++ node.messages = (user, text) :: acting.messages) :
    Passage [.settled user text node.station.mailbox.reportFate] node (acting.conclude (.error e)) where
  balanced hbefore := by
    refine hbefore.goOn rfl ?_ fun way hway => ⟨[], ?_, ?_⟩
    · rw [conclude_phase]
      exact hphase hbefore
    · exact onItsWay_nil (by rw [Exchange.conclude_publication, hnone])
    · rw [hleft hway, conclude_messages]
      rfl
  transports := by rw [conclude_transports, htransports]
  hears _ _ := by
    have hconclude := conclude_hears acting e
    rwa [hstation] at hconclude

/-- When the loop ends, all that waits is forgotten. -/
lemma exit_passage (h : node.phase = .unstarted ∨ node.canRun = true) (link : Link) (b : Broker) :
    Passage (node.messages.map fun m => .settled m.1 m.2 .forgotten) node (node.exit link b).1 := by
  have hsettled := Ledger.settled_forgotten node.messages
  have hforgotten : ∀ fate ∈ Ledger.fates (node.messages.map fun m => .settled m.1 m.2 .forgotten),
      fate = .forgotten := by
    intro fate hmem
    rw [Ledger.fates, hsettled, List.map_map] at hmem
    obtain ⟨m, -, rfl⟩ := List.mem_map.1 hmem
    rfl
  refine ⟨fun hbefore => ?_, rfl, fun _ _ => Station.close_hears ?_ ?_ link node.station b⟩
  · have hnone : node.publication = none := h.elim hbefore.unstarted fun hrun => (canRun_iff.1 hrun).2.2
    refine ⟨⟨[], onItsWay_nil hnone, ?_⟩, fun _ => hnone, fun _ => ⟨hnone, rfl⟩⟩
    obtain ⟨way, hway, hperm⟩ := hbefore.complete
    rw [hway.eq_nil hnone] at hperm
    have hall : (node.messages.map fun m => (m, Fate.forgotten)).map (·.1) = node.messages := by
      simp [Function.comp_def]
    have hleft : (node.exit link b).1.messages = [] := rfl
    rw [Ledger.asked_append, Ledger.settled_append, List.map_append, Ledger.asked_forgotten, hsettled, hall,
      hleft]
    simpa using hperm
  · exact List.count_eq_zero.2 fun hmem => by cases hforgotten _ hmem
  · exact fun hmem => by cases hforgotten _ hmem

/-- Whatever a direct relay does, no failure to send through the queue comes of it. -/
lemma DirectTurn.hears {call : Option (String × String)} (h : DirectTurn node call node') :
    node.station.mailbox.Hears [] node'.station.mailbox := by
  cases h with
  | turn hd hturn =>
    cases hturn with
    | note => exact .refl _
    | report => exact .leaves _ _ rfl
    | called => exact .leaves _ _ (Direct.Service.eventOf_isFailure _ _)
    | release => exact .leave List.filter_sublist (List.Sublist.refl _) List.count_nil List.not_mem_nil

lemma DirectTurn.passage {call : Option (String × String)} (h : DirectTurn node call node') :
    Passage [] node node' := by
  have hhears := h.hears
  cases h with
  | turn hd hturn =>
    refine ⟨fun hbefore => ?_, rfl, fun _ _ => hhears⟩
    rw [List.append_nil]
    exact hbefore.congr rfl rfl (Or.inl rfl)

/-- **Whatever a node does is written down in its ledger.** -/
lemma Doing.passage (h : Doing link b node es node' b') : Passage es node node' := by
  cases h with
  | accept hphase c => exact enqueue_passage hphase c
  | refuse user text reason => exact reportRefused_passage node user text reason
  | @fail user text rest e hrun hcommands hpayload =>
    obtain ⟨hrunning, -, hnone⟩ := canRun_iff.1 hrun
    refine conclude_passage e (by rfl) (by rfl) hnone (fun _ => hrunning) fun hway => ?_
    rw [hway.eq_nil hnone, messages_of_send hcommands]
    rfl
  | @begin user text rest payload hrun hcommands hpayload due =>
    obtain ⟨hrunning, -, hnone⟩ := canRun_iff.1 hrun
    refine ⟨fun hbefore => hbefore.goOn rfl hrunning fun way hway => ⟨[(user, text)], ?_, ?_⟩, rfl,
      fun _ _ => .refl _⟩
    · exact ⟨user, text, rfl, Relay.encodes_of_payloadOf hpayload⟩
    · rw [hway.eq_nil hnone, messages_of_send hcommands]
      rfl
  | land hp hencodes harrive =>
    refine ⟨fun hbefore => hbefore.goOn rfl (hbefore.running hp) fun way hway => ⟨[], rfl, ?_⟩, rfl,
      fun _ _ => .silent rfl (by simp [Ledger.fates, Ledger.settled])⟩
    rw [hway.eq_singleton hp hencodes]
    rfl
  | giveUp hp hencodes harrive =>
    refine conclude_passage _ (by rfl) (by rfl) (by rfl) (fun hbefore => hbefore.running hp) fun hway => ?_
    rw [hway.eq_singleton hp hencodes]
    rfl
  | direct h => exact h.passage
  | exit h => exact exit_passage h link b
  | note hstation hdirect hpublication hmessages htransports hphase =>
    refine ⟨fun hbefore => ?_, htransports, fun _ _ => ?_⟩
    · rw [List.append_nil]
      exact hbefore.congr hpublication hmessages hphase
    · rw [hstation]
      exact .refl _

end Node

end MessageRelay
