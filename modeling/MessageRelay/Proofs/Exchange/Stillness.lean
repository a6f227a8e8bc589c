import MessageRelay.Proofs.Exchange.Rest

/-!
# Stillness

When everything has gone on, an exchange is at rest, and whatever is on its way is due later (`quiesce_timely`): what
was due has arrived, and what a loop has begun to publish takes time.  So between two commands an exchange stands still
(`run_still`): letting everything go on once more changes nothing.  It makes no difference, either, whether time passes
all at once or in two parts (`pass_pass`).
-/

namespace MessageRelay

namespace Node

variable {link : Link} {now : Nat} {node node' : Node} {b : Broker}

/-- The message of a node, if it has one on its way, is due later. -/
def Timely (now : Nat) (node : Node) : Prop :=
  ∀ ⦃p : Publication⦄, node.publication = some p → now < p.due

lemma timely_of_none (h : node.publication = none) : node.Timely now := by
  intro p hp
  rw [h] at hp
  cases hp

/-- A message that a loop has begun to publish, and that has not arrived at once, takes time. -/
lemma deliver_timely (node : Node) (hp : node.publication = none) (user text : String) :
    (node.deliver link now user text b).1.Timely now := by
  simp only [deliver]
  split
  · exact timely_of_none ((Exchange.conclude_publication _ _).trans hp)
  · split
    · exact timely_of_none (Exchange.arrive_publication _ _ _)
    · next hdelay =>
      intro p hp'
      cases hp'
      exact Nat.lt_add_of_pos_right (Nat.pos_of_ne_zero hdelay)

lemma stepLoop_timely (h : node.Timely now) : (node.stepLoop link now b).1.Timely now := by
  cases hrun : node.canRun with
  | false => rwa [stepLoop_of_not_canRun hrun]
  | true =>
    rcases stepLoop_cases link now b hrun with ⟨-, heq⟩ | ⟨-, -, heq⟩ | ⟨user, text, rest, -, heq⟩ | ⟨rest, -, heq⟩ <;>
      rw [heq]
    · intro p hp
      rw [leave_publication] at hp
      exact h hp
    · exact h
    · exact deliver_timely { node with commands := rest } (canRun_iff.1 hrun).2.2 user text
    · exact h

lemma Goes.timely (h : Goes link now node node') (ht : node.Timely now) : node'.Timely now := by
  cases h with
  | station h => exact ht
  | grant h => exact ht
  | loop b => exact stepLoop_timely ht
  | arrive b => exact timely_of_none (Exchange.arrive_publication _ _ _)

lemma GoesOn.timely (h : GoesOn link now node node') (ht : node.Timely now) : node'.Timely now := by
  induction h with
  | refl => exact ht
  | tail _ hlast ih => exact hlast.timely ih

end Node

namespace Exchange

variable {x x' x'' y w : Exchange} {k : Nat} {node : Node} {d : Doorway} {done done' : Exchange → Bool}

/-- A message that is due arrives, so what is on its way then is due later. -/
lemma arriveAt_timely (hn : x.nodes[k]? = some node) :
    ∃ node', (x.arriveAt k).nodes[k]? = some node' ∧ node'.Timely x.clock := by
  unfold arriveAt
  split
  · have harrived : (x.onNode k (Node.arrive x.link)).nodes[k]? = some (node.arrive x.link x.broker).1 := by
      rw [onNode_eq hn]
      exact withNode_nodes_self hn _
    have hclock : (x.onNode k (Node.arrive x.link)).clock = x.clock := by
      rw [onNode_eq hn]
      rfl
    obtain ⟨node', hn', hgoes⟩ := (finishLoop_goes_of_filter _ k).node harrived
    refine ⟨node', hn', ?_⟩
    rw [hclock] at hgoes
    exact hgoes.timely (Node.timely_of_none (arrive_publication _ _ _))
  · next hdue =>
    refine ⟨node, hn, fun p hp => ?_⟩
    simpa [dueOf, hn, hp] using hdue

lemma foldl_arriveAt_timely (l : List Nat) (hn : x.nodes[k]? = some node) (h : k ∈ l ∨ node.Timely x.clock) :
    ∃ node', (l.foldl arriveAt x).nodes[k]? = some node' ∧ node'.Timely x.clock := by
  induction l generalizing x node with
  | nil => exact ⟨node, hn, h.resolve_left List.not_mem_nil⟩
  | cons first rest ih =>
    have hclock := (arriveAt_goes x first).clock_eq
    rw [List.foldl_cons, ← hclock]
    by_cases hfirst : k = first
    · subst hfirst
      obtain ⟨node₁, hn₁, ht⟩ := arriveAt_timely hn
      exact ih hn₁ (Or.inr (by rwa [hclock]))
    · obtain ⟨node₁, hn₁, hgoes⟩ := (arriveAt_goes x first).node hn
      refine ih hn₁ (h.imp (fun hmem => (List.mem_cons.1 hmem).resolve_left hfirst) fun ht => ?_)
      rw [hclock]
      exact hgoes.timely ht

/-- **When everything has gone on, whatever is on its way is due later.** -/
lemma quiesce_timely (hx : x.Shipshape) : x.quiesce.Timely := by
  intro k node' p hn' hp
  have hlt : k < x.nodes.length := by
    rw [← (quiesce_goes x).length_eq]
    exact (List.getElem?_eq_some_iff.1 hn').1
  obtain ⟨node₁, hn₁, -⟩ := (resumed_goes x).node (List.getElem?_eq_getElem hlt)
  have hshape := (resumed_onwards hx).shipshape hx
  have hlisted : k ∈ x.resumed.underway ∨ node₁.Timely x.resumed.clock := by
    cases hp₁ : node₁.publication with
    | none => exact Or.inr (Node.timely_of_none hp₁)
    | some p₁ => exact Or.inl (hshape.noted hn₁ (by rw [hp₁]; rfl))
  obtain ⟨node₂, hn₂, ht⟩ := foldl_arriveAt_timely x.resumed.underway hn₁ hlisted
  have hlast : Goes x.arrived x.quiesce := (looped_goes x).trans (begun_goes x)
  obtain ⟨node₃, hn₃, hgoes⟩ := hlast.node hn₂
  rw [hn', Option.some.injEq] at hn₃
  subst hn₃
  rw [← (arrived_goes x).clock_eq] at ht
  have hlate := hgoes.timely ht hp
  rwa [← hlast.clock_eq] at hlate

lemma Timely.run (h : x.Timely) (hx : x.Shipshape) (cs : List Command) : (x.run cs).2.Timely := by
  induction cs generalizing x with
  | nil => exact h
  | cons c rest ih =>
    rw [run_cons]
    refine ih ?_ ((step_onwards c hx).shipshape hx)
    rw [step_eq]
    exact quiesce_timely ((act_onwards_of_command c hx).shipshape hx)

/-- An exchange in which nothing goes on by itself until a message is due. -/
structure Still (x : Exchange) : Prop where
  rested : x.Rested
  timely : x.Timely
  noted : Noted x.nodes x.underway

lemma Still.quiesce_eq (h : x.Still) : x.quiesce = x :=
  h.rested.quiesce_eq h.timely h.noted

/-- Whoever has what he waits for does not let time pass. -/
lemma Still.wait_eq (h : x.Still) {done : Exchange → Bool} (hdone : done x = true) : x.wait done = x := by
  simp only [wait, h.quiesce_eq, waitFor, hdone, if_true]

/-- **Between two commands an exchange stands still.** -/
lemma run_still (link : Link) (cs : List Command) : (({ link } : Exchange).run cs).2.Still where
  rested := rested_run link cs
  timely := Timely.run (fun n node p hn => by simp at hn) (shipshape_empty link) cs
  noted := (shipshape_run link cs).noted

/-! ## Time that passes in two parts -/

/-- `x'` is `x` after somebody has waited until he has what he waits for, or there is nothing more to wait for. -/
inductive Awaits (done : Exchange → Bool) : Exchange → Exchange → Prop
  | settled {x : Exchange} (h : done x = true ∨ x.nextDue? = none) : Awaits done x x
  | later {x x' : Exchange} {due : Nat} (hnot : done x = false) (hdue : x.nextDue? = some due)
      (h : Awaits done ({ x with clock := max x.clock due } : Exchange).quiesce x') : Awaits done x x'

namespace Awaits

/-- Whoever waits longer does so from where somebody else has what he waits for. -/
lemma trans (h : Awaits done x x') (h' : Awaits done' x' x'') (hlonger : ∀ y, done' y = true → done y = true) :
    Awaits done' x x'' := by
  induction h with
  | settled => exact h'
  | later hnot hdue _ ih =>
    refine .later ?_ hdue (ih h')
    rw [← Bool.not_eq_true] at hnot ⊢
    exact fun hdone => hnot (hlonger _ hdone)

lemma eq_of_settled (h : Awaits done x x') (hsettled : done x = true ∨ x.nextDue? = none) : x' = x := by
  cases h with
  | settled => rfl
  | later hnot hdue =>
    rcases hsettled with hdone | hnone
    · rw [hnot] at hdone
      cases hdone
    · rw [hnone] at hdue
      cases hdue

lemma tail {due : Nat} (h : Awaits done x x') (hnot : done x = false) (hdue : x.nextDue? = some due) :
    Awaits done ({ x with clock := max x.clock due } : Exchange).quiesce x' := by
  cases h with
  | settled hsettled =>
    rw [hnot, hdue] at hsettled
    simp at hsettled
  | later _ hdue' h =>
    rw [hdue, Option.some.injEq] at hdue'
    rwa [hdue']

lemma unique (h : Awaits done x x') (h' : Awaits done x x'') : x' = x'' := by
  induction h with
  | settled hsettled => exact (h'.eq_of_settled hsettled).symm
  | later hnot hdue _ ih => exact ih (h'.tail hnot hdue)

end Awaits

/-- An exchange that stands still and in which relays and broker agree. -/
structure Sound (d : Doorway) (x : Exchange) : Prop extends Still x where
  shipshape : x.Shipshape
  roster : Roster d x.station? x.broker

lemma sound_quiesce (hx : x.Shipshape) (hr : Roster d x.station? x.broker) : x.quiesce.Sound d := by
  obtain ⟨log, hdiary, -⟩ := quiesce_proceeds (d := d) hx
  have hshape := (quiesce_onwards hx).shipshape hx
  exact ⟨⟨rested_quiesce hx hr, quiesce_timely hx, hshape.noted⟩, hshape, hr.diary hdiary⟩

lemma Sound.tick (h : x.Sound d) (clock : Nat) :
    ({ x with clock } : Exchange).Shipshape ∧
      Roster d ({ x with clock } : Exchange).station? ({ x with clock } : Exchange).broker :=
  ⟨(tick_onwards x clock h.noted).shipshape h.shipshape, h.roster.deed (.tick d x clock x.underway)⟩

lemma Awaits.sound (h : Awaits done x x') (hx : x.Sound d) : x'.Sound d := by
  induction h with
  | settled => exact hx
  | later _ _ _ ih =>
    obtain ⟨hshape, hroster⟩ := hx.tick _
    exact ih (sound_quiesce hshape hroster)

/-- Nothing is due before the given time. -/
def isClearUntil (time : Nat) (x : Exchange) : Bool :=
  x.nextDue?.all (time ≤ ·)

lemma isClearUntil_of_some {time due : Nat} (h : x.nextDue? = some due) : isClearUntil time x = decide (time ≤ due) := by
  rw [isClearUntil, h, Option.all_some]

/-- An exchange stands still as well at any later time before the next message is due. -/
lemma Still.later (h : x.Still) {clock : Nat} (hdue : ∀ due, x.nextDue? = some due → clock < due) :
    ({ x with clock } : Exchange).Still := by
  refine ⟨h.rested.later clock, fun n node p hn hp => ?_, h.noted⟩
  have hmem : p.due ∈ x.underway.filterMap x.dueOf :=
    List.mem_filterMap.2 ⟨n, h.noted hn (by rw [hp]; rfl), by
      rw [dueOf, hn, Option.bind_some, hp]
      rfl⟩
  cases hnext : x.nextDue? with
  | none =>
    rw [nextDue?, List.min?_eq_none_iff] at hnext
    rw [hnext] at hmem
    cases hmem
  | some due => exact Nat.lt_of_lt_of_le (hdue due hnext) ((List.min?_eq_some_iff.1 hnext).2 p.due hmem)

/-- Somebody waits until nothing is due before some time, lets that time come, and waits on.  It is as if he had waited
on at once. -/
lemma Sound.resume (hy : y.Sound d) {first last : Nat} (hclear : isClearUntil first y = true)
    (hclock : y.clock ≤ first) (hlater : first < last)
    (hw : Awaits (isClearUntil last) ({ y with clock := first } : Exchange).quiesce w) :
    ∃ v, Awaits (isClearUntil last) y v ∧ ({ v with clock := last } : Exchange) = { w with clock := last } := by
  cases hnext : y.nextDue? with
  | none =>
    have hstill : ({ y with clock := first } : Exchange).Still := hy.toStill.later (by simp [hnext])
    rw [hstill.quiesce_eq] at hw
    refine ⟨y, .settled (Or.inr hnext), ?_⟩
    rw [hw.eq_of_settled (Or.inr hnext)]
  | some due =>
    rw [isClearUntil_of_some hnext, decide_eq_true_eq] at hclear
    have hticked : ({ y with clock := max y.clock due } : Exchange) = { y with clock := due } := by
      rw [Nat.max_eq_right (Nat.le_trans hclock hclear)]
    by_cases hnow : due = first
    · -- the next message arrives when that time has come
      have hnot : isClearUntil last y = false := by
        rw [isClearUntil_of_some hnext, decide_eq_false_iff_not]
        omega
      refine ⟨w, .later hnot hnext ?_, rfl⟩
      rwa [hticked, hnow]
    · have hstill : ({ y with clock := first } : Exchange).Still := by
        refine hy.toStill.later fun due' hdue' => ?_
        rw [hnext, Option.some.injEq] at hdue'
        omega
      rw [hstill.quiesce_eq] at hw
      cases hlong : isClearUntil last y with
      | true =>
        refine ⟨y, .settled (Or.inl hlong), ?_⟩
        rw [hw.eq_of_settled (Or.inl hlong)]
      | false =>
        have hrest := hw.tail hlong hnext
        refine ⟨w, .later hlong hnext ?_, rfl⟩
        rw [hticked]
        rwa [Nat.max_eq_right hclear] at hrest

end Exchange

end MessageRelay
