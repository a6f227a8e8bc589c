import MessageRelay.Proofs.Exchange.Commands

/-!
# Runs of relays, in the books

Between two commands everything that can go on has gone on (`AtRest`).  Each command, with all that goes on
after it, can be entered in the book (`AtRest.step`), and so can a run (`AtRest.run`): what a run has brought
to the queues and taken from the mailboxes is in the book, and whatever was lost was lost in one of its steps
by a consumer that was let go.
-/

namespace MessageRelay.Exchange

variable {x : Exchange} {book : Book} {c : Command} {routed : String → Multiset Bytes}
  {taken : Nat → List Event}

/-- What holds between commands. -/
structure AtRest (routed : String → Multiset Bytes) (taken : Nat → List Event) (book : Book)
    (x : Exchange) : Prop where
  accounts : x.Accounts routed taken book
  calm : x.Calm
  staffed : x.Staffed fun _ => False

lemma step_eq (x : Exchange) (c : Command) : (x.step c).2.2 = (x.act c).2.quiesce := by
  simp only [step]

/-- **A step can be entered in the book**, and if it breaks a stream then the consumer of that stream
loses nothing. -/
lemma AtRest.step (h : AtRest routed taken book x) (hc : c.forRelays = true) :
    ∃ book', AtRest (fun name => routed name + (routedBy name x c : List Bytes))
        (fun n => taken n ++ takenBy n x c) book' (x.step c).2.2 ∧
      Onward (x.Hires c) x (x.step c).2.2 book book' ∧
      ∀ hd ∈ book'.lost, hd ∈ book.lost ∨
        (c ≠ .breakStream hd.stream ∧ LetGo (x.Hires c) x (x.step c).2.2 hd) := by
  obtain ⟨⟨book₁, h₁, honward₁⟩, hstaffed⟩ := h.accounts.act h.calm h.staffed hc
  have hturns := quiesce_turns h₁.nodes h₁.crewed
  have hrest : ∀ {book' : Book}, (x.act c).2.quiesce.Accounts
      (fun name => routed name + (routedBy name x c : List Bytes))
        (fun n => taken n ++ takenBy n x c) book' →
      AtRest (fun name => routed name + (routedBy name x c : List Bytes))
        (fun n => taken n ++ takenBy n x c) book' (x.act c).2.quiesce :=
    fun h' => ⟨h', quiesce_calm h₁.nodes h₁.crewed, hstaffed.loyal hturns.steady.loyal⟩
  rw [step_eq]
  by_cases hbreak : ∃ i, c = .breakStream i
  · -- breaking a stream changes nothing in the book, and what follows spares its consumer
    obtain ⟨i, rfl⟩ := hbreak
    have hact : (x.act (.breakStream i)).2 = x.breakStream i := rfl
    rw [hact] at hturns hrest ⊢
    obtain ⟨h₂, honward₂⟩ := h.accounts.breakStream i
    obtain ⟨owner, ho₂⟩ := h₂.orderly
    obtain ⟨ho₃, book₃, hbooks₃, honward₃, hlost₃⟩ := h₂.books.turns ho₂ hturns
    have honward : Onward (x.Hires (.breakStream i)) x _ book book₃ := honward₂.trans honward₃
    have htaken : (fun n => taken n ++ takenBy n x (.breakStream i)) = taken := by simp [takenBy]
    have hrouted : (fun name => routed name +
        (routedBy name x (.breakStream i) : List Bytes)) = routed := by simp [routedBy]
    rw [htaken, hrouted] at hrest ⊢
    refine ⟨book₃, hrest ⟨⟨owner, ho₃⟩, hbooks₃⟩, honward, ?_⟩
    intro hd hmem
    rcases hlost₃ hd hmem with hmem | hwhole
    · exact Or.inl hmem
    · refine (honward.lost hd hmem).imp_right fun hgone => ⟨?_, hgone⟩
      rintro heq
      cases heq
      exact not_whole_breakStream h.accounts.nodes _ _ hwhole
  · obtain ⟨book₂, h₂, honward₂⟩ := h₁.turns hturns
    have honward := honward₁.trans honward₂
    refine ⟨book₂, hrest h₂, honward, ?_⟩
    intro hd hmem
    exact (honward.lost hd hmem).imp_right fun hgone => ⟨fun heq => hbreak ⟨_, heq⟩, hgone⟩

/-! ## Runs -/

lemma run_nil (x : Exchange) : (x.run []).2 = x := rfl

lemma run_cons (x : Exchange) (c : Command) (rest : List Command) :
    (x.run (c :: rest)).2 = ((x.step c).2.2.run rest).2 := by
  simp only [run]

lemma run_append (x : Exchange) (cs more : List Command) :
    (x.run (cs ++ more)).2 = ((x.run cs).2.run more).2 := by
  induction cs generalizing x with
  | nil => rfl
  | cons c rest ih => rw [List.cons_append, run_cons, run_cons, ih]

/-- What one step keeps, a run keeps. -/
lemma AtRest.run (h : AtRest routed taken book x) {cs : List Command}
    (hcs : ∀ c ∈ cs, c.forRelays = true) :
    ∃ book', AtRest (fun name => routed name + (history (routedBy name) x cs : List Bytes))
        (fun n => taken n ++ history (takenBy n) x cs) book' (x.run cs).2 ∧
      Onward (fun _ _ => True) x (x.run cs).2 book book' ∧
      ∀ hd ∈ book'.lost, hd ∈ book.lost ∨ ∃ before c after, cs = before ++ c :: after ∧
        c ≠ .breakStream hd.stream ∧
        LetGo ((x.run before).2.Hires c) (x.run before).2 (x.run (before ++ [c])).2 hd := by
  induction cs generalizing x book routed taken with
  | nil =>
    refine ⟨book, ?_, .refl x book, fun _ => Or.inl⟩
    simp only [history, Multiset.coe_nil, add_zero, List.append_nil, run_nil]
    exact h
  | cons c rest ih =>
    rw [List.forall_mem_cons] at hcs
    obtain ⟨book₁, h₁, honward₁, hlost₁⟩ := h.step hcs.1
    obtain ⟨book₂, h₂, honward₂, hlost₂⟩ := ih h₁ hcs.2
    rw [run_cons]
    refine ⟨book₂, ?_, (honward₁.mono fun _ _ _ => trivial).trans honward₂, ?_⟩
    · simpa only [history, ← Multiset.coe_add, add_assoc, List.append_assoc] using h₂
    · intro hd hmem
      rcases hlost₂ hd hmem with hmem | ⟨before, c', after, rfl, hne, hgone⟩
      · -- lost in the first step
        refine (hlost₁ hd hmem).imp_right fun hgone => ⟨[], c, rest, rfl, hgone.1, ?_⟩
        rw [List.nil_append, run_cons, run_nil, run_nil]
        exact hgone.2
      · -- lost later
        refine Or.inr ⟨c :: before, c', after, rfl, hne, ?_⟩
        rwa [List.cons_append, run_cons, run_cons]

end MessageRelay.Exchange
