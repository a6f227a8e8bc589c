import Mathlib.Data.List.Range
import MessageRelay.Proofs.Envelope.RoundTrip
import MessageRelay.Proofs.Exchange.Turn
import MessageRelay.Direct.Service

/-!
# What becomes of calls

A call posts its event, or waits for a place, or is discarded; it is acknowledged unless it waits.  The calls that
were posted, those that wait and those that were discarded are all calls there were (`calls_are_accounted_for`), and
events come into the mailbox in the order of the calls.

What a command does is read off the service before and after it: which events it takes, which come into the mailbox,
and which calls it has acknowledged.  Of these as many were posted as there are events, and the others were discarded.
-/

namespace MessageRelay.Direct.Service

/-! ## Runs -/

/-- What can be done with a service. -/
inductive Command where
  /-- A peer calls. -/
  | call (user text : String)
  /-- Events are taken, all or up to a number of them. -/
  | take (limit : Option Nat)
  /-- The service is told to stop, or not to stop after all. -/
  | signal (stop : Bool)
  /-- Nobody can tell the service to stop any more. -/
  | abandon
  /-- The mailbox is thrown away. -/
  | discardMailbox
  deriving DecidableEq, Repr

/-- The service after a command. -/
def step (s : Service) : Command → Service
  | .call user text => (s.call user text).2
  | .take limit => { s with mailbox := (s.mailbox.take limit).2.useGrants }
  | .signal stop => s.signal stop
  | .abandon => s.abandon
  | .discardMailbox => s.discardMailbox

/-- The service after several commands. -/
def run (s : Service) (cs : List Command) : Service :=
  cs.foldl step s

/-- What is observed of each command of a run, one after the other. -/
def observe {α : Type} (f : Service → Command → List α) (s : Service) : List Command → List α
  | [] => []
  | c :: cs => f s c ++ observe f (s.step c) cs

variable {s : Service} {c : Command} {cs : List Command} {capacity : Nat}

/-- Taking one event is a command, too. -/
lemma receive_eq (s : Service) : s.receive.2 = s.step (.take (some 1)) :=
  rfl

lemma run_concat (s : Service) (cs : List Command) (c : Command) : s.run (cs ++ [c]) = (s.run cs).step c := by
  rw [run, List.foldl_append]
  rfl

lemma observe_concat {α : Type} (f : Service → Command → List α) (s : Service) (cs : List Command) (c : Command) :
    observe f s (cs ++ [c]) = observe f s cs ++ f (s.run cs) c := by
  induction cs generalizing s with
  | nil => simp [observe, run]
  | cons c' cs ih =>
    rw [List.cons_append, observe, ih, observe, List.append_assoc]
    rfl

/-! ## What a command does -/

/-- The events that a command takes. -/
def takenBy (s : Service) : Command → List Event
  | .take limit => (s.mailbox.take limit).1
  | .call .. | .signal _ | .abandon | .discardMailbox => []

/-- The events that come into the mailbox by a command. -/
def postedBy (s : Service) (c : Command) : List Event :=
  (s.step c).mailbox.posted.drop (s.mailbox.posted.length - (s.takenBy c).length)

/-- The numbers of the calls that a command makes. -/
def calledBy (s : Service) (c : Command) : List Nat :=
  List.range' s.calls ((s.step c).calls - s.calls)

/-- The calls that a command has acknowledged: they had been waiting, or are new. -/
def acknowledgedBy (s : Service) (c : Command) : List Nat :=
  (s.waiting ++ s.calledBy c).filter (s.step c).isAcknowledged

/-- The calls whose events come into the mailbox by a command. -/
def callsPostedBy (s : Service) (c : Command) : List Nat :=
  (s.acknowledgedBy c).take (s.postedBy c).length

/-- The calls that a command has acknowledged although their events do not come into the mailbox. -/
def callsDiscardedBy (s : Service) (c : Command) : List Nat :=
  (s.acknowledgedBy c).drop (s.postedBy c).length

/-- The events of the calls that wait. -/
def held (s : Service) : List Event :=
  s.mailbox.waiting.map (·.2)

/-- The message of a call. -/
def Command.message? : Command → Option (String × String)
  | call user text => some (user, text)
  | take _ | signal _ | abandon | discardMailbox => none

/-- The event of the call with the given number. -/
def eventAt (cs : List Command) (n : Nat) : Option Event :=
  (cs.filterMap Command.message?)[n]?.map fun m => eventOf m.1 m.2

/-- The calls that wait are those of the senders in line. -/
lemma waiting_of_senders {ns : List Nat} (h : s.mailbox.waiting.map (·.1) = ns.map .call) : s.waiting = ns := by
  unfold waiting
  generalize s.mailbox.waiting = entries at h
  induction entries generalizing ns with
  | nil =>
    rw [List.map_nil, eq_comm, List.map_eq_nil_iff] at h
    rw [h, List.filterMap_nil]
  | cons entry rest ih =>
    obtain ⟨sender, event⟩ := entry
    cases ns with
    | nil => cases h
    | cons n ns =>
      rw [List.map_cons, List.map_cons, List.cons.injEq] at h
      obtain ⟨rfl, hrest⟩ := h
      simp [ih hrest]

/-! ## What always holds -/

/-- **A service is in order.**  Nobody has a place that he does not use, and somebody waits only if the mailbox is
full, and the service has neither lost it nor is told to stop. -/
structure Orderly (capacity : Nat) (s : Service) : Prop where
  granted : s.mailbox.granted = []
  capacity_eq : s.mailbox.capacity = capacity
  bounded : s.mailbox.posted.length ≤ capacity
  senders : s.mailbox.waiting.map (·.1) = s.waiting.map .call
  sorted : s.waiting.Pairwise (· < ·)
  lt_calls : ∀ n ∈ s.waiting, n < s.calls
  full : s.waiting ≠ [] → s.mailbox.kept = true ∧ s.isClosing = false ∧ s.mailbox.posted.length = capacity
  lost : s.mailbox.kept = false → s.mailbox.posted = []

lemma orderly_init (capacity : Nat) : Orderly capacity { mailbox := { capacity } } := by
  constructor <;> simp [waiting]

lemma Orderly.room_eq (h : Orderly capacity s) : s.mailbox.room = capacity - s.mailbox.posted.length := by
  rw [Mailbox.room, h.granted, h.capacity_eq]
  rfl

lemma Orderly.length_held (h : Orderly capacity s) : s.held.length = s.waiting.length := by
  have hlength := congrArg List.length h.senders
  simpa [held] using hlength

/-- Nobody waits where there is room, or the service is told to stop, or the mailbox is gone. -/
lemma Orderly.waiting_eq_nil (h : Orderly capacity s)
    (hnone : s.mailbox.kept = false ∨ s.isClosing = true ∨ s.mailbox.posted.length < capacity) :
    s.waiting = [] ∧ s.mailbox.waiting = [] := by
  have hnil : s.waiting = [] := by
    by_contra hne
    obtain ⟨hkept, hopen, hfull⟩ := h.full hne
    rcases hnone with hlost | hclosing | hroom
    · rw [hkept] at hlost
      cases hlost
    · rw [hopen] at hclosing
      cases hclosing
    · omega
  refine ⟨hnil, ?_⟩
  have hsenders := h.senders
  rw [hnil] at hsenders
  exact List.map_eq_nil_iff.1 hsenders

/-! ## What a command does, case by case -/

section

variable (h : Orderly capacity s) (user text : String)

include h

/-- Where there is room, a call posts its event. -/
lemma Orderly.call_of_room (hkept : s.mailbox.kept = true) (hroom : s.mailbox.posted.length < capacity) :
    s.step (.call user text) =
      { s with calls := s.calls + 1, mailbox := s.mailbox.put (eventOf user text) } := by
  have hpos : 0 < s.mailbox.room := by
    rw [h.room_eq]
    omega
  simp [step, call, Mailbox.offer, hkept, hpos]

/-- Where there is no room, a call waits unless the service is told to stop. -/
lemma Orderly.call_of_full (hkept : s.mailbox.kept = true) (hfull : s.mailbox.posted.length = capacity)
    (hopen : s.isClosing = false) :
    s.step (.call user text) = { s with
      calls := s.calls + 1
      mailbox := { s.mailbox with waiting := s.mailbox.waiting ++ [(.call s.calls, eventOf user text)] } } := by
  have hnone : s.mailbox.room = 0 := by
    rw [h.room_eq, hfull, Nat.sub_self]
  simp [step, call, Mailbox.offer, hkept, hnone, hopen]

/-- A call is discarded if the mailbox is gone, or if it is full and the service is told to stop. -/
lemma Orderly.call_of_hopeless
    (hnone : s.mailbox.kept = false ∨ s.mailbox.posted.length = capacity ∧ s.isClosing = true) :
    s.step (.call user text) = { s with calls := s.calls + 1 } := by
  cases hkept : s.mailbox.kept with
  | false => simp [step, call, Mailbox.offer, hkept]
  | true =>
    obtain ⟨hfull, hclosing⟩ := hnone.resolve_left (by simp [hkept])
    have hroom : s.mailbox.room = 0 := by
      rw [h.room_eq, hfull, Nat.sub_self]
    simp [step, call, Mailbox.offer, hkept, hroom, hclosing]

end

/-- What a call meets. -/
lemma Orderly.call_cases (h : Orderly capacity s) :
    (s.mailbox.kept = true ∧ s.mailbox.posted.length < capacity) ∨
      (s.mailbox.kept = true ∧ s.mailbox.posted.length = capacity ∧ s.isClosing = false) ∨
      (s.mailbox.kept = false ∨ s.mailbox.posted.length = capacity ∧ s.isClosing = true) := by
  have hbounded := h.bounded
  cases hkept : s.mailbox.kept with
  | false => exact Or.inr (Or.inr (Or.inl rfl))
  | true =>
    rcases Nat.lt_or_ge s.mailbox.posted.length capacity with hroom | hfull
    · exact Or.inl ⟨rfl, hroom⟩
    · cases hclosing : s.isClosing with
      | false => exact Or.inr (Or.inl ⟨rfl, by omega, rfl⟩)
      | true => exact Or.inr (Or.inr (Or.inr ⟨by omega, rfl⟩))

/-- The places that are free when events were taken. -/
def freed (s : Service) (limit : Option Nat) : Nat :=
  s.mailbox.capacity - (s.mailbox.posted.length - limit.getD s.mailbox.posted.length)

/-- When events are taken, those who have waited longest post theirs. -/
lemma Orderly.take_eq (h : Orderly capacity s) (limit : Option Nat) :
    s.step (.take limit) = { s with mailbox := { s.mailbox with
      posted := s.mailbox.posted.drop (limit.getD s.mailbox.posted.length) ++ s.held.take (s.freed limit)
      waiting := s.mailbox.waiting.drop (s.freed limit) } } := by
  simp [step, Mailbox.take, Mailbox.grant, Mailbox.useGrants, Mailbox.room, freed, held, h.granted]

/-- A call is counted; nothing else changes but the mailbox, which is there if it was. -/
lemma step_call_frame (s : Service) (user text : String) :
    (s.step (.call user text)).calls = s.calls + 1 ∧ (s.step (.call user text)).stopping = s.stopping ∧
      (s.step (.call user text)).abandoned = s.abandoned ∧
      (s.step (.call user text)).mailbox.kept = s.mailbox.kept := by
  simp only [step, call]
  split
  · next hoffer =>
    obtain ⟨-, -, rfl⟩ := Mailbox.offer_eq_posted hoffer
    exact ⟨rfl, rfl, rfl, rfl⟩
  · next hoffer =>
    obtain ⟨-, -, rfl⟩ := Mailbox.offer_eq_waits hoffer
    split <;> exact ⟨rfl, rfl, rfl, rfl⟩
  · exact ⟨rfl, rfl, rfl, rfl⟩

lemma calls_step (s : Service) (c : Command) : (s.step c).calls = s.calls + c.message?.toList.length := by
  cases c with
  | call user text => exact (step_call_frame s user text).1
  | take | abandon | discardMailbox => rfl
  | signal stop => cases stop <;> rfl

lemma calledBy_eq (s : Service) (c : Command) : s.calledBy c = List.range' s.calls c.message?.toList.length := by
  rw [calledBy, calls_step, Nat.add_sub_cancel_left]

/-- Who is left when a command has acknowledged some calls, tells which. -/
lemma acknowledgedBy_of_nodup {ns : List Nat} (h : s.waiting ++ s.calledBy c = ns ++ (s.step c).waiting)
    (hnodup : (s.waiting ++ s.calledBy c).Nodup) (hlt : ∀ n ∈ s.waiting ++ s.calledBy c, n < (s.step c).calls) :
    s.acknowledgedBy c = ns := by
  rw [h] at hnodup hlt
  rw [acknowledgedBy, h, List.filter_append]
  have hfirst : ns.filter (s.step c).isAcknowledged = ns := by
    rw [List.filter_eq_self]
    intro n hn
    have hnot : n ∉ (s.step c).waiting := fun hmem => (List.nodup_append.1 hnodup).2.2 n hn n hmem rfl
    simp [isAcknowledged, hlt n (List.mem_append_left _ hn), hnot]
  have hrest : (s.step c).waiting.filter (s.step c).isAcknowledged = [] := by
    rw [List.filter_eq_nil_iff]
    intro n hn
    simp [isAcknowledged, hn]
  rw [hfirst, hrest, List.append_nil]


/-! ## Order is kept -/

/-- Those who wait when somebody joins them. -/
lemma Orderly.waiting_concat (h : Orderly capacity s) (s' : Service) (event : Event)
    (hwaiting : s'.mailbox.waiting = s.mailbox.waiting ++ [(.call s.calls, event)]) :
    s'.waiting = s.waiting ++ [s.calls] := by
  refine waiting_of_senders ?_
  rw [hwaiting, List.map_append, List.map_append, h.senders]
  rfl

/-- Those who wait when the first of them do not any more. -/
lemma Orderly.waiting_drop (h : Orderly capacity s) (s' : Service) (k : Nat)
    (hwaiting : s'.mailbox.waiting = s.mailbox.waiting.drop k) : s'.waiting = s.waiting.drop k := by
  refine waiting_of_senders ?_
  rw [hwaiting, List.map_drop, List.map_drop, h.senders]

lemma Orderly.call (h : Orderly capacity s) (user text : String) : Orderly capacity (s.step (.call user text)) := by
  rcases h.call_cases with ⟨hkept, hroom⟩ | ⟨hkept, hfull, hopen⟩ | hnone
  · obtain ⟨hnil, -⟩ := h.waiting_eq_nil (Or.inr (Or.inr hroom))
    rw [h.call_of_room user text hkept hroom]
    refine { h with bounded := ?_, lt_calls := ?_, full := ?_, lost := ?_ }
    · show (s.mailbox.posted ++ [_]).length ≤ capacity
      rw [List.length_append]
      exact hroom
    · exact fun n hn => Nat.lt_succ_of_lt (h.lt_calls n hn)
    · exact fun hne => absurd hnil hne
    · intro hlost
      rw [show s.mailbox.kept = false from hlost] at hkept
      cases hkept
  · rw [h.call_of_full user text hkept hfull hopen]
    have hwaiting := h.waiting_concat { s with
      calls := s.calls + 1
      mailbox := { s.mailbox with waiting := s.mailbox.waiting ++ [(.call s.calls, eventOf user text)] } }
      (eventOf user text) rfl
    refine { h with senders := ?_, sorted := ?_, lt_calls := ?_, full := ?_ }
    · rw [hwaiting, List.map_append, List.map_append, h.senders]
      rfl
    · rw [hwaiting, List.pairwise_append]
      exact ⟨h.sorted, List.pairwise_singleton _ _, fun n hn m hm => List.mem_singleton.1 hm ▸ h.lt_calls n hn⟩
    · intro n hn
      rw [hwaiting, List.mem_append, List.mem_singleton] at hn
      rcases hn with hold | rfl
      · exact Nat.lt_succ_of_lt (h.lt_calls n hold)
      · exact Nat.lt_succ_self _
    · exact fun _ => ⟨hkept, hopen, hfull⟩
  · rw [h.call_of_hopeless user text hnone]
    exact { h with lt_calls := fun n hn => Nat.lt_succ_of_lt (h.lt_calls n hn) }

lemma Orderly.take (h : Orderly capacity s) (limit : Option Nat) : Orderly capacity (s.step (.take limit)) := by
  have hwaiting := h.waiting_drop (s.step (.take limit)) (s.freed limit) (by rw [h.take_eq limit])
  have hlength := h.length_held
  have hbounded := h.bounded
  have hfreed : s.freed limit = capacity - (s.mailbox.posted.length - limit.getD s.mailbox.posted.length) := by
    rw [freed, h.capacity_eq]
  rw [h.take_eq limit] at hwaiting ⊢
  refine { h with bounded := ?_, senders := ?_, sorted := ?_, lt_calls := ?_, full := ?_, lost := ?_ }
  · simp only [List.length_append, List.length_drop, List.length_take]
    omega
  · rw [hwaiting, List.map_drop, List.map_drop, h.senders]
  · rw [hwaiting]
    exact h.sorted.drop
  · intro n hn
    rw [hwaiting] at hn
    exact h.lt_calls n (List.mem_of_mem_drop hn)
  · intro hne
    rw [hwaiting] at hne
    -- some still wait, so those who do not have filled the mailbox again
    have hmany : s.freed limit < s.waiting.length := by
      rw [← Nat.not_le, ← List.drop_eq_nil_iff]
      exact hne
    obtain ⟨hkept, hopen, -⟩ := h.full (by rintro hnil; simp [hnil] at hmany)
    refine ⟨hkept, hopen, ?_⟩
    simp only [List.length_append, List.length_drop, List.length_take]
    omega
  · intro hlost
    obtain ⟨-, hnil⟩ := h.waiting_eq_nil (Or.inl hlost)
    have hempty : s.mailbox.posted = [] := h.lost hlost
    simp [hempty, held, hnil]

/-- A service in which nobody waits is in order if its mailbox is. -/
lemma orderly_of_waiting_nil (hnil : s.mailbox.waiting = []) (hgranted : s.mailbox.granted = [])
    (hcapacity : s.mailbox.capacity = capacity) (hbounded : s.mailbox.posted.length ≤ capacity)
    (hlost : s.mailbox.kept = false → s.mailbox.posted = []) : Orderly capacity s := by
  have hwaiting : s.waiting = [] := waiting_of_senders (by rw [hnil]; rfl)
  refine ⟨hgranted, hcapacity, hbounded, ?_, ?_, ?_, ?_, hlost⟩
  · rw [hnil, hwaiting]
    rfl
  · rw [hwaiting]
    exact List.Pairwise.nil
  · intro n hn
    rw [hwaiting] at hn
    cases hn
  · exact fun hne => absurd hwaiting hne

/-- **Every command leaves a service in order.** -/
lemma Orderly.step (h : Orderly capacity s) (c : Command) : Orderly capacity (s.step c) := by
  cases c with
  | call user text => exact h.call user text
  | take limit => exact h.take limit
  | signal stop =>
    cases stop with
    | true => exact orderly_of_waiting_nil rfl h.granted h.capacity_eq h.bounded h.lost
    | false =>
      refine { h with full := fun hne => ?_ }
      obtain ⟨hkept, hopen, hfull⟩ := h.full hne
      rw [isClosing, Bool.or_eq_false_iff] at hopen
      exact ⟨hkept, hopen.2, hfull⟩
  | abandon => exact orderly_of_waiting_nil rfl h.granted h.capacity_eq h.bounded h.lost
  | discardMailbox => exact orderly_of_waiting_nil rfl rfl h.capacity_eq (Nat.zero_le _) fun _ => rfl

/-! ## Events come and go in order -/

lemma takenBy_isFirst (s : Service) (c : Command) : s.takenBy c <+: s.mailbox.posted := by
  cases c with
  | take limit => exact List.take_prefix _ _
  | call | signal | abandon | discardMailbox => exact List.nil_prefix

/-- The events that come into the mailbox are those behind what was left of it. -/
lemma postedBy_of_append {es : List Event}
    (h : (s.step c).mailbox.posted = s.mailbox.posted.drop (s.takenBy c).length ++ es) : s.postedBy c = es := by
  rw [postedBy, h, ← List.length_drop]
  exact List.drop_left

lemma Orderly.posted_take (h : Orderly capacity s) (limit : Option Nat) :
    (s.step (.take limit)).mailbox.posted =
      s.mailbox.posted.drop (s.takenBy (.take limit)).length ++ s.held.take (s.freed limit) := by
  rw [h.take_eq limit]
  simp only [takenBy, Mailbox.take, List.length_take]
  rcases Nat.le_total (limit.getD s.mailbox.posted.length) s.mailbox.posted.length with hle | hge
  · rw [Nat.min_eq_left hle]
  · rw [Nat.min_eq_right hge, List.drop_of_length_le hge, List.drop_length]

/-- A command that is none to take events, and by which the mailbox does not change, posts nothing. -/
lemma postedBy_eq_nil (htaken : s.takenBy c = []) (hposted : (s.step c).mailbox.posted = s.mailbox.posted) :
    s.postedBy c = [] := by
  refine postedBy_of_append ?_
  rw [htaken, hposted]
  exact (List.append_nil _).symm

/-- As long as there is a mailbox, its first events are taken, and new ones come at its end. -/
lemma Orderly.posted_step (h : Orderly capacity s) (hc : c ≠ .discardMailbox) :
    (s.step c).mailbox.posted = s.mailbox.posted.drop (s.takenBy c).length ++ s.postedBy c := by
  obtain ⟨es, hes⟩ : ∃ es, (s.step c).mailbox.posted = s.mailbox.posted.drop (s.takenBy c).length ++ es := by
    cases c with
    | call user text =>
      rcases h.call_cases with ⟨hkept, hroom⟩ | ⟨hkept, hfull, hopen⟩ | hnone
      · rw [h.call_of_room user text hkept hroom]
        exact ⟨[eventOf user text], rfl⟩
      · rw [h.call_of_full user text hkept hfull hopen]
        exact ⟨[], (List.append_nil _).symm⟩
      · rw [h.call_of_hopeless user text hnone]
        exact ⟨[], (List.append_nil _).symm⟩
    | take limit => exact ⟨_, h.posted_take limit⟩
    | signal stop => cases stop <;> exact ⟨[], (List.append_nil _).symm⟩
    | abandon => exact ⟨[], (List.append_nil _).symm⟩
    | discardMailbox => exact absurd rfl hc
  rw [postedBy_of_append hes, hes]

/-- What is taken and what is left of the mailbox is what was there and what has come. -/
lemma Orderly.taken_append (h : Orderly capacity s) (hc : c ≠ .discardMailbox) :
    s.takenBy c ++ (s.step c).mailbox.posted = s.mailbox.posted ++ s.postedBy c := by
  obtain ⟨rest, hrest⟩ := takenBy_isFirst s c
  rw [h.posted_step hc, ← hrest, List.drop_left, List.append_assoc]

/-- The mailbox is gone when it is thrown away. -/
lemma kept_step : (s.step c).mailbox.kept = true ↔ s.mailbox.kept = true ∧ c ≠ .discardMailbox := by
  cases c with
  | call user text => simp [(step_call_frame s user text).2.2.2]
  | take | abandon => exact (and_iff_left (by simp)).symm
  | signal stop => cases stop <;> exact (and_iff_left (by simp)).symm
  | discardMailbox => simp [step, Service.discardMailbox, Mailbox.discard]

/-! ## What becomes of calls by one command -/

/-- The events of the calls that a command makes. -/
def eventsOf (c : Command) : List Event :=
  c.message?.toList.map fun m => eventOf m.1 m.2

/-- A command posts the calls that have come first, and the others wait. -/
structure Posts (s : Service) (c : Command) : Prop where
  calls : s.waiting ++ s.calledBy c = s.callsPostedBy c ++ (s.step c).waiting
  events : s.held ++ eventsOf c = s.postedBy c ++ (s.step c).held
  length_eq : (s.callsPostedBy c).length = (s.postedBy c).length
  discarded : s.callsDiscardedBy c = []

/-- A command discards all calls that wait, and those that it makes. -/
structure Discards (s : Service) (c : Command) : Prop where
  calls : s.callsPostedBy c = []
  events : s.postedBy c = []
  waiting : (s.step c).waiting = []
  discarded : s.callsDiscardedBy c = s.waiting ++ s.calledBy c

lemma lt_of_mem_calledBy {n : Nat} (hn : n ∈ s.calledBy c) : s.calls ≤ n ∧ n < (s.step c).calls := by
  obtain ⟨hle, hlt⟩ := List.mem_range'_1.1 hn
  omega

lemma Orderly.acknowledgedBy_eq (h : Orderly capacity s) (ns : List Nat)
    (hcalls : s.waiting ++ s.calledBy c = ns ++ (s.step c).waiting) : s.acknowledgedBy c = ns := by
  have hsorted : (s.waiting ++ s.calledBy c).Pairwise (· < ·) := by
    rw [List.pairwise_append]
    refine ⟨h.sorted, List.pairwise_lt_range', fun n hn m hm => ?_⟩
    exact Nat.lt_of_lt_of_le (h.lt_calls n hn) (lt_of_mem_calledBy hm).1
  refine acknowledgedBy_of_nodup hcalls (hsorted.imp fun hlt => Nat.ne_of_lt hlt) fun n hn => ?_
  rcases List.mem_append.1 hn with hold | hnew
  · exact Nat.lt_of_lt_of_le (h.lt_calls n hold) (by rw [calls_step]; exact Nat.le_add_right _ _)
  · exact (lt_of_mem_calledBy hnew).2

lemma Orderly.posts (h : Orderly capacity s) (ns : List Nat)
    (hcalls : s.waiting ++ s.calledBy c = ns ++ (s.step c).waiting)
    (hevents : s.held ++ eventsOf c = s.postedBy c ++ (s.step c).held)
    (hlength : ns.length = (s.postedBy c).length) : s.Posts c := by
  have hacknowledged := h.acknowledgedBy_eq ns hcalls
  have hposted : s.callsPostedBy c = ns := by
    rw [callsPostedBy, hacknowledged, ← hlength, List.take_length]
  refine ⟨by rw [hposted, hcalls], hevents, by rw [hposted, hlength], ?_⟩
  rw [callsDiscardedBy, hacknowledged, ← hlength, List.drop_length]

lemma Orderly.discards (h : Orderly capacity s) (hposted : s.postedBy c = []) (hwaiting : (s.step c).waiting = []) :
    s.Discards c := by
  have hacknowledged := h.acknowledgedBy_eq (c := c) (s.waiting ++ s.calledBy c)
    (by rw [hwaiting, List.append_nil])
  refine ⟨?_, hposted, hwaiting, ?_⟩
  · rw [callsPostedBy, hposted]
    rfl
  · rw [callsDiscardedBy, hposted, hacknowledged]
    rfl

section

variable (h : Orderly capacity s) (user text : String)

include h

lemma Orderly.posts_of_room (hkept : s.mailbox.kept = true) (hroom : s.mailbox.posted.length < capacity) :
    s.Posts (.call user text) ∧ s.postedBy (.call user text) = [eventOf user text] ∧
      (s.step (.call user text)).waiting = s.waiting := by
  have hstep := h.call_of_room user text hkept hroom
  have hposted : s.postedBy (.call user text) = [eventOf user text] := postedBy_of_append (by rw [hstep]; rfl)
  have hwaiting : (s.step (.call user text)).waiting = s.waiting := by
    rw [hstep]
    rfl
  obtain ⟨hnil, hnil'⟩ := h.waiting_eq_nil (Or.inr (Or.inr hroom))
  refine ⟨h.posts [s.calls] ?_ ?_ (by rw [hposted]; rfl), hposted, hwaiting⟩
  · rw [hwaiting, calledBy_eq, hnil]
    rfl
  · rw [hposted, hstep]
    show s.held ++ _ = _ ++ s.held
    rw [held, hnil']
    rfl

lemma Orderly.posts_of_full (hkept : s.mailbox.kept = true) (hfull : s.mailbox.posted.length = capacity)
    (hopen : s.isClosing = false) :
    s.Posts (.call user text) ∧ s.postedBy (.call user text) = [] ∧
      (s.step (.call user text)).waiting = s.waiting ++ [s.calls] := by
  have hstep := h.call_of_full user text hkept hfull hopen
  have hposted : s.postedBy (.call user text) = [] := postedBy_eq_nil rfl (by rw [hstep])
  have hwaiting := h.waiting_concat (s.step (.call user text)) (eventOf user text) (by rw [hstep])
  refine ⟨h.posts [] ?_ ?_ (by rw [hposted]; rfl), hposted, hwaiting⟩
  · rw [hwaiting, calledBy_eq]
    rfl
  · rw [hposted, hstep]
    simp [held, eventsOf, Command.message?]

lemma Orderly.discards_of_hopeless
    (hnone : s.mailbox.kept = false ∨ s.mailbox.posted.length = capacity ∧ s.isClosing = true) :
    s.Discards (.call user text) ∧ s.waiting = [] := by
  have hstep := h.call_of_hopeless user text hnone
  obtain ⟨hnil, -⟩ := h.waiting_eq_nil (hnone.imp_right fun hstop => Or.inl hstop.2)
  refine ⟨h.discards (postedBy_eq_nil rfl (by rw [hstep])) ?_, hnil⟩
  rw [hstep]
  exact hnil

end

lemma Orderly.posts_take (h : Orderly capacity s) (limit : Option Nat) : s.Posts (.take limit) := by
  have hposted := postedBy_of_append (h.posted_take limit)
  have hwaiting := h.waiting_drop (s.step (.take limit)) (s.freed limit) (by rw [h.take_eq limit])
  refine h.posts (s.waiting.take (s.freed limit)) ?_ ?_ ?_
  · rw [calledBy_eq, hwaiting, List.take_append_drop]
    exact List.append_nil _
  · rw [hposted, h.take_eq limit]
    simp [held, eventsOf, Command.message?, List.map_drop, List.take_append_drop]
  · rw [hposted, List.length_take, List.length_take, h.length_held]

lemma Orderly.posts_resume (h : Orderly capacity s) : s.Posts (.signal false) := by
  have hposted : s.postedBy (.signal false) = [] := postedBy_eq_nil rfl rfl
  refine h.posts [] ?_ ?_ (by rw [hposted]; rfl)
  · rw [calledBy_eq]
    exact List.append_nil _
  · rw [hposted]
    exact List.append_nil _

/-- A command after which no call waits, unless it comes later. -/
def Command.ends (c : Command) : Prop :=
  c = .signal true ∨ c = .abandon ∨ c = .discardMailbox

lemma Orderly.discards_of_ends (h : Orderly capacity s) (hc : c.ends) : s.Discards c := by
  rcases hc with rfl | rfl | rfl
  · exact h.discards (postedBy_eq_nil rfl rfl) rfl
  · exact h.discards (postedBy_eq_nil rfl rfl) rfl
  · exact h.discards (List.drop_eq_nil_of_le (Nat.zero_le _)) rfl

/-- **Whatever a command is, it posts calls in their order, or discards all that wait.** -/
lemma Orderly.posts_or_discards (h : Orderly capacity s) (c : Command) : s.Posts c ∨ s.Discards c := by
  cases c with
  | call user text =>
    rcases h.call_cases with ⟨hkept, hroom⟩ | ⟨hkept, hfull, hopen⟩ | hnone
    · exact Or.inl (h.posts_of_room user text hkept hroom).1
    · exact Or.inl (h.posts_of_full user text hkept hfull hopen).1
    · exact Or.inr (h.discards_of_hopeless user text hnone).1
  | take limit => exact Or.inl (h.posts_take limit)
  | signal stop =>
    cases stop with
    | true => exact Or.inr (h.discards_of_ends (Or.inl rfl))
    | false => exact Or.inl h.posts_resume
  | abandon => exact Or.inr (h.discards_of_ends (Or.inr (Or.inl rfl)))
  | discardMailbox => exact Or.inr (h.discards_of_ends (Or.inr (Or.inr rfl)))

/-- Nothing is discarded as long as there is a mailbox and the service is not told to stop. -/
lemma Orderly.callsDiscardedBy_eq_nil (h : Orderly capacity s) (hkept : s.mailbox.kept = true)
    (hopen : s.isClosing = false) (hc : ¬c.ends) : s.callsDiscardedBy c = [] := by
  cases c with
  | call user text =>
    rcases Nat.lt_or_ge s.mailbox.posted.length capacity with hroom | hfull
    · exact (h.posts_of_room user text hkept hroom).1.discarded
    · exact (h.posts_of_full user text hkept (Nat.le_antisymm h.bounded hfull) hopen).1.discarded
  | take limit => exact (h.posts_take limit).discarded
  | signal stop =>
    cases stop with
    | true => exact absurd (Or.inl rfl) hc
    | false => exact h.posts_resume.discarded
  | abandon => exact absurd (Or.inr (Or.inl rfl)) hc
  | discardMailbox => exact absurd (Or.inr (Or.inr rfl)) hc

/-! ## Accounts of a run -/

lemma range_calls_step (s : Service) (c : Command) :
    List.range (s.step c).calls = List.range s.calls ++ s.calledBy c := by
  rw [calledBy_eq, calls_step, List.range_eq_range', List.range_eq_range', ← List.range'_append_1, Nat.zero_add]

lemma filterMap_concat (cs : List Command) (c : Command) :
    (cs ++ [c]).filterMap Command.message? = cs.filterMap Command.message? ++ c.message?.toList := by
  rw [List.filterMap_append]
  cases hmessage : c.message? with
  | none => rw [List.filterMap_cons_none hmessage]; rfl
  | some m => rw [List.filterMap_cons_some hmessage]; rfl

/-- The event of a call does not depend on the commands that come later. -/
lemma eventAt_concat {n : Nat} (hn : n < (cs.filterMap Command.message?).length) (c : Command) :
    eventAt (cs ++ [c]) n = eventAt cs n := by
  rw [eventAt, filterMap_concat, List.getElem?_append_left hn, eventAt]

lemma map_eventAt_concat {ns : List Nat} (hns : ∀ n ∈ ns, n < (cs.filterMap Command.message?).length) (c : Command) :
    ns.map (eventAt (cs ++ [c])) = ns.map (eventAt cs) :=
  List.map_congr_left fun n hn => eventAt_concat (hns n hn) c

/-- The events of the calls that a command makes are those of its messages. -/
lemma map_eventAt_calledBy (hcalls : s.calls = (cs.filterMap Command.message?).length) (c : Command) :
    (s.calledBy c).map (eventAt (cs ++ [c])) = (eventsOf c).map some := by
  rw [calledBy_eq, hcalls]
  cases c with
  | call user text =>
    simp [eventAt, eventsOf, Command.message?]
  | take | signal | abandon | discardMailbox => rfl

/-- **The accounts of a run.**  By the commands `cs` the calls `ps` were posted, and `ds` were discarded; the events
`es` came into the mailbox, and `ts` were taken. -/
structure Tally (capacity : Nat) (cs : List Command) (s : Service) (ps ds : List Nat) (es ts : List Event) : Prop where
  orderly : Orderly capacity s
  calls_eq : s.calls = (cs.filterMap Command.message?).length
  sorted : (ps ++ s.waiting).Pairwise (· < ·)
  perm : (ps ++ s.waiting ++ ds).Perm (List.range s.calls)
  events_eq : es.map some = ps.map (eventAt cs)
  held_eq : s.held.map some = s.waiting.map (eventAt cs)
  taken_eq : s.mailbox.kept = true → ts ++ s.mailbox.posted = es
  taken_first : ts <+: es

lemma tally_nil (capacity : Nat) : Tally capacity [] { mailbox := { capacity } } [] [] [] [] where
  orderly := orderly_init capacity
  calls_eq := rfl
  sorted := List.Pairwise.nil
  perm := List.Perm.nil
  events_eq := rfl
  held_eq := rfl
  taken_eq _ := rfl
  taken_first := List.prefix_rfl

section

variable {ps ds : List Nat} {es ts : List Event} (h : Tally capacity cs s ps ds es ts) (c : Command)

include h

lemma Tally.lt_calls {n : Nat} (hn : n ∈ ps ++ s.waiting) : n < s.calls :=
  List.mem_range.1 (h.perm.subset (List.mem_append_left _ hn))

lemma Tally.sorted_step : (ps ++ s.callsPostedBy c ++ (s.step c).waiting).Pairwise (· < ·) := by
  rcases h.orderly.posts_or_discards c with hposts | hdiscards
  · rw [List.append_assoc, ← hposts.calls, ← List.append_assoc, List.pairwise_append]
    refine ⟨h.sorted, List.pairwise_lt_range', fun n hn m hm => ?_⟩
    exact Nat.lt_of_lt_of_le (h.lt_calls hn) (lt_of_mem_calledBy hm).1
  · rw [hdiscards.calls, hdiscards.waiting, List.append_nil, List.append_nil]
    exact (List.pairwise_append.1 h.sorted).1

lemma Tally.perm_step : (ps ++ s.callsPostedBy c ++ (s.step c).waiting ++ (ds ++ s.callsDiscardedBy c)).Perm
    (List.range (s.step c).calls) := by
  rw [range_calls_step]
  refine .trans ?_ (h.perm.append_right _)
  rcases h.orderly.posts_or_discards c with hposts | hdiscards
  · rw [hposts.discarded, List.append_nil, List.append_assoc ps, ← hposts.calls]
    simp only [List.append_assoc]
    exact (List.perm_append_comm.append_left _).append_left _
  · rw [hdiscards.calls, hdiscards.waiting, hdiscards.discarded, List.append_nil, List.append_nil]
    simp only [List.append_assoc]
    exact (List.perm_append_comm_assoc _ _ _).append_left _

lemma Tally.events_step : (es ++ s.postedBy c).map some = (ps ++ s.callsPostedBy c).map (eventAt (cs ++ [c])) ∧
    (s.step c).held.map some = (s.step c).waiting.map (eventAt (cs ++ [c])) := by
  have hlt : ∀ n ∈ ps ++ s.waiting, n < (cs.filterMap Command.message?).length :=
    fun n hn => h.calls_eq ▸ h.lt_calls hn
  have hps := map_eventAt_concat (fun n hn => hlt n (List.mem_append_left _ hn)) c
  have hwaiting := map_eventAt_concat (fun n hn => hlt n (List.mem_append_right _ hn)) c
  rcases h.orderly.posts_or_discards c with hposts | hdiscards
  · -- those that are posted and those that still wait are those that waited and those that are new
    have hall : (s.postedBy c).map some ++ (s.step c).held.map some =
        (s.callsPostedBy c).map (eventAt (cs ++ [c])) ++ (s.step c).waiting.map (eventAt (cs ++ [c])) := by
      rw [← List.map_append, ← List.map_append, ← hposts.events, ← hposts.calls, List.map_append, List.map_append,
        h.held_eq, hwaiting, map_eventAt_calledBy h.calls_eq]
    obtain ⟨hnew, hleft⟩ := List.append_inj hall (by
      rw [List.length_map, List.length_map, hposts.length_eq])
    exact ⟨by rw [List.map_append, List.map_append, h.events_eq, hps, hnew], hleft⟩
  · have hheld : (s.step c).held = [] := by
      rw [← List.length_eq_zero_iff, (h.orderly.step c).length_held, hdiscards.waiting]
      rfl
    rw [hdiscards.events, hdiscards.calls, hdiscards.waiting, hheld, List.append_nil, List.append_nil, hps]
    exact ⟨h.events_eq, rfl⟩

lemma Tally.taken_step : ((s.step c).mailbox.kept = true →
    ts ++ s.takenBy c ++ (s.step c).mailbox.posted = es ++ s.postedBy c) ∧
      ts ++ s.takenBy c <+: es ++ s.postedBy c := by
  constructor
  · intro hkept
    obtain ⟨hkept, hc⟩ := kept_step.1 hkept
    rw [List.append_assoc, h.orderly.taken_append hc, ← List.append_assoc, h.taken_eq hkept]
  · refine .trans ?_ (List.prefix_append es _)
    cases hkept : s.mailbox.kept with
    | true =>
      rw [← h.taken_eq hkept]
      exact (List.prefix_append_right_inj ts).2 (takenBy_isFirst s c)
    | false =>
      have hnil : s.takenBy c = [] := List.prefix_nil.1 (h.orderly.lost hkept ▸ takenBy_isFirst s c)
      rw [hnil, List.append_nil]
      exact h.taken_first

/-- **A command adds to the accounts what is observed of it.** -/
lemma Tally.step : Tally capacity (cs ++ [c]) (s.step c) (ps ++ s.callsPostedBy c) (ds ++ s.callsDiscardedBy c)
    (es ++ s.postedBy c) (ts ++ s.takenBy c) where
  orderly := h.orderly.step c
  calls_eq := by rw [calls_step, h.calls_eq, filterMap_concat, List.length_append]
  sorted := h.sorted_step c
  perm := h.perm_step c
  events_eq := (h.events_step c).1
  held_eq := (h.events_step c).2
  taken_eq := (h.taken_step c).1
  taken_first := (h.taken_step c).2

end

/-! ## Whole runs -/

/-- A service whose mailbox is empty and has the given size. -/
abbrev fresh (capacity : Nat) : Service :=
  { mailbox := { capacity } }

/-- The calls that were posted in a run. -/
def posted (capacity : Nat) : List Command → List Nat :=
  observe callsPostedBy (fresh capacity)

/-- The calls that were discarded in a run. -/
def discarded (capacity : Nat) : List Command → List Nat :=
  observe callsDiscardedBy (fresh capacity)

/-- The events that came into the mailbox in a run. -/
def events (capacity : Nat) : List Command → List Event :=
  observe postedBy (fresh capacity)

/-- The events that were taken in a run. -/
def taken (capacity : Nat) : List Command → List Event :=
  observe takenBy (fresh capacity)

/-- What a command says about stopping. -/
def Command.signal? : Command → Option Bool
  | signal stop => some stop
  | call .. | take _ | abandon | discardMailbox => none

/-- The service was told to stop by the last signal, or there can be no signal any more. -/
def ToldToStop (cs : List Command) : Prop :=
  .abandon ∈ cs ∨ (cs.filterMap Command.signal?).getLast? = some true

lemma tally_run (capacity : Nat) (cs : List Command) :
    Tally capacity cs ((fresh capacity).run cs) (posted capacity cs) (discarded capacity cs) (events capacity cs)
      (taken capacity cs) := by
  induction cs using List.reverseRecOn with
  | nil => exact tally_nil capacity
  | append_singleton cs c ih =>
    simp only [posted, discarded, events, taken, observe_concat, run_concat]
    exact ih.step c

lemma stopping_step (s : Service) (c : Command) : (s.step c).stopping = c.signal?.getD s.stopping := by
  cases c with
  | call user text => exact (step_call_frame s user text).2.1
  | take | abandon | discardMailbox => rfl
  | signal stop => cases stop <;> rfl

lemma abandoned_step (s : Service) (c : Command) :
    (s.step c).abandoned = true ↔ s.abandoned = true ∨ c = .abandon := by
  cases c with
  | call user text => simp [(step_call_frame s user text).2.2.1]
  | take | discardMailbox => exact (or_iff_left (by simp)).symm
  | signal stop => cases stop <;> exact (or_iff_left (by simp)).symm
  | abandon => simp [step, Service.abandon]

lemma stopping_run (capacity : Nat) (cs : List Command) :
    ((fresh capacity).run cs).stopping = (cs.filterMap Command.signal?).getLast?.getD false := by
  induction cs using List.reverseRecOn with
  | nil => rfl
  | append_singleton cs c ih =>
    rw [run_concat, stopping_step, ih, List.filterMap_append]
    cases hsignal : c.signal? with
    | none => simp [hsignal]
    | some stop => simp [hsignal]

lemma abandoned_run (capacity : Nat) (cs : List Command) :
    ((fresh capacity).run cs).abandoned = true ↔ .abandon ∈ cs := by
  induction cs using List.reverseRecOn with
  | nil => simp [run]
  | append_singleton cs c ih => rw [run_concat, abandoned_step, ih, List.mem_append, List.mem_singleton, eq_comm]

lemma isClosing_run (capacity : Nat) (cs : List Command) :
    ((fresh capacity).run cs).isClosing = true ↔ ToldToStop cs := by
  rw [isClosing, Bool.or_eq_true, abandoned_run, stopping_run, ToldToStop, or_comm]
  cases (cs.filterMap Command.signal?).getLast? <;> simp

lemma kept_run (capacity : Nat) (cs : List Command) :
    ((fresh capacity).run cs).mailbox.kept = true ↔ .discardMailbox ∉ cs := by
  induction cs using List.reverseRecOn with
  | nil => simp [run]
  | append_singleton cs c ih =>
    rw [run_concat, kept_step, ih, List.mem_append, List.mem_singleton, not_or, ne_comm]

lemma not_toldToStop (h : ∀ c ∈ cs, ¬c.ends) : ¬ToldToStop cs := by
  rintro (habandon | hlast)
  · exact h _ habandon (Or.inr (Or.inl rfl))
  · obtain ⟨c, hc, hsignal⟩ := List.mem_filterMap.1 (List.mem_of_getLast? hlast)
    cases c with
    | signal stop =>
      cases hsignal
      exact h _ hc (Or.inl rfl)
    | call | take | abandon | discardMailbox => cases hsignal

lemma discarded_eq_nil (capacity : Nat) (cs : List Command) (h : ∀ c ∈ cs, ¬c.ends) : discarded capacity cs = [] := by
  induction cs using List.reverseRecOn with
  | nil => rfl
  | append_singleton cs c ih =>
    have hbefore : ∀ c ∈ cs, ¬c.ends := fun c hc => h c (List.mem_append_left _ hc)
    have horderly := (tally_run capacity cs).orderly
    have hkept := (kept_run capacity cs).2 fun hmem => hbefore _ hmem (Or.inr (Or.inr rfl))
    have hopen : ((fresh capacity).run cs).isClosing = false := by
      rw [← Bool.not_eq_true, isClosing_run]
      exact not_toldToStop hbefore
    rw [discarded, observe_concat, horderly.callsDiscardedBy_eq_nil hkept hopen (h c (by simp)), List.append_nil]
    exact ih hbefore

/-! ## The main result -/

/-- What a call is about. -/
lemma eventOf_cases (user text : String) :
    (∀ h : Text.isBlank user = false, eventOf user text = .received .direct ⟨user, text, h⟩) ∧
      (Text.isBlank user = true →
        eventOf user text = .malformed .direct "malformed envelope: user_name must not be empty") := by
  constructor
  · intro h
    rw [eventOf, Envelope.make_of_not_blank h]
  · intro h
    rw [eventOf, Envelope.make_of_blank h]
    rfl

/-- A call posts its event at once. -/
structure Takes (s : Service) (user text : String) : Prop where
  events : s.postedBy (.call user text) = [eventOf user text]
  posted : s.callsPostedBy (.call user text) = [s.calls]
  discarded : s.callsDiscardedBy (.call user text) = []
  waiting : (s.step (.call user text)).waiting = s.waiting

/-- A call waits. -/
structure Keeps (s : Service) (user text : String) : Prop where
  events : s.postedBy (.call user text) = []
  discarded : s.callsDiscardedBy (.call user text) = []
  waiting : (s.step (.call user text)).waiting = s.waiting ++ [s.calls]

/-- A call is discarded at once. -/
structure TurnsAway (s : Service) (user text : String) : Prop where
  events : s.postedBy (.call user text) = []
  discarded : s.callsDiscardedBy (.call user text) = [s.calls]
  waiting : (s.step (.call user text)).waiting = s.waiting

section

variable (h : Orderly capacity s) (user text : String)

include h

lemma Orderly.takes (hkept : s.mailbox.kept = true) (hroom : s.mailbox.posted.length < capacity) :
    s.Takes user text := by
  obtain ⟨hposts, hposted, hwaiting⟩ := h.posts_of_room user text hkept hroom
  obtain ⟨hnil, -⟩ := h.waiting_eq_nil (Or.inr (Or.inr hroom))
  refine ⟨hposted, ?_, hposts.discarded, hwaiting⟩
  have hcalls := hposts.calls
  rw [hwaiting, hnil, calledBy_eq, List.append_nil] at hcalls
  exact hcalls.symm

lemma Orderly.keeps (hkept : s.mailbox.kept = true) (hfull : s.mailbox.posted.length = capacity)
    (hopen : s.isClosing = false) : s.Keeps user text := by
  obtain ⟨hposts, hposted, hwaiting⟩ := h.posts_of_full user text hkept hfull hopen
  exact ⟨hposted, hposts.discarded, hwaiting⟩

lemma Orderly.turnsAway
    (hnone : s.mailbox.kept = false ∨ s.mailbox.posted.length = capacity ∧ s.isClosing = true) :
    s.TurnsAway user text := by
  obtain ⟨hdiscards, hnil⟩ := h.discards_of_hopeless user text hnone
  refine ⟨hdiscards.events, ?_, hdiscards.waiting.trans hnil.symm⟩
  rw [hdiscards.discarded, hnil, calledBy_eq]
  rfl

/-- What becomes of a call tells what it has met. -/
lemma Orderly.call_iff :
    (s.Takes user text ↔ s.mailbox.kept = true ∧ s.mailbox.posted.length < capacity) ∧
      (s.Keeps user text ↔ s.mailbox.kept = true ∧ s.mailbox.posted.length = capacity ∧ s.isClosing = false) ∧
      (s.TurnsAway user text ↔
        s.mailbox.kept = false ∨ s.mailbox.posted.length = capacity ∧ s.isClosing = true) := by
  have hkeeps : s.Takes user text → ¬s.Keeps user text := fun ht hk => by
    simpa [hk.events] using ht.events
  have hturns : s.Takes user text → ¬s.TurnsAway user text := fun ht ha => by
    simpa [ha.events] using ht.events
  have hwaits : s.Keeps user text → ¬s.TurnsAway user text := fun hk ha => by
    simpa [ha.discarded] using hk.discarded
  refine ⟨⟨fun ht => ?_, fun hc => h.takes user text hc.1 hc.2⟩,
    ⟨fun hk => ?_, fun hc => h.keeps user text hc.1 hc.2.1 hc.2.2⟩, ⟨fun ha => ?_, h.turnsAway user text⟩⟩
  · rcases h.call_cases with hroom | hfull | hnone
    · exact hroom
    · exact absurd (h.keeps user text hfull.1 hfull.2.1 hfull.2.2) (hkeeps ht)
    · exact absurd (h.turnsAway user text hnone) (hturns ht)
  · rcases h.call_cases with hroom | hfull | hnone
    · exact absurd hk (hkeeps (h.takes user text hroom.1 hroom.2))
    · exact hfull
    · exact absurd (h.turnsAway user text hnone) (hwaits hk)
  · rcases h.call_cases with hroom | hfull | hnone
    · exact absurd ha (hturns (h.takes user text hroom.1 hroom.2))
    · exact absurd ha (hwaits (h.keeps user text hfull.1 hfull.2.1 hfull.2.2))
    · exact hnone

end

/-- **What becomes of the calls of a run.** -/
structure AccountsForCalls (capacity : Nat) (cs : List Command) (s : Service) : Prop where
  /-- Every message of a run is a call. -/
  calls_eq : s.calls = (cs.filterMap Command.message?).length
  /-- A call was acknowledged, or waits. -/
  answered : ∀ n < s.calls, s.isAcknowledged n = true ∨ n ∈ s.waiting
  /-- A call waits only as long as there is a mailbox, which is full, and the service is not told to stop. -/
  waits : ∀ n ∈ s.waiting, .discardMailbox ∉ cs ∧ ¬ToldToStop cs ∧ s.mailbox.posted.length = capacity
  bounded : s.mailbox.posted.length ≤ capacity
  /-- Every call was posted, or waits, or was discarded, and only one of these. -/
  each : (posted capacity cs ++ s.waiting ++ discarded capacity cs).Perm (List.range s.calls)
  total : s.calls = (posted capacity cs).length + s.waiting.length + (discarded capacity cs).length
  /-- Calls were posted in their order, and those that wait have come later. -/
  sorted : (posted capacity cs ++ s.waiting).Pairwise (· < ·)
  /-- The events that came into the mailbox are those of the calls that were posted. -/
  events_eq : (events capacity cs).map some = (posted capacity cs).map (eventAt cs)
  /-- Events that came into the mailbox were taken in their order, or are still there. -/
  taken_eq : .discardMailbox ∉ cs → taken capacity cs ++ s.mailbox.posted = events capacity cs
  taken_first : taken capacity cs <+: events capacity cs
  /-- Before anything ends the waiting, nothing is discarded. -/
  undiscarded : (∀ c ∈ cs, ¬c.ends) → discarded capacity cs = []
  /-- What ends the waiting has all calls acknowledged that wait, and posts none. -/
  ends : ∀ c : Command, c.ends → s.acknowledgedBy c = s.waiting ∧ s.callsDiscardedBy c = s.waiting ∧
    (s.step c).waiting = [] ∧ s.postedBy c = []
  /-- If the service is told to stop, the events in its mailbox stay there. -/
  stops : ∀ c : Command, c = .signal true ∨ c = .abandon → (s.step c).mailbox.posted = s.mailbox.posted
  /-- A call is posted if there is a mailbox with room. -/
  takes : ∀ user text, s.Takes user text ↔ .discardMailbox ∉ cs ∧ s.mailbox.posted.length < capacity
  /-- A call waits if the mailbox is full, and the service is not told to stop. -/
  keeps : ∀ user text, s.Keeps user text ↔
    .discardMailbox ∉ cs ∧ s.mailbox.posted.length = capacity ∧ ¬ToldToStop cs
  /-- A call is discarded if there is no mailbox, or if it is full and the service is told to stop. -/
  turnsAway : ∀ user text, s.TurnsAway user text ↔
    .discardMailbox ∈ cs ∨ s.mailbox.posted.length = capacity ∧ ToldToStop cs

lemma Discards.acknowledgedBy_eq (h : s.Discards c) : s.acknowledgedBy c = s.callsDiscardedBy c := by
  have hsplit := List.take_append_drop (s.postedBy c).length (s.acknowledgedBy c)
  rw [← hsplit]
  show s.callsPostedBy c ++ s.callsDiscardedBy c = _
  rw [h.calls, List.nil_append]

lemma Command.ends.message?_eq_none (h : c.ends) : c.message? = none := by
  rcases h with rfl | rfl | rfl <;> rfl

/-- **All calls are accounted for**, whatever is done with a service, and whatever the size of its mailbox. -/
theorem calls_are_accounted_for (capacity : Nat) (cs : List Command) :
    AccountsForCalls capacity cs (({ mailbox := { capacity } } : Service).run cs) ∧
      ∀ user text,
        (∀ h : Text.isBlank user = false, eventOf user text = .received .direct ⟨user, text, h⟩) ∧
          (Text.isBlank user = true →
            eventOf user text = .malformed .direct "malformed envelope: user_name must not be empty") := by
  refine ⟨?_, eventOf_cases⟩
  have h := tally_run capacity cs
  have hclosing := isClosing_run capacity cs
  have hkept := kept_run capacity cs
  have hdiscarded := discarded_eq_nil capacity cs
  generalize (fresh capacity).run cs = s at h hclosing hkept
  constructor
  · exact h.calls_eq
  · intro n hn
    by_cases hmem : n ∈ s.waiting
    · exact Or.inr hmem
    · exact Or.inl (by simp [isAcknowledged, hn, hmem])
  · intro n hn
    obtain ⟨hk, hopen, hfull⟩ := h.orderly.full (List.ne_nil_of_mem hn)
    refine ⟨hkept.1 hk, fun htold => ?_, hfull⟩
    rw [hclosing.2 htold] at hopen
    cases hopen
  · exact h.orderly.bounded
  · exact h.perm
  · have hlength := h.perm.length_eq
    simp only [List.length_append, List.length_range] at hlength
    exact hlength.symm
  · exact h.sorted
  · exact h.events_eq
  · exact fun hc => h.taken_eq (hkept.2 hc)
  · exact h.taken_first
  · exact hdiscarded
  · intro c hc
    have hdiscards := h.orderly.discards_of_ends hc
    have hcalls : s.callsDiscardedBy c = s.waiting := by
      rw [hdiscards.discarded, calledBy_eq, hc.message?_eq_none]
      exact List.append_nil _
    exact ⟨hdiscards.acknowledgedBy_eq.trans hcalls, hcalls, hdiscards.waiting, hdiscards.events⟩
  · rintro c (rfl | rfl) <;> rfl
  · intro user text
    rw [(h.orderly.call_iff user text).1, hkept]
  · intro user text
    rw [(h.orderly.call_iff user text).2.1, hkept, ← hclosing, Bool.not_eq_true]
  · intro user text
    rw [(h.orderly.call_iff user text).2.2, ← Bool.not_eq_true, hkept, hclosing, not_not]

end MessageRelay.Direct.Service
