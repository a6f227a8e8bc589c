import MessageRelay.Direct.Call
import MessageRelay.Proofs.ChatLog.Window
import MessageRelay.Proofs.Shell.Entered
import MessageRelay.Relay
import Mathlib.Data.List.Infix

/-!
# What is said in a session

The interactive mode takes one thing after the other, lines and events in any order.  What it has sent, what it calls
the user and what its log shows can be told from all that it has taken, without following it: a message is sent by the
user who was named last before it, and the log shows the last of what was said and heard since it was last cleared
(`conversation`).
-/

namespace MessageRelay.Shell

/-! ## Moments -/

/-- Nothing is taken any more behind this. -/
def Input.ends : Input → Bool
  | .line text => (Input.line text).Quits
  | .event _ => false
  | .unreadable _ | .ended | .interrupted => true

/-- All that is taken: what comes before the end. -/
def taken (inputs : List (Stamp × Input)) : List (Stamp × Input) :=
  inputs.takeWhile fun i => !i.2.ends

/-- The user who was named last, or else the one at the start. -/
def userAfter (user : String) (past : List (Stamp × Input)) : String :=
  (past.filterMap (·.2.name?)).getLast?.getD user

/-- Something that is taken, and who the user is at that time. -/
structure Moment where
  /-- The user. -/
  user : String
  /-- The time. -/
  stamp : Stamp
  /-- What is taken. -/
  input : Input

namespace Moment

/-- The message that the user sends. -/
def message? (m : Moment) : Option (String × String) :=
  m.input.message?.map fun text => (m.user, text)

/-- The line that is added to the log. -/
def entry? (m : Moment) : Option LogEntry :=
  match m.input with
  | .event e => some (ChatLog.entryOf m.stamp e)
  | _ => m.message?.map fun said => ⟨m.stamp, .outgoing, said.1 ++ " | " ++ said.2⟩

end Moment

/-- The moments at which all this is taken, each with what came before it. -/
def moments (user : String) (inputs : List (Stamp × Input)) : List Moment :=
  List.zipWith (fun past i => ⟨userAfter user past, i.1, i.2⟩) inputs.inits inputs

/-- The moments since the log was last cleared. -/
def sinceCleared (ms : List Moment) : List Moment :=
  ms.rtakeWhile fun m => !decide m.input.Clears

/-- The lines that the log is given since it was last cleared. -/
def linesOf (ms : List Moment) : List LogEntry :=
  (sinceCleared ms).filterMap Moment.entry?

section Moments

variable (user : String) (past : List (Stamp × Input)) (i : Stamp × Input)

lemma userAfter_cons : userAfter user (i :: past) = userAfter (userAfter user [i]) past := by
  unfold userAfter
  cases hname : i.2.name? with
  | none => simp [hname]
  | some name => simp [hname, List.getLast?_cons]

lemma userAfter_concat : userAfter user (past ++ [i]) = i.2.name?.getD (userAfter user past) := by
  unfold userAfter
  cases hname : i.2.name? <;> simp [hname]

lemma moments_cons : moments user (i :: past) = ⟨user, i.1, i.2⟩ :: moments (userAfter user [i]) past := by
  have hlater : (fun past (j : Stamp × Input) => (⟨userAfter user (i :: past), j.1, j.2⟩ : Moment)) =
      fun past (j : Stamp × Input) => ⟨userAfter (userAfter user [i]) past, j.1, j.2⟩ := by
    funext past j
    rw [userAfter_cons]
  unfold moments
  rw [List.inits_cons, List.zipWith_cons_cons, List.zipWith_map_left, hlater]
  rfl

lemma moments_concat : moments user (past ++ [i]) = moments user past ++ [⟨userAfter user past, i.1, i.2⟩] := by
  induction past generalizing user with
  | nil => rfl
  | cons j rest ih => rw [List.cons_append, moments_cons, ih, moments_cons, ← userAfter_cons, List.cons_append]

lemma linesOf_concat (ms : List Moment) (m : Moment) :
    linesOf (ms ++ [m]) = if m.input.Clears then [] else linesOf ms ++ m.entry?.toList := by
  unfold linesOf sinceCleared
  rw [List.rtakeWhile_concat]
  by_cases hclears : m.input.Clears
  · simp [hclears]
  · cases hentry : m.entry? <;> simp [hclears, hentry]

end Moments

/-! ## What has been taken -/

lemma Moment.entry?_eq_none {m : Moment} (hmessage : m.input.message? = none) (hevent : ∀ e, m.input ≠ .event e) :
    m.entry? = none := by
  unfold entry?
  split
  · next e he => exact absurd he (hevent e)
  · rw [message?, hmessage]
    rfl

/-- What ends the session says nothing. -/
lemma Input.silent_of_ends {i : Input} (h : i.ends = true) :
    i.message? = none ∧ i.name? = none ∧ ¬ i.Clears ∧ ∀ e, i ≠ .event e := by
  cases i with
  | line text =>
    obtain ⟨hmessage, hname, hclears, hquits⟩ := readings text
    have hquit : Entered.ofLine text = .quit := hquits.1 (by simpa [ends] using h)
    rw [hmessage, hname, hclears, hquit]
    simp
  | event e => simp [ends] at h
  | unreadable | ended | interrupted => simp [message?, name?, Clears, word?, trimmed?]

section Taken

variable {inputs : List (Stamp × Input)}

lemma taken_of_not_ended (h : inputs.any (·.2.ends) = false) : taken inputs = inputs := by
  unfold taken
  rw [List.takeWhile_eq_self_iff]
  intro i hi
  simpa using List.any_eq_false.1 h i hi

/-- Behind the end nothing is taken. -/
lemma taken_concat_of_ended (h : inputs.any (·.2.ends) = true) (i : Stamp × Input) :
    taken (inputs ++ [i]) = taken inputs := by
  have hlength : (inputs.takeWhile fun i => !i.2.ends).length ≠ inputs.length := by
    intro hall
    obtain ⟨j, hj, hend⟩ := List.any_eq_true.1 h
    rw [← (List.takeWhile_prefix _).eq_of_length hall] at hj
    simpa [hend] using List.mem_takeWhile_imp hj
  rw [taken, List.takeWhile_append, if_neg hlength]
  rfl

lemma taken_concat_of_not_ended (h : inputs.any (·.2.ends) = false) (i : Stamp × Input) :
    taken (inputs ++ [i]) = if i.2.ends then inputs else inputs ++ [i] := by
  have hall := taken_of_not_ended h
  unfold taken at hall ⊢
  rw [List.takeWhile_append, if_pos (congrArg List.length hall)]
  cases hend : i.2.ends <;> simp [hend]

end Taken

/-! ## Senders and messages -/

/-- The user is never without a name. -/
lemma userAfter_not_blank {user : String} (huser : Text.isBlank user = false) (past : List (Stamp × Input)) :
    Text.isBlank (userAfter user past) = false := by
  unfold userAfter
  cases hlast : (past.filterMap (·.2.name?)).getLast? with
  | none => exact huser
  | some name =>
    obtain ⟨i, -, hname⟩ := List.mem_filterMap.1 (List.mem_of_getLast? hlast)
    exact Input.name?_not_blank hname

lemma exists_past_of_mem_moments {user : String} {inputs : List (Stamp × Input)} {m : Moment}
    (h : m ∈ moments user inputs) : ∃ past, m.user = userAfter user past := by
  induction inputs using List.reverseRecOn with
  | nil => simp [moments] at h
  | append_singleton inputs i ih =>
    rw [moments_concat, List.mem_append, List.mem_singleton] at h
    rcases h with h | rfl
    · exact ih h
    · exact ⟨inputs, rfl⟩

/-- A message whose sender is named is never turned down for having none, neither on its way through a queue nor on
that to a peer. -/
lemma not_blankUser {user text : String} (huser : Text.isBlank user = false) :
    (∀ relay : Relay, relay.payloadOf user text ≠ .error Envelope.blankUser) ∧
      ∀ client : Direct.Client, client.outgoing user text ≠ .error Envelope.blankUser := by
  have hsize : ∀ e : Envelope, e.checkSize ≠ .error Envelope.blankUser := by
    intro e
    unfold Envelope.checkSize
    split <;> simp [Envelope.tooLong, Envelope.blankUser]
  refine ⟨fun relay => ?_, fun client => ?_⟩
  · unfold Relay.payloadOf Envelope.encodeForSend
    simp only [Envelope.make_of_not_blank huser]
    split
    · simp [Relay.closedError, Envelope.blankUser]
    · split
      · next hcheck => exact fun h => hsize _ (by rw [hcheck, Except.error.inj h])
      · simp
  · unfold Direct.Client.outgoing
    simp only [Envelope.make_of_not_blank huser]
    split
    · simp [Direct.Client.closedError, Envelope.blankUser]
    · split
      · next hcheck => exact fun h => hsize _ (by rw [hcheck, Except.error.inj h])
      · simp

/-! ## One thing after the other -/

/-- The message that the node is given. -/
@[simp]
def Effect.message? : Effect → Option (String × String)
  | .send user text => some (user, text)
  | _ => none

namespace Repl

variable {r : Repl}

lemma step_of_left (h : r.left = true) (stamp : Stamp) (input : Input) : r.step stamp input = ([], r) := by
  simp [step, h]

lemma run_cons (r : Repl) (stamp : Stamp) (input : Input) (rest : List (Stamp × Input)) :
    r.run ((stamp, input) :: rest) =
      ((r.step stamp input).1 ++ ((r.step stamp input).2.run rest).1,
        ((r.step stamp input).2.run rest).2) :=
  rfl

/-- **What one thing comes to.**  A message is sent, a name is used, and a line is added to the log or all of them are
forgotten, as the thing says. -/
lemma step_eq (hleft : r.left = false) (stamp : Stamp) (input : Input) :
    let m : Moment := ⟨r.user, stamp, input⟩
    (r.step stamp input).1.filterMap Effect.message? = m.message?.toList ∧
      (r.step stamp input).2 = { r with
        user := input.name?.getD r.user
        log := if input.Clears then r.log.clear else m.entry?.elim r.log r.log.push
        left := input.ends } := by
  intro m
  unfold step
  rw [if_neg (by simp [hleft])]
  cases input with
  | line text =>
    obtain ⟨hmessage, hname, hclears, hquits⟩ := Input.readings text
    simp only [Moment.message?, Moment.entry?, Input.ends, hmessage, hname, hclears, hquits, m]
    cases Entered.ofLine text with
    | nothing => simp [enter, ← hleft]
    | message said => simp [enter, ← hleft]
    | setUser name => by_cases hempty : name = "" <;> simp [enter, tell, hempty, ← hleft]
    | quit => simp [enter, leave]
    | status => simp [enter, ← hleft]
    | clear => simp [enter, tell, ← hleft]
    | history | help | unknown => simp [enter, tell, ← hleft]
  | event e =>
    -- what is no line says nothing
    simp [m, Moment.message?, Moment.entry?, Input.message?, Input.name?, Input.Clears, Input.word?, Input.trimmed?,
      Input.ends, tell, ChatLog.record, ← hleft]
  | unreadable | ended | interrupted =>
    simp [m, Moment.message?, Moment.entry?, Input.message?, Input.name?, Input.Clears, Input.word?, Input.trimmed?,
      Input.ends, leave]

/-- Taking two sequences of things one after the other is taking them in one. -/
lemma run_append (r : Repl) (first second : List (Stamp × Input)) : r.run (first ++ second) =
    ((r.run first).1 ++ ((r.run first).2.run second).1, ((r.run first).2.run second).2) := by
  induction first generalizing r with
  | nil => rfl
  | cons i rest ih => rw [List.cons_append, run_cons, ih, run_cons, List.append_assoc]

/-- The interactive mode has taken all this since the given user started it, and has had these effects. -/
structure HasTaken (user : String) (inputs : List (Stamp × Input)) (effects : List Effect) (r : Repl) : Prop where
  sent : effects.filterMap Effect.message? = (moments user (taken inputs)).filterMap Moment.message?
  named : r.user = userAfter user (taken inputs)
  log : r.log.Shows ChatLog.defaultCapacity (linesOf (moments user (taken inputs)))
  left : r.left = inputs.any (·.2.ends)

namespace HasTaken

variable {user : String} {inputs : List (Stamp × Input)} {effects : List Effect}

lemma start (mode : Mode) (user : String) : HasTaken user [] [] { mode, user } where
  sent := rfl
  named := rfl
  log := ChatLog.shows_new _
  left := rfl

/-- Behind the end nothing changes. -/
lemma step_of_ended (h : HasTaken user inputs effects r) (hleft : r.left = true) (i : Stamp × Input) :
    HasTaken user (inputs ++ [i]) (effects ++ (r.step i.1 i.2).1) (r.step i.1 i.2).2 := by
  have hends : inputs.any (·.2.ends) = true := h.left ▸ hleft
  have htaken := taken_concat_of_ended hends i
  rw [step_of_left hleft, List.append_nil]
  exact {
    sent := htaken ▸ h.sent
    named := htaken ▸ h.named
    log := htaken ▸ h.log
    left := by rw [hleft, List.any_append, hends, Bool.true_or] }

/-- The end itself changes nothing, either. -/
lemma step_of_ends (h : HasTaken user inputs effects r) (hleft : r.left = false) (i : Stamp × Input)
    (hends : i.2.ends = true) :
    HasTaken user (inputs ++ [i]) (effects ++ (r.step i.1 i.2).1) (r.step i.1 i.2).2 := by
  have hopen : inputs.any (·.2.ends) = false := h.left ▸ hleft
  have htaken : taken (inputs ++ [i]) = taken inputs := by
    rw [taken_concat_of_not_ended hopen, if_pos hends, taken_of_not_ended hopen]
  obtain ⟨hmessage, hname, hclears, hevent⟩ := Input.silent_of_ends hends
  have hentry : Moment.entry? ⟨r.user, i.1, i.2⟩ = none := Moment.entry?_eq_none hmessage hevent
  obtain ⟨hsent, hstate⟩ := step_eq hleft i.1 i.2
  rw [hname, if_neg hclears, hentry, hends] at hstate
  rw [Moment.message?, hmessage] at hsent
  rw [hstate]
  exact {
    sent := by rw [List.filterMap_append, hsent, htaken, h.sent]; simp
    named := htaken ▸ h.named
    log := htaken ▸ h.log
    left := by simp [hends] }

/-- Before the end, one thing more is one moment more. -/
lemma step_of_goes_on (h : HasTaken user inputs effects r) (hleft : r.left = false) (i : Stamp × Input)
    (hends : i.2.ends = false) :
    HasTaken user (inputs ++ [i]) (effects ++ (r.step i.1 i.2).1) (r.step i.1 i.2).2 := by
  have hopen : inputs.any (·.2.ends) = false := h.left ▸ hleft
  have hall := taken_of_not_ended hopen
  have htaken : taken (inputs ++ [i]) = inputs ++ [i] := by
    rw [taken_concat_of_not_ended hopen, if_neg (by simp [hends])]
  obtain ⟨hwere, hnamed, hlog, -⟩ := h
  rw [hall] at hwere hnamed hlog
  obtain ⟨hsent, hstate⟩ := step_eq hleft i.1 i.2
  rw [hstate]
  rw [hnamed] at hsent ⊢
  constructor
  case sent =>
    rw [List.filterMap_append, hsent, hwere, htaken, moments_concat, List.filterMap_append]
    cases hm : Moment.message? ⟨userAfter user inputs, i.1, i.2⟩ <;> simp [hm]
  case named => rw [htaken, userAfter_concat]
  case log =>
    rw [htaken, moments_concat, linesOf_concat]
    by_cases hclears : i.2.Clears
    · simp only [if_pos hclears]
      exact hlog.clear
    · simp only [if_neg hclears]
      cases hm : Moment.entry? ⟨userAfter user inputs, i.1, i.2⟩ with
      | none => simpa using hlog
      | some entry => exact hlog.push entry
  case left => simp [hopen, hends]

lemma step (h : HasTaken user inputs effects r) (i : Stamp × Input) :
    HasTaken user (inputs ++ [i]) (effects ++ (r.step i.1 i.2).1) (r.step i.1 i.2).2 := by
  cases hleft : r.left with
  | true => exact h.step_of_ended hleft i
  | false =>
    cases hends : i.2.ends with
    | true => exact h.step_of_ends hleft i hends
    | false => exact h.step_of_goes_on hleft i hends

end HasTaken

/-- **All that was taken, one thing after the other.** -/
lemma hasTaken_run (mode : Mode) (user : String) (inputs : List (Stamp × Input)) :
    HasTaken user inputs (({ mode, user } : Repl).run inputs).1 (({ mode, user } : Repl).run inputs).2 := by
  induction inputs using List.reverseRecOn with
  | nil => exact HasTaken.start mode user
  | append_singleton inputs i ih =>
    rw [run_append, run_cons]
    simpa [run] using ih.step i

/-- **What is said in a session.**  The interactive mode is started by a user who is not blank, and takes lines and
events in any order.  Up to the end,

* it sends every line that is not empty and does not begin with a slash, without the blanks around it, in the name of
  the user who was named last before it; it sends nothing else, and nothing that is turned down for having no sender,
* the user is the one who was named last, and is never blank, and
* the log shows the last 500 of the messages that were sent and of the events, in the order in which they came, since it
  was last cleared. -/
theorem conversation (mode : Mode) {user : String} (huser : Text.isBlank user = false)
    (inputs : List (Stamp × Input)) :
    let r := ({ mode, user } : Repl).run inputs
    let ms := moments user (taken inputs)
    r.1.filterMap Effect.message? = ms.filterMap Moment.message? ∧
    (∀ said ∈ r.1.filterMap Effect.message?,
      said.2 ≠ "" ∧ Text.startsWith said.2 "/" = false ∧ Text.isBlank said.1 = false ∧
        (∃ e, Envelope.make said.1 said.2 = .ok e ∧ e.user = said.1 ∧ e.text = said.2) ∧
        (∀ relay : Relay, relay.payloadOf said.1 said.2 ≠ .error Envelope.blankUser) ∧
        ∀ client : Direct.Client, client.outgoing said.1 said.2 ≠ .error Envelope.blankUser) ∧
    r.2.user = userAfter user (taken inputs) ∧ Text.isBlank r.2.user = false ∧
    r.2.log.entries = ((sinceCleared ms).filterMap Moment.entry?).rtake 500 := by
  intro r ms
  obtain ⟨hsent, hnamed, hlog, -⟩ := hasTaken_run mode user inputs
  refine ⟨hsent, fun said hsaid => ?_, hnamed, ?_, hlog.entries⟩
  · obtain ⟨m, hm, hmessage⟩ := List.mem_filterMap.1 (hsent ▸ hsaid)
    obtain ⟨text, htext, rfl⟩ := Option.map_eq_some_iff.1 hmessage
    obtain ⟨past, hpast⟩ := exists_past_of_mem_moments hm
    have hsender : Text.isBlank m.user = false := hpast ▸ userAfter_not_blank huser past
    obtain ⟨hne, hslash⟩ := Input.message?_spec htext
    exact ⟨hne, hslash, hsender, ⟨_, Envelope.make_of_not_blank hsender, rfl, rfl⟩, not_blankUser hsender⟩
  · show Text.isBlank r.2.user = false
    rw [hnamed]
    exact userAfter_not_blank huser _

/-- Two users, something that comes in, a log that is cleared, and a line behind the end. -/
theorem conversation_renamed :
    let inputs : List (Stamp × Input) :=
      [({}, .line "  hello "), ({}, .line "/user  bob "), ({}, .line "hi\t/there"),
        ({}, .line "/clear all"), ({}, .event (.sendFailed .queue "gone")), ({}, .line "/user "), ({}, .line "again"),
        ({}, .line "\t/exit now"), ({}, .line "late")]
    let r := ({ mode := .json, user := "ann" } : Repl).run inputs
    Text.isBlank "ann" = false ∧
      r.1.filterMap Effect.message? = [("ann", "hello"), ("bob", "hi\t/there"), ("bob", "again")] ∧ r.2.user = "bob" ∧
      r.2.log.entries = [⟨{}, .problem .queue, "send failed: gone"⟩, ⟨{}, .outgoing, "bob | again"⟩] := by
  intro inputs r
  have huser : Text.isBlank "ann" = false := by decide
  obtain ⟨hsent, -, hnamed, -, hlog⟩ := conversation .json huser inputs
  exact ⟨huser, hsent.trans (by decide +kernel), hnamed.trans (by decide +kernel), hlog.trans (by decide +kernel)⟩

end Repl

end MessageRelay.Shell
