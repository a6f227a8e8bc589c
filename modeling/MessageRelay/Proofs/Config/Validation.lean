import MessageRelay.Config.Node
import Mathlib.Data.List.Basic

/-!
# Settings that make sense

What the checks of settings ask for, read off them once.  Some of it is asked in two places: which schemes name a
broker is said where settings are checked and again where the broker is chosen.  The two agree
(`BrokerUri.kind?_isSome`), so settings that make sense name a broker that can be chosen.
-/

namespace MessageRelay

/-! ## Steps that may fail -/

section Steps

variable {ε α β : Type} {x : Except ε α} {f : α → Except ε β} {g : α → β} {b : β} {e : ε}

/-- What stands behind a check is done when the check succeeds. -/
lemma except_check_eq_ok {check : Except ε Unit} {next : Except ε β} :
    (check >>= fun _ => next) = .ok b ↔ check = .ok () ∧ next = .ok b := by
  cases check <;> simp [bind, Except.bind]

/-- Two steps fail when the first one does, or when it does not and the second one does. -/
lemma except_bind_eq_error : (x >>= f) = .error e ↔ x = .error e ∨ ∃ a, x = .ok a ∧ f a = .error e := by
  cases x <;> simp [bind, Except.bind]

lemma except_map_eq_error : x.map g = .error e ↔ x = .error e := by
  cases x <;> simp [Except.map]

lemma except_throw_eq : (throw e : Except ε α) = .error e := rfl

lemma except_pure_eq (a : α) : (pure a : Except ε α) = .ok a := rfl

end Steps

/-! ## Schemes -/

namespace BrokerUri

/-- A URI names a kind of broker if its scheme is accepted, and only then. -/
lemma kind?_isSome (uri : String) : (kind? uri).isSome = isAccepted uri := by
  unfold kind? isAccepted schemes
  simp only [List.any_cons, List.any_nil, Bool.or_false]
  cases Text.startsWith uri "memory://" <;> cases Text.startsWith uri "amqp://" <;>
    cases Text.startsWith uri "amqps://" <;> rfl

lemma exists_choose {uri : String} (h : isAccepted uri = true) :
    ∃ kind, choose uri = .ok (kind, describe kind uri) := by
  rw [← kind?_isSome, Option.isSome_iff_exists] at h
  obtain ⟨kind, hkind⟩ := h
  exact ⟨kind, by rw [choose, hkind]⟩

end BrokerUri

/-! ## What checks ask for -/

lemma QueueConfig.validate_eq_ok {config : QueueConfig} : config.validate = .ok () ↔
    BrokerUri.isAccepted config.brokerUri = true ∧ QueueName.validate config.queueName = .ok () ∧
      config.connectAttempts ≠ 0 ∧ config.timeouts.validate = .ok () := by
  unfold validate
  cases BrokerUri.isAccepted config.brokerUri <;> by_cases hattempts : config.connectAttempts = 0 <;>
    simp [except_check_eq_ok, except_throw_eq, hattempts]

lemma Timeouts.validate_eq_ok {t : Timeouts} : t.validate = .ok () ↔ t.connectMs ≠ 0 ∧ t.requestMs ≠ 0 := by
  unfold validate
  by_cases hconnect : t.connectMs = 0 <;> by_cases hrequest : t.requestMs = 0 <;> simp [hconnect, hrequest]

/-- Settings of a node make sense if they ask for something, and those of each relay make sense. -/
lemma NodeConfig.validate_eq_ok {config : NodeConfig} : config.validate = .ok () ↔
    (config.direct.isSome ∨ config.queue.isSome) ∧ (∀ d, config.direct = some d → d.validate = .ok ()) ∧
      ∀ q, config.queue = some q → q.validate = .ok () := by
  obtain ⟨direct, queue⟩ := config
  unfold validate
  cases direct <;> cases queue <;> simp [except_check_eq_ok, except_throw_eq, except_pure_eq]

end MessageRelay
