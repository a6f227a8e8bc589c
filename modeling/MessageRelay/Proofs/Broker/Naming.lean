import MessageRelay.Proofs.Broker.Conservation

/-!
# Names of queues

A queue is declared only when there is none of its name, so no two queues ever have the same name
(`step_named`), and what is found under a name is all that there is under it.
-/

namespace MessageRelay.Broker

variable {b : Broker} {name : String} {q : Queue}

/-- No two queues have the same name. -/
def Named (b : Broker) : Prop :=
  (b.queues.map (·.1)).Nodup

lemma setQueue_names (b : Broker) (name : String) (q : Queue) :
    (b.setQueue name q).queues.map (·.1) = b.queues.map (·.1) := by
  rw [setQueue, List.map_map]
  refine List.map_congr_left fun p _ => ?_
  rw [Function.comp_apply]
  split <;> rfl

lemma route_names (b : Broker) (name : String) (payload : Bytes) :
    (b.route name payload).queues.map (·.1) = b.queues.map (·.1) := by
  unfold route
  split
  · exact setQueue_names b name _
  · rfl

lemma consume_names (b : Broker) (session : Nat) (name : String) (mode : AckMode) :
    (b.consume session name mode).2.queues.map (·.1) = b.queues.map (·.1) := by
  rcases consume_cases b session name mode with ⟨e, heq⟩ | ⟨q, -, -, heq⟩ <;> rw [heq]
  exact routeAll_induction (P := fun b' => b'.queues.map (·.1) = b.queues.map (·.1)) _
    (fun b' payload h => by rw [route_names, h]) (setQueue_names _ _ _)

lemma close_names (b : Broker) (session : Nat) :
    (b.close session).queues.map (·.1) = b.queues.map (·.1) := by
  cases hopen : b.isOpen session with
  | false => rw [close_of_not_open hopen]
  | true =>
    rw [close_of_open hopen]
    refine releaseQueues_induction (P := fun b' => b'.queues.map (·.1) = b.queues.map (·.1)) session _
      (fun b' name q _ h => ?_) (fun b' name payload h => ?_) rfl
    · rw [dismiss, setQueue_names, h]
    · rw [route_names, h]

lemma Named.declared (h : b.Named) (hnone : b.queue? name = none) : (b.declared name).Named := by
  have hnew : name ∉ b.queues.map (·.1) := by
    intro hmem
    obtain ⟨p, hp, heq⟩ := List.mem_map.1 hmem
    have hne := List.lookup_eq_none_iff.1 hnone p hp
    rw [heq, bne_self_eq_false] at hne
    cases hne
  rw [Named, Broker.declared, List.map_append]
  exact List.nodup_append.2 ⟨h, List.nodup_singleton name, fun a ha c hc => by
    rw [List.mem_singleton.1 hc]
    exact ne_of_mem_of_not_mem ha hnew⟩

lemma connect_names (b : Broker) : b.connect.2.queues.map (·.1) = b.queues.map (·.1) := by
  unfold connect
  split
  · rfl
  · split <;> rfl

lemma step_named (desk : Desk) (c : Desk.Command) (h : desk.broker.Named) :
    (desk.step c).2.broker.Named := by
  have heffect := desk.step_effect c
  generalize (desk.step c).2 = desk' at heffect ⊢
  have hkept : desk'.broker.queues.map (·.1) = desk.broker.queues.map (·.1) → desk'.broker.Named := by
    intro heq
    rw [Named, heq]
    exact h
  cases heffect with
  | nothing | next | forget | dropStream | refuseConnects | refuseChannel => exact h
  | connect => exact hkept (connect_names _)
  | declare _ hnone => exact h.declared hnone
  | consume session queue mode => exact hkept (consume_names ..)
  | publish _ queue payload | inject queue payload => exact hkept (route_names ..)
  | close session => exact hkept (close_names ..)
  | settle | stats => exact hkept (setQueue_names ..)

/-- To put a queue where it is changes nothing. -/
lemma setQueue_self (h : b.Named) (hq : b.queue? name = some q) : b.setQueue name q = b := by
  have hsame : (b.queues.map fun p => if p.1 = name then (p.1, q) else p) = b.queues := by
    refine (List.map_congr_left fun p hp => ?_).trans (List.map_id' _)
    split
    · next heq =>
      obtain ⟨before, after, hqueues, -⟩ := List.lookup_eq_some_iff.1 hq
      have hmem : (name, q) ∈ b.queues := by rw [hqueues]; simp
      have hp' := List.inj_on_of_nodup_map h hp hmem heq
      rw [hp']
    · rfl
  rw [setQueue, hsame]

end MessageRelay.Broker
