import MessageRelay.Broker.Remote
import MessageRelay.Exchange.Command

/-!
# A node on its own

A node that is not given a broker uses the one that its settings name.  A broker inside the program
is then its own, so that the node is alone in an exchange.
-/

namespace MessageRelay.Exchange

/-- Refuses a node whose broker is of no known kind, or is out of reach. -/
def reachBroker (config : NodeConfig) : Except RelayError Unit := do
  match config.queue with
  | none => pure ()
  | some queue =>
    match ← BrokerUri.choose queue.brokerUri with
    | (.memory, _) => pure ()
    | (.amqp, _) =>
      config.validate
      if config.direct.isNone then throw (Remote.relayError queue)

/-- Brings up a node with a broker of its own; it has the number 0. -/
def standalone (config : NodeConfig) : Except RelayError Exchange := do
  reachBroker config
  match ({} : Exchange).step (.newNode config) with
  | (.failed e, _) => throw e
  | (_, _, x) => return x

end MessageRelay.Exchange
