import MessageRelay.Net.BrokerAddress
import MessageRelay.Relay.Link

/-!
# Brokers on the network

A broker on the network is reached at the address in its URI.  There is no network here, so every
try to reach one fails: because the URI is none, because nobody knows where its host is, or because
nothing can be reached.  Messages show the URI without its credentials.
-/

namespace MessageRelay.Remote

/-- Why nothing is reached at a host. -/
def unreachable (host : Host) : String :=
  if host.isKnown then "Network is unreachable (os error 101)"
  else if host.holds '\x00' then "file name contained an unexpected NUL byte"
  else "failed to lookup address information: Temporary failure in name resolution"

/-- Why the broker with the given URI cannot be reached. -/
def connectError (uri : String) (timeoutMs : Nat) : RelayError :=
  let shown := BrokerUri.redact uri
  ⟨.brokerUnavailable,
    match BrokerAddress.parse uri with
    | .error fault => "cannot connect to " ++ shown ++ ": IO error: " ++ fault.describe
    | .ok address =>
      if timeoutMs = 0 then
        "connect to " ++ shown ++ " timed out after " ++ Duration.display timeoutMs
      else "cannot connect to " ++ shown ++ ": IO error: " ++ unreachable address.host⟩

/-- Why a relay with the given settings cannot be connected. -/
def relayError (config : QueueConfig) : RelayError :=
  match config.validate with
  | .error e => e
  | .ok () =>
    let last := connectError config.brokerUri config.timeouts.connectMs.toNat
    ⟨.brokerUnavailable, BrokerUri.redact config.brokerUri ++ " unreachable after " ++
      toString config.connectAttempts.toNat ++ " attempt(s): " ++ last.message⟩

end MessageRelay.Remote
