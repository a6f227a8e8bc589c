import MessageRelay.Config.Timeouts
import MessageRelay.Net.Peer
import MessageRelay.Net.SocketAddress
import MessageRelay.Net.Uri

/-!
# Configuration of a direct relay

Where a relay listens, which peer it talks to, and how patient it is.
-/

namespace MessageRelay

namespace SocketAddress

/-- Reads a socket address. -/
def reader : Json.Reader SocketAddress := do
  match parse? (← Json.textFor "socket address") with
  | some address => pure address
  | none => Json.fail .badSocketAddress

/-- The JSON form of a socket address. -/
def json (a : SocketAddress) : String :=
  Json.string a.display

end SocketAddress

/-- The settings of a direct relay. -/
structure DirectConfig where
  /-- The address to listen on; with port 0 the system chooses a port. -/
  listenAddress : SocketAddress := .anywhere 50051
  /-- The endpoint of the peer. -/
  peerEndpoint : String := Peer.endpoint "127.0.0.1" 50052
  /-- How often a connection is tried. -/
  connectAttempts : UInt32 := 10
  /-- The pause between two tries, in milliseconds. -/
  retryDelayMs : UInt64 := 500
  /-- The bounds for connections and calls. -/
  timeouts : Timeouts := {}
  deriving DecidableEq, Repr

namespace DirectConfig

/-- Refuses settings that make no sense. -/
def validate (c : DirectConfig) : Except RelayError Unit := do
  if !Peer.hasProtocol c.peerEndpoint then
    throw (.config ("peer endpoint '" ++ c.peerEndpoint ++ "' must start with http:// or https://"))
  if !(Uri.check c.peerEndpoint).isOk then
    throw (.config ("invalid peer endpoint '" ++ c.peerEndpoint ++ "': invalid URI"))
  if c.connectAttempts = 0 then throw (.config "connect_attempts must be greater than 0")
  c.timeouts.validate

/-- How the settings are written. -/
def shape : Json.Shape DirectConfig where
  expected := "struct DirectConfig"
  members := [
    ⟨"listen_addr", fun c => return { c with listenAddress := ← SocketAddress.reader }⟩,
    ⟨"peer_endpoint", fun c => return { c with peerEndpoint := ← Json.text }⟩,
    ⟨"connect_attempts", fun c => return { c with connectAttempts := (← Json.nat32).toUInt32 }⟩,
    ⟨"retry_delay_ms", fun c => return { c with retryDelayMs := (← Json.nat64).toUInt64 }⟩,
    ⟨"timeouts", fun c => return { c with timeouts := ← Timeouts.reader }⟩]

/-- Reads the settings; what is not given takes its default. -/
def reader : Json.Reader DirectConfig :=
  Json.record shape {}

/-- The JSON form of the settings, with all members. -/
def json (c : DirectConfig) : String :=
  Json.object [("listen_addr", c.listenAddress.json), ("peer_endpoint", Json.string c.peerEndpoint),
    ("connect_attempts", Json.nat c.connectAttempts.toNat),
    ("retry_delay_ms", Json.nat c.retryDelayMs.toNat), ("timeouts", c.timeouts.json)]

end DirectConfig

end MessageRelay
