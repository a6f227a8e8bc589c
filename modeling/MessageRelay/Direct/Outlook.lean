import MessageRelay.Config.Direct
import MessageRelay.Direct.Server

/-!
# Bringing up a direct relay

A direct relay listens for peers first and then connects to its own peer, for which it has a number of
tries with a pause between any two.  A peer is reached at an endpoint; an endpoint that is no URI is
refused right away.

What the system does with an address and whether a peer can be reached is not part of this program.
Here it may be anything.
-/

namespace MessageRelay.Direct

/-- What a direct relay meets outside of this program.  Tries to reach somebody are counted from 0. -/
structure Outlook where
  /-- Whether an address can be listened on, or why not. -/
  bind : SocketAddress → Except String Unit
  /-- The address that a server has got which asked for the given one, or why it is not known. -/
  boundAddress : SocketAddress → Except String SocketAddress
  /-- Whether a try reaches the peer at an endpoint, or why not. -/
  peer : String → Nat → Except String Unit

/-- Addresses of this machine can be listened on, and nobody can be reached. -/
def offline : Outlook where
  bind _ := .ok ()
  boundAddress address := .ok address
  peer _ _ := .error "transport error"

/-- Addresses of this machine can be listened on, and everybody can be reached. -/
def online : Outlook :=
  { offline with peer := fun _ _ => .ok () }

variable (outlook : Outlook)

/-- Starts a server in the given state, which listens on an address; the one that it has got is
given. -/
def listen (state : ServerState) (address : SocketAddress) : Except RelayError SocketAddress :=
  if state ≠ .unbound then .error (Host.startError state)
  else
    match outlook.bind address with
    | .error reason =>
      .error ⟨.connectFailure, "failed to bind " ++ address.display ++ ": " ++ reason⟩
    | .ok () =>
      match outlook.boundAddress address with
      | .error reason => .error ⟨.connectFailure, "failed to read bound address: " ++ reason⟩
      | .ok bound => .ok bound

/-- One try to connect to the peer at an endpoint, after `tried` others. -/
def call (endpoint : String) (tried : Nat) : Except RelayError Unit :=
  match Uri.check endpoint with
  | .error fault =>
    .error ⟨.connectFailure, "invalid endpoint '" ++ endpoint ++ "': " ++ fault.describe⟩
  | .ok () =>
    match outlook.peer endpoint tried with
    | .error reason =>
      .error ⟨.connectFailure, "failed to connect to '" ++ endpoint ++ "': " ++ reason⟩
    | .ok () => .ok ()

/-- Tries to connect to the peer at an endpoint, and after that up to `left` times more.  Also gives
the number of pauses. -/
def callAgain (endpoint : String) : Nat → Nat → Except RelayError Unit × Nat
  | 0, tried => (call outlook endpoint tried, 0)
  | left + 1, tried =>
    match call outlook endpoint tried with
    | .ok () => (.ok (), 0)
    | .error _ =>
      let (result, pauses) := callAgain endpoint left (tried + 1)
      (result, pauses + 1)

/-- Brings up a direct relay with a new server.  Gives the address that it listens on, and the number
of milliseconds that this took. -/
def bringUp (config : DirectConfig) : Except RelayError SocketAddress × Nat :=
  match listen outlook .unbound config.listenAddress with
  | .error e => (.error e, 0)
  | .ok address =>
    let (result, pauses) :=
      callAgain outlook config.peerEndpoint (config.connectAttempts.toNat - 1) 0
    (result.map fun () => address, pauses * config.retryDelayMs.toNat)

end MessageRelay.Direct
