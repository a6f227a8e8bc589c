import MessageRelay.Direct.Service
import MessageRelay.Net.SocketAddress

/-!
# Listening for peers

A server listens on an address of this machine and hands what comes in to its service.  It can be
started once and is stopped for good.  No two servers listen on the same port at the same time; a
server that asks for port 0 gets one that is free.
-/

namespace MessageRelay.Direct

/-- Where a server is in its life. -/
inductive ServerState where
  /-- It was not started. -/
  | unbound
  /-- It accepts calls. -/
  | listening
  /-- It was stopped. -/
  | stopped
  deriving DecidableEq, Repr

/-- The name of a state. -/
def ServerState.display : ServerState → String
  | unbound => "unbound"
  | listening => "listening"
  | stopped => "stopped"

/-- A server. -/
structure Server where
  /-- The port that it asks for. -/
  wanted : UInt16
  /-- Where it is in its life. -/
  state : ServerState := .unbound
  /-- The port that it has got. -/
  port : Option UInt16 := none
  /-- What it hands calls to. -/
  service : Service
  deriving DecidableEq

/-- The servers of this machine, in the order in which they were created. -/
structure Host where
  /-- The servers. -/
  servers : List Server := []
  /-- The next port that is free. -/
  nextPort : UInt16 := 49152
  deriving DecidableEq

namespace Host

/-- An address of this machine. -/
def localAddress (port : UInt16) : SocketAddress :=
  .v4 ⟨127, 0, 0, 1⟩ port

/-- Whether a server listens on a port. -/
def isTaken (h : Host) (port : UInt16) : Bool :=
  h.servers.any fun s => decide (s.state = .listening) && s.port == some port

/-- Creates a server that asks for a port and has a mailbox of the given size. -/
def create (h : Host) (wanted : UInt16) (capacity : Nat) : Nat × Host :=
  let server : Server := { wanted, service := { mailbox := { capacity } } }
  (h.servers.length, { h with servers := h.servers ++ [server] })

/-- The failure of a start that comes too late. -/
def startError (state : ServerState) : RelayError :=
  ⟨.configError, "cannot start relay server in state '" ++ state.display ++ "'; expected 'unbound'"⟩

/-- The failure of a server whose port is taken. -/
def bindError (port : UInt16) : RelayError :=
  ⟨.connectFailure, "failed to bind " ++ (localAddress port).display ++
    ": Address already in use (os error 98)"⟩

/-- Starts a server; the port that it has got is given. -/
def start (h : Host) (n : Nat) : Except RelayError UInt16 × Host :=
  match h.servers[n]? with
  | none => (.error (startError .stopped), h)
  | some s =>
    if s.state ≠ .unbound then (.error (startError s.state), h)
    else if s.wanted ≠ 0 && h.isTaken s.wanted then (.error (bindError s.wanted), h)
    else
      let port := if s.wanted = 0 then h.nextPort else s.wanted
      let started := { s with state := .listening, port := some port }
      (.ok port,
        { servers := h.servers.set n started
          nextPort := if s.wanted = 0 then h.nextPort + 1 else h.nextPort })

/-- Stops a server.  Everybody who waits for a place in its mailbox is acknowledged. -/
def stop (h : Host) (n : Nat) : Except RelayError Unit × Host :=
  match h.servers[n]? with
  | none => (.ok (), h)
  | some s =>
    match s.state with
    | .unbound =>
      (.error ⟨.configError, "cannot stop a relay server that has not been started"⟩, h)
    | .stopped => (.ok (), h)
    | .listening =>
      let stopped := { s with state := .stopped, service := s.service.signal true }
      (.ok (), { h with servers := h.servers.set n stopped })

/-- Takes all events from the mailbox of a server. -/
def takeEvents (h : Host) (n : Nat) : List Event × Host :=
  match h.servers[n]? with
  | none => ([], h)
  | some s =>
    let (events, m) := s.service.mailbox.take none
    let emptied := { s with service := { s.service with mailbox := m.useGrants } }
    (events, { h with servers := h.servers.set n emptied })

/-- Throws the mailbox of a server away. -/
def discardMailbox (h : Host) (n : Nat) : Host :=
  { h with servers := h.servers.modify n fun s => { s with service := s.service.discardMailbox } }

end Host

end MessageRelay.Direct
