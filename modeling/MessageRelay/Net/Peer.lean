import MessageRelay.Text.Split

/-!
# Peers

A peer is named by a host and a port, or right away by its endpoint, a URI with one of the two
protocols that a relay speaks.
-/

namespace MessageRelay

namespace Peer

/-- Whether an endpoint names its protocol, as it has to. -/
def hasProtocol (endpoint : String) : Bool :=
  Text.startsWith endpoint "http://" || Text.startsWith endpoint "https://"

/-- The endpoint of a host and a port. -/
def endpoint (host : String) (port : Nat) : String :=
  "http://" ++ host ++ ":" ++ toString port

/-- Why a text does not name a peer. -/
inductive Fault where
  /-- There is no colon. -/
  | noPort
  /-- Nothing stands before the last colon. -/
  | noHost
  /-- What stands behind the last colon is no port. -/
  | badPort
  deriving DecidableEq, Repr

/-- Why a text does not name a peer, in words. -/
def Fault.message (fault : Fault) (peer : String) : String :=
  "peer '" ++ peer ++ "' " ++
    match fault with
    | noPort => "must be host:port"
    | noHost => "has an empty host"
    | badPort => "has an invalid port"

/-- The number that decimal digits denote, after those already read. -/
def decimal? (value : Nat) : List Char → Option Nat
  | [] => some value
  | c :: rest =>
    if '0' ≤ c ∧ c ≤ '9' then decimal? (value * 10 + (c.toNat - 48)) rest else none

/-- The port that a text denotes: digits, possibly after a plus sign, of a value below `2 ^ 16`. -/
def port? (cs : List Char) : Option Nat :=
  let digits := match cs with
    | '+' :: rest => rest
    | cs => cs
  if digits.isEmpty then none else (decimal? 0 digits).filter (· < 65536)

/-- The endpoint of a peer given as a host and a port, or already as an endpoint. -/
def parse (peer : String) : Except Fault String :=
  if hasProtocol peer then .ok peer
  else
    match Text.cutLast? ':' peer.toList with
    | none => .error .noPort
    | some (host, port) =>
      if host.isEmpty then .error .noHost
      else
        match port? port with
        | none => .error .badPort
        | some n => .ok (endpoint (String.ofList host) n)

end Peer

end MessageRelay
