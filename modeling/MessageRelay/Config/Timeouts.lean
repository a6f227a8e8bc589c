import MessageRelay.Error
import MessageRelay.Json.Value
import MessageRelay.Json.Writer

/-!
# Timeouts

Making a connection and each single call have an upper bound of their own, in milliseconds.  A bound
of zero makes no sense and is refused.
-/

namespace MessageRelay

/-- How long a relay waits. -/
structure Timeouts where
  /-- The bound for making a connection. -/
  connectMs : UInt64 := 5000
  /-- The bound for a single call. -/
  requestMs : UInt64 := 10000
  deriving DecidableEq, Repr

/-- A configuration that makes no sense, for the given reason. -/
def RelayError.config (reason : String) : RelayError :=
  ⟨.configError, reason⟩

namespace Timeouts

/-- Refuses bounds of zero. -/
def validate (t : Timeouts) : Except RelayError Unit :=
  if t.connectMs = 0 then .error (.config "connect_timeout_ms must be greater than 0")
  else if t.requestMs = 0 then .error (.config "request_timeout_ms must be greater than 0")
  else .ok ()

/-- How timeouts are written in a configuration. -/
def shape : Json.Shape Timeouts where
  expected := "struct TransportTimeouts"
  members := [
    ⟨"connect_timeout_ms", fun t => return { t with connectMs := (← Json.nat64).toUInt64 }⟩,
    ⟨"request_timeout_ms", fun t => return { t with requestMs := (← Json.nat64).toUInt64 }⟩]

/-- Reads timeouts; what is not given takes its default. -/
def reader : Json.Reader Timeouts :=
  Json.record shape {}

/-- The JSON form of timeouts, with all members. -/
def json (t : Timeouts) : String :=
  Json.object [("connect_timeout_ms", Json.nat t.connectMs.toNat),
    ("request_timeout_ms", Json.nat t.requestMs.toNat)]

end Timeouts

end MessageRelay
