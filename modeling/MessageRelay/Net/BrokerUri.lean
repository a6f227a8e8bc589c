import MessageRelay.Error
import MessageRelay.Text.Split

/-!
# Broker URIs

The scheme of a URI says which kind of broker it names.  A URI may hold credentials, which are never
shown: what stands between the scheme and the last `@` is replaced.
-/

namespace MessageRelay

/-- The kinds of brokers that a relay can use. -/
inductive BrokerKind where
  /-- A broker inside this program. -/
  | memory
  /-- A broker reached over the network. -/
  | amqp
  deriving DecidableEq, Repr

namespace BrokerUri

/-- The schemes of the URIs that name a broker. -/
def schemes : List String := ["amqp://", "amqps://", "memory://"]

/-- Whether a URI names a broker. -/
def isAccepted (uri : String) : Bool :=
  schemes.any fun scheme => Text.startsWith uri scheme

/-- The kind of broker that a URI names. -/
def kind? (uri : String) : Option BrokerKind :=
  if Text.startsWith uri "memory://" then some .memory
  else if Text.startsWith uri "amqp://" || Text.startsWith uri "amqps://" then some .amqp
  else none

/-- The mark between the scheme and the rest of a URI. -/
def schemeMark : List Char := "://".toList

/-- A URI without its credentials, character by character. -/
def redactChars (uri : List Char) : List Char :=
  match Text.cutFirst? schemeMark uri with
  | none => uri
  | some (scheme, rest) =>
    match Text.cutLast? '@' rest with
    | none => uri
    | some (_, host) => scheme ++ schemeMark ++ "***@".toList ++ host

/-- A URI without its credentials. -/
def redact (uri : String) : String :=
  String.ofList (redactChars uri.toList)

/-- What a broker is called in messages. -/
def describe (kind : BrokerKind) (uri : String) : String :=
  match kind with
  | .memory => "memory://"
  | .amqp => redact uri

/-- The kind of broker that a URI names and what it is called; other URIs are refused. -/
def choose (uri : String) : Except RelayError (BrokerKind × String) :=
  match kind? uri with
  | some kind => .ok (kind, describe kind uri)
  | none => .error ⟨.configError, "unsupported broker uri '" ++ uri ++ "'"⟩

end BrokerUri

end MessageRelay
