import MessageRelay.Decimal.Whole
import MessageRelay.Net.Url
import MessageRelay.Text.SmallLetters

/-!
# The address of a broker

Where a broker is reached follows from its URL, which also has credentials, the name of a virtual
host and settings of the connection.  These have to make sense although they do not matter here: what
is written with percent signs has to be text, and settings have to be numbers in range, or a way of
logging in that is known.
-/

namespace MessageRelay

/-- Where a broker is reached. -/
structure BrokerAddress where
  /-- The host. -/
  host : Host
  /-- The port. -/
  port : Nat
  deriving DecidableEq, Repr

namespace BrokerAddress

/-- Why a text does not say where a broker is reached. -/
inductive Fault where
  /-- It is no URL. -/
  | badUrl (fault : Url.Fault)
  /-- It leads nowhere. -/
  | nowhere (text : String)
  /-- The scheme is not one of a broker. -/
  | otherScheme (scheme : String)
  /-- A part of the URL is no text. -/
  | notText (fault : Text.Utf8Fault)
  /-- A setting is no number in range. -/
  | badSetting (fault : Decimal.WholeFault)
  /-- Nobody logs in like this. -/
  | badLogin (name : String)
  deriving DecidableEq, Repr

/-- Why a text does not say where a broker is reached, in words. -/
def Fault.describe : Fault → String
  | badUrl fault => fault.describe
  | nowhere text => "Invalid URL: '" ++ text ++ "'"
  | otherScheme scheme => "Invalid AMQP scheme: " ++ scheme
  | notText fault => fault.message
  | badSetting fault => fault.message
  | badLogin name => "Invalid SASL mechanism: " ++ name

/-- The default port of a scheme of brokers. -/
def defaultPort? (scheme : String) : Option Nat :=
  match scheme with
  | "amqp" => some 5672
  | "amqps" => some 5671
  | _ => none

/-- The settings that are numbers, with the greatest values that they can have, in the order in which
they are looked at. -/
def numbers : List (String × Nat) :=
  [("frame_max", UInt32.size - 1), ("channel_max", UInt16.size - 1),
    ("heartbeat", UInt16.size - 1), ("connection_timeout", UInt64.size - 1)]

/-- The ways of logging in. -/
def logins : List String :=
  ["amqplain", "anonymous", "external", "plain", "rabbit-cr-demo"]

/-- The text behind percent signs. -/
def textOf (cs : List Char) : Except Fault String :=
  (Text.percentDecode cs).mapError .notText

/-- Looks at a setting that is a number, if it is given. -/
def checkNumber (fields : List (String × String)) (setting : String × Nat) : Except Fault Unit :=
  match fields.lookup setting.1 with
  | none => .ok ()
  | some value =>
    match Decimal.readUnsigned setting.2 value with
    | .ok _ => .ok ()
    | .error fault => .error (.badSetting fault)

/-- Looks at the way of logging in, if it is given.  Its case does not matter. -/
def checkLogin (fields : List (String × String)) : Except Fault Unit :=
  match fields.lookup "auth_mechanism" with
  | none => .ok ()
  | some value =>
    let name := Text.lowercase value
    if logins.contains name then .ok () else .error (.badLogin name)

/-- The host of a broker; without one it is this machine. -/
def hostOf : Option Host → Except Fault Host
  | none => .ok (.name "localhost".toList)
  | some (.name cs) => (textOf cs).map fun name => .name name.toList
  | some host => .ok host

/-- The name of the virtual host: the path without the slash at its front. -/
def virtualHost (names : List (List Char)) : List Char :=
  ['/'].intercalate names

/-- Where the broker with the given URL is reached. -/
def parse (text : String) : Except Fault BrokerAddress := do
  let url ← (Url.parse text).mapError .badUrl
  match url.path with
  | .bare => throw (.nowhere text)
  | .names names =>
    match defaultPort? url.scheme with
    | none => throw (.otherScheme url.scheme)
    | some defaultPort =>
      let _ ← textOf url.user
      let _ ← textOf url.password
      let host ← hostOf url.host
      let _ ← textOf (virtualHost names)
      let fields := Text.formFields url.query
      numbers.forM (checkNumber fields)
      checkLogin fields
      return { host, port := url.port.getD defaultPort }

end BrokerAddress

end MessageRelay
