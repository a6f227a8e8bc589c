import MessageRelay.Net.Host
import MessageRelay.Text.Split

/-!
# URLs

The parts of a URL: a scheme, credentials, a host, a port, a path and a query.  Blanks and controls
around a URL are of no interest, and neither are tabs and line ends inside it.

The best known schemes have rules of their own.  Their URLs always have a host, the slashes in front
of it may be missing or turned the other way, and the host is a domain name or an address.  The URL
of a file may have a host.  Other URLs have a host if they have two slashes, and a path without any
slash leads nowhere.
-/

namespace MessageRelay

/-- What a URL leads to at its host. -/
inductive UrlPath where
  /-- A text that is no path. -/
  | bare
  /-- Names, one inside the other; there may be none. -/
  | names (segments : List (List Char))
  deriving DecidableEq, Repr

/-- The parts of a URL, each as it was written. -/
structure Url where
  /-- The scheme in small letters. -/
  scheme : String
  /-- The name of the user. -/
  user : List Char := []
  /-- The password of the user. -/
  password : List Char := []
  /-- The host. -/
  host : Option Host := none
  /-- The port, if it is given. -/
  port : Option Nat := none
  /-- The path. -/
  path : UrlPath
  /-- The query. -/
  query : List Char := []
  deriving DecidableEq, Repr

namespace Url

/-- Why a text is no URL. -/
inductive Fault where
  /-- There is no scheme. -/
  | noScheme
  /-- There is something wrong with the host. -/
  | host (fault : Host.Fault)
  /-- The port is not a number below `2 ^ 16`. -/
  | badPort
  deriving DecidableEq, Repr

/-- Why a text is no URL, in words. -/
def Fault.describe : Fault → String
  | noScheme => "relative URL without a base"
  | host fault => fault.describe
  | badPort => "invalid port number"

/-- The rules that a scheme has. -/
inductive Rules where
  /-- The rules of the best known schemes. -/
  | wellKnown
  /-- The rules of files. -/
  | file
  /-- The rules of all others. -/
  | other
  deriving DecidableEq, Repr

/-- The rules of a scheme. -/
def Rules.ofScheme (scheme : String) : Rules :=
  if ["http", "https", "ws", "wss", "ftp"].contains scheme then wellKnown
  else if scheme = "file" then file
  else other

/-! ## Cutting -/

/-- Blanks and controls. -/
def isMargin (c : Char) : Bool :=
  c.toNat ≤ 0x20

/-- A URL without what surrounds it, and without tabs and line ends. -/
def tidy (cs : List Char) : List Char :=
  let trimmed := ((cs.dropWhile isMargin).reverse.dropWhile isMargin).reverse
  trimmed.filter fun c => !(c == '\t' || c == '\n' || c == '\r')

/-- The scheme in small letters, and what follows its colon. -/
def splitScheme (cs : List Char) : Option (String × List Char) :=
  let isSchemeChar (c : Char) : Bool := c.isAlphanum || c == '+' || c == '-' || c == '.'
  match cs.span isSchemeChar with
  | (scheme, ':' :: rest) =>
    if scheme.head?.any Char.isAlpha then some (String.ofList (scheme.map Char.toLower), rest)
    else none
  | _ => none

/-- A slash, either way. -/
def isSlash (c : Char) : Bool :=
  c == '/' || c == '\\'

/-- The characters between two names of a path. -/
def separates (rules : Rules) (c : Char) : Bool :=
  c == '/' || (decide (rules ≠ .other) && c == '\\')

/-- The characters that end an authority. -/
def endsAuthority (rules : Rules) (c : Char) : Bool :=
  separates rules c || c == '?' || c == '#'

/-- The host and what follows it inside an authority: a colon ends it, but not between brackets. -/
def splitHost (inside : Bool) : List Char → List Char × List Char
  | [] => ([], [])
  | c :: rest =>
    if c = ':' ∧ !inside then ([], c :: rest)
    else
      let inside' := if c = '[' then true else if c = ']' then false else inside
      let (host, after) := splitHost inside' rest
      (c :: host, after)

/-! ## Path and query -/

/-- The parts of a path between the characters that separate them. -/
def splitNames (rules : Rules) : List Char → List (List Char)
  | [] => [[]]
  | c :: rest =>
    if separates rules c then [] :: splitNames rules rest
    else
      match splitNames rules rest with
      | [] => [[c]]
      | name :: names => (c :: name) :: names

/-- A name with its dots written as dots. -/
def plainDots : List Char → List Char
  | '%' :: '2' :: 'e' :: rest | '%' :: '2' :: 'E' :: rest => '.' :: plainDots rest
  | c :: rest => c :: plainDots rest
  | [] => []

/-- Follows names from where `inside` leads, innermost first.  One dot stays there and two dots lead
back; a path that ends so ends with a slash. -/
def follow (inside : List (List Char)) : List (List Char) → List (List Char)
  | [] => inside.reverse
  | name :: rest =>
    let left := if plainDots name = ['.', '.'] then some inside.tail
      else if plainDots name = ['.'] then some inside
      else none
    match left, rest with
    | none, _ => follow (name :: inside) rest
    | some outer, [] => ([] :: outer).reverse
    | some outer, _ :: _ => follow outer rest

/-- What stands in front of the query and the fragment. -/
def beforeQuery (cs : List Char) : List Char :=
  cs.takeWhile fun c => c != '?' && c != '#'

/-- The names of a path.  Without a slash at its front it has one all the same. -/
def namesOf (rules : Rules) (cs : List Char) : List (List Char) :=
  match beforeQuery cs with
  | [] => []
  | c :: rest => follow [] (splitNames rules (if separates rules c then rest else c :: rest))

/-- The query of what follows an authority. -/
def queryOf (cs : List Char) : List Char :=
  ((cs.takeWhile (· != '#')).dropWhile (· != '?')).drop 1

/-! ## The authority -/

/-- The port in front of a text, and what follows it. -/
def takePort (value : Option Nat) : List Char → Except Fault (Option Nat × List Char)
  | [] => .ok (value, [])
  | c :: rest =>
    if c.isDigit then
      let next := value.getD 0 * 10 + (c.toNat - 48)
      if next < 65536 then takePort (some next) rest else .error .badPort
    else if isSlash c then .ok (value, c :: rest)
    else .error .badPort

/-- The name and the password in credentials. -/
def splitCredentials (cs : List Char) : List Char × List Char :=
  let (user, rest) := cs.span (· != ':')
  (user, rest.drop 1)

/-- The host of a URL.  Where none is needed there may be none, but then there is nothing else. -/
def hostOf (rules : Rules) (cs : List Char) (alone : Bool) : Except Fault (Option Host) :=
  if cs.isEmpty then
    if alone && decide (rules = .other) then .ok none else .error (.host .empty)
  else
    match if rules = .other then Host.ofPlain cs else Host.ofDomain cs with
    | .ok host => .ok (some host)
    | .error fault => .error (.host fault)

/-- The URL that follows the slashes in front of an authority. -/
def ofAuthority (rules : Rules) (scheme : String) (cs : List Char) : Except Fault Url := do
  let (authority, after) := cs.span (!endsAuthority rules ·)
  let (credentials, place) := (Text.cutLast? '@' authority).getD ([], authority)
  let (user, password) := splitCredentials credentials
  let (hostText, portText) := splitHost false place
  if authority = ['@'] && !after.isEmpty then throw (.host .empty)
  let alone := user.isEmpty && password.isEmpty && portText.isEmpty
  let host ← hostOf rules hostText alone
  let (port, left) ← takePort none (portText.drop 1)
  let rest := left ++ after
  return { scheme, user, password, host, port, path := .names (namesOf rules rest), query := queryOf rest }

/-! ## The whole -/

/-- Whether a text is the letter of a drive, which is no host. -/
def isDrive : List Char → Bool
  | [letter, mark] => letter.isAlpha && (mark == ':' || mark == '|')
  | _ => false

/-- The URL of a file. -/
def ofFile (cs : List Char) : Except Fault Url := do
  let plain (host : Option Host) (rest : List Char) : Url :=
    { scheme := "file", host, path := .names (namesOf .file rest), query := queryOf rest }
  match cs with
  | a :: b :: rest =>
    if isSlash a && isSlash b then
      let (hostText, after) := rest.span (!endsAuthority .file ·)
      if hostText.isEmpty || isDrive hostText then return plain none rest
      let host ← hostOf .file hostText true
      return plain host after
    else return plain none cs
  | _ => return plain none cs

/-- The URL that follows a scheme whose rules are those of most. -/
def ofOther (scheme : String) (cs : List Char) : Except Fault Url :=
  match cs with
  | '/' :: '/' :: rest => ofAuthority .other scheme rest
  | '/' :: _ => .ok { scheme, path := .names (namesOf .other cs), query := queryOf cs }
  | _ => .ok { scheme, path := .bare, query := queryOf cs }

/-- The parts of the URL that a text is. -/
def parse (text : String) : Except Fault Url :=
  match splitScheme (tidy text.toList) with
  | none => .error .noScheme
  | some (scheme, rest) =>
    match Rules.ofScheme scheme with
    | .wellKnown => ofAuthority .wellKnown scheme (rest.dropWhile isSlash)
    | .file => ofFile rest
    | .other => ofOther scheme rest

end Url

end MessageRelay
