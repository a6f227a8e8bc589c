/-!
# URIs

The address of a peer is a URI.  The rules below say which texts are one: a scheme, an authority,
and then any path and query; what follows a `#` is of no interest.  A text without a scheme may be
an authority alone, or a path alone.
-/

namespace MessageRelay

/-- Why a text is no URI. -/
inductive UriFault where
  /-- It is longer than any URI may be. -/
  | tooLong
  /-- It holds nothing. -/
  | empty
  /-- Its scheme is longer than any scheme may be. -/
  | schemeTooLong
  /-- A character that must not stand where it does. -/
  | badCharacter
  /-- The authority makes no sense. -/
  | badAuthority
  /-- A part is missing, or there is one too many. -/
  | badFormat
  deriving DecidableEq, Repr

/-- Why a text is no URI, in words. -/
def UriFault.describe : UriFault → String
  | tooLong => "uri too long"
  | empty => "empty string"
  | schemeTooLong => "scheme too long"
  | badCharacter => "invalid uri character"
  | badAuthority => "invalid authority"
  | badFormat => "invalid format"

namespace Uri

/-- The most bytes a URI may have. -/
def maxBytes : Nat := 65534

/-- The most characters a scheme may have. -/
def maxScheme : Nat := 64

/-- Small and capital letters of ASCII and digits. -/
def isAlphanumeric (c : Char) : Bool :=
  ('a' ≤ c && c ≤ 'z') || ('A' ≤ c && c ≤ 'Z') || ('0' ≤ c && c ≤ '9')

/-- The characters of a scheme. -/
def isSchemeChar (c : Char) : Bool :=
  isAlphanumeric c || "+-.".toList.contains c

/-- The characters of an authority, the percent sign apart. -/
def isAuthorityChar (c : Char) : Bool :=
  isAlphanumeric c || "!$&'()*+,-.:;=@[]_~".toList.contains c

/-- The characters that end an authority. -/
def endsAuthority (c : Char) : Bool :=
  c == '/' || c == '?' || c == '#'

/-- The characters of a path. -/
def isPathChar (c : Char) : Bool :=
  let n := c.toNat
  n == 0x21 || n == 0x22 || (0x24 ≤ n && n ≤ 0x3B) || n == 0x3D || (0x40 ≤ n && n ≤ 0x5F) ||
    (0x61 ≤ n && n ≤ 0x7E) || 0x80 ≤ n

/-- The characters of a query. -/
def isQueryChar (c : Char) : Bool :=
  let n := c.toNat
  n == 0x21 || (0x24 ≤ n && n ≤ 0x3B) || n == 0x3D || (0x3F ≤ n && n ≤ 0x7E) || 0x80 ≤ n

/-! ## The authority -/

/-- What matters of the part of an authority that has been looked at. -/
structure Authority where
  /-- Colons that may belong to a port. -/
  colons : Nat := 0
  /-- An opening bracket has been passed. -/
  opened : Bool := false
  /-- A closing bracket has been passed. -/
  closed : Bool := false
  /-- There is a percent sign that is not known to be allowed. -/
  percent : Bool := false
  /-- The last character is an at sign. -/
  atSign : Bool := false

namespace Authority

/-- Looks at one more character; `none` when there are too many colons to go on. -/
def step (a : Authority) (c : Char) : Except UriFault (Option Authority) :=
  let a := { a with atSign := c == '@' }
  match c with
  | ':' => .ok (if 8 ≤ a.colons then none else some { a with colons := a.colons + 1 })
  | '[' =>
    if a.percent || a.opened then .error .badAuthority else .ok (some { a with opened := true })
  | ']' =>
    if !a.opened || a.closed then .error .badAuthority
    else .ok (some { a with closed := true, colons := 0, percent := false })
  | '@' => .ok (some { a with colons := 0, percent := false })
  | '%' => .ok (some { a with percent := true })
  | c => if isAuthorityChar c then .ok (some a) else .error .badCharacter

/-- Whether an authority may end here. -/
def isComplete (a : Authority) : Bool :=
  a.opened == a.closed && a.colons ≤ 1 && !a.atSign && !a.percent

/-- The number of characters that the authority takes, and what follows it. -/
def split (a : Authority) (count : Nat) : List Char → Except UriFault (Nat × List Char)
  | [] => if a.isComplete then .ok (count, []) else .error .badAuthority
  | c :: rest =>
    if endsAuthority c then
      if a.isComplete then .ok (count, c :: rest) else .error .badAuthority
    else
      match a.step c with
      | .error f => .error f
      | .ok none => .error .badAuthority
      | .ok (some a') => a'.split (count + 1) rest

end Authority

/-! ## Path and query -/

/-- Looks at a query. -/
def checkQuery : List Char → Except UriFault Unit
  | [] => .ok ()
  | c :: rest =>
    if c = '#' then .ok ()
    else if isQueryChar c then checkQuery rest
    else .error .badCharacter

/-- Looks at a path and the query that may follow. -/
def checkPath : List Char → Except UriFault Unit
  | [] => .ok ()
  | c :: rest =>
    if c = '?' then checkQuery rest
    else if c = '#' then .ok ()
    else if isPathChar c then checkPath rest
    else .error .badCharacter

/-! ## The whole -/

/-- What follows the scheme and its slashes, if there is a scheme.  The mark behind a scheme is no
scheme by itself. -/
def afterScheme (cs : List Char) : Except UriFault (Option (List Char)) :=
  let scheme := cs.takeWhile isSchemeChar
  match cs.drop scheme.length with
  | ':' :: '/' :: '/' :: rest =>
    if maxScheme < scheme.length then .error .schemeTooLong
    else if scheme.isEmpty && rest.isEmpty then .ok none
    else .ok (some rest)
  | _ => .ok none

/-- Looks at a text that is an authority and nothing else.  What is left over is a bad character if
it is all there is, and otherwise a part too many. -/
def checkAuthority (cs : List Char) : Except UriFault Unit := do
  let (_, rest) ← Authority.split {} 0 cs
  if rest.isEmpty then .ok ()
  else if cs.length = 1 then .error .badCharacter
  else .error .badFormat

/-- Looks at what follows a scheme: an authority, which must not be missing, and a path. -/
def checkAfterScheme : List Char → Except UriFault Unit
  | [] => .error .empty
  | cs => do
    let (count, rest) ← Authority.split {} 0 cs
    if count = 0 then .error .badFormat else checkPath rest

/-- Whether a text is a URI, and if not, why. -/
def check (s : String) : Except UriFault Unit :=
  if maxBytes < s.utf8ByteSize then .error .tooLong
  else
    match s.toList with
    | [] => .error .empty
    | ['*'] => .ok ()
    | '/' :: rest => checkPath ('/' :: rest)
    | cs => do
      match ← afterScheme cs with
      | none => checkAuthority cs
      | some rest => checkAfterScheme rest

end Uri

end MessageRelay
