/-!
# Socket addresses

The address a relay listens on: an IPv4 or IPv6 address and a port.  Both kinds are read and written
in their usual notation.  Writing is canonical: hexadecimal digits are small, and the first of the
longest runs of at least two zero groups of an IPv6 address is left out.
-/

namespace MessageRelay

/-- An IPv4 address. -/
structure Ipv4 where
  /-- The first byte. -/
  a : UInt8
  /-- The second byte. -/
  b : UInt8
  /-- The third byte. -/
  c : UInt8
  /-- The fourth byte. -/
  d : UInt8
  deriving DecidableEq, Repr

/-- An IPv6 address. -/
structure Ipv6 where
  /-- The eight groups of sixteen bits. -/
  groups : Vector UInt16 8
  deriving DecidableEq, Repr

/-- An address to listen on. -/
inductive SocketAddress where
  /-- An IPv4 address with a port. -/
  | v4 (ip : Ipv4) (port : UInt16)
  /-- An IPv6 address with a scope and a port. -/
  | v6 (ip : Ipv6) (scope : UInt32) (port : UInt16)
  deriving DecidableEq, Repr

/-! ## Writing -/

/-- An IPv4 address in dotted notation. -/
def Ipv4.display (ip : Ipv4) : String :=
  ".".intercalate ([ip.a, ip.b, ip.c, ip.d].map fun x => toString x.toNat)

namespace Ipv6

/-- The number of zero groups that a list starts with. -/
def zeroRun (groups : List UInt16) : Nat :=
  (groups.takeWhile (· == 0)).length

/-- The start and the length of the first of the longest runs of zero groups; `start` is the
position of the first group given. -/
def longestRun (start : Nat) : List UInt16 → Nat × Nat
  | [] => (start, 0)
  | g :: rest =>
    let here := zeroRun (g :: rest)
    let later := longestRun (start + 1) rest
    if here < later.2 then later else (start, here)

/-- Groups with colons between them. -/
def joinGroups (groups : List UInt16) : String :=
  ":".intercalate (groups.map fun g => String.ofList (Nat.toDigits 16 g.toNat))

/-- The IPv4 address that an IPv6 address stands for, if it is a mapped one. -/
def mapped? (ip : Ipv6) : Option Ipv4 :=
  match ip.groups.toList with
  | [0, 0, 0, 0, 0, 0xFFFF, x, y] =>
    some ⟨(x >>> 8).toUInt8, x.toUInt8, (y >>> 8).toUInt8, y.toUInt8⟩
  | _ => none

/-- An IPv6 address in its usual notation. -/
def display (ip : Ipv6) : String :=
  match ip.mapped? with
  | some v4 => "::ffff:" ++ v4.display
  | none =>
    let groups := ip.groups.toList
    let run := longestRun 0 groups
    if 1 < run.2 then
      joinGroups (groups.take run.1) ++ "::" ++ joinGroups (groups.drop (run.1 + run.2))
    else joinGroups groups

end Ipv6

/-- A socket address in its usual notation. -/
def SocketAddress.display : SocketAddress → String
  | v4 ip port => ip.display ++ ":" ++ toString port.toNat
  | v6 ip scope port =>
    let zone := if scope = 0 then "" else "%" ++ toString scope.toNat
    "[" ++ ip.display ++ zone ++ "]:" ++ toString port.toNat

/-! ## Reading -/

namespace SocketAddress

/-- The value of a digit of the given base, which is at most 16. -/
def digit? (base : Nat) (c : Char) : Option Nat :=
  let value? :=
    if '0' ≤ c ∧ c ≤ '9' then some (c.toNat - 48)
    else if 'a' ≤ c ∧ c ≤ 'f' then some (c.toNat - 87)
    else if 'A' ≤ c ∧ c ≤ 'F' then some (c.toNat - 55)
    else none
  value?.filter (· < base)

/-- Takes the digits that follow and gives their number, the value they denote and the rest. -/
def takeDigits (base : Nat) (count value : Nat) : List Char → Nat × Nat × List Char
  | [] => (count, value, [])
  | c :: rest =>
    match digit? base c with
    | some d => takeDigits base (count + 1) (value * base + d) rest
    | none => (count, value, c :: rest)

/-- Takes a number of at most `width` digits below `bound`. -/
def takeNumber (base : Nat) (width : Option Nat) (zeros : Bool) (bound : Nat) (cs : List Char) :
    Option (Nat × List Char) :=
  let (count, value, rest) := takeDigits base 0 0 cs
  let fits := (width.map fun w => decide (count ≤ w)).getD true
  let leadingZero := 1 < count && cs.head? == some '0'
  if count = 0 || !fits || (leadingZero && !zeros) || bound ≤ value then none
  else some (value, rest)

/-- Takes the given character. -/
def takeChar (c : Char) : List Char → Option (List Char)
  | [] => none
  | x :: rest => if x = c then some rest else none

/-- Takes one byte of an IPv4 address; it has no leading zeros. -/
def takeByte (cs : List Char) : Option (UInt8 × List Char) :=
  (takeNumber 10 (some 3) false 256 cs).map fun r => (r.1.toUInt8, r.2)

/-- Takes an IPv4 address. -/
def takeIpv4 (cs : List Char) : Option (Ipv4 × List Char) := do
  let (a, cs) ← takeByte cs
  let (b, cs) ← takeByte (← takeChar '.' cs)
  let (c, cs) ← takeByte (← takeChar '.' cs)
  let (d, cs) ← takeByte (← takeChar '.' cs)
  pure (⟨a, b, c, d⟩, cs)

/-- Takes the colon that stands in front of every group but the first. -/
def takeSeparator (first : Bool) (cs : List Char) : Option (List Char) :=
  if first then some cs else takeChar ':' cs

/-- Takes up to `room` groups of an IPv6 address; the last two of them may be written as an IPv4
address, which the second component tells. -/
def takeGroups (first : Bool) : Nat → List Char → List UInt16 × Bool × List Char
  | 0, cs => ([], false, cs)
  | room + 1, cs =>
    let embedded :=
      if room = 0 then none
      else (takeSeparator first cs).bind takeIpv4
    match embedded with
    | some (ip, rest) =>
      let high := ip.a.toUInt16 * 256 + ip.b.toUInt16
      let low := ip.c.toUInt16 * 256 + ip.d.toUInt16
      ([high, low], true, rest)
    | none =>
      match (takeSeparator first cs).bind (takeNumber 16 (some 4) true 65536) with
      | some (value, rest) =>
        let (more, ipv4, rest') := takeGroups false room rest
        (value.toUInt16 :: more, ipv4, rest')
      | none => ([], false, cs)

/-- Eight groups as an address. -/
def ofGroups? (groups : List UInt16) : Option Ipv6 :=
  if h : groups.length = 8 then some ⟨⟨groups.toArray, by simpa using h⟩⟩ else none

/-- Takes an IPv6 address: eight groups, or fewer with two colons in place of the missing ones. -/
def takeIpv6 (cs : List Char) : Option (Ipv6 × List Char) := do
  let (front, ipv4, rest) := takeGroups true 8 cs
  if front.length = 8 then return (← ofGroups? front, rest)
  if ipv4 then none
  else
    let rest ← takeChar ':' (← takeChar ':' rest)
    let (back, _, rest) := takeGroups true (7 - front.length) rest
    let gap := List.replicate (8 - front.length - back.length) 0
    return (← ofGroups? (front ++ gap ++ back), rest)

/-- Takes a colon and a port; a port may have leading zeros. -/
def takePort (cs : List Char) : Option (UInt16 × List Char) := do
  let (value, rest) ← takeNumber 10 none true 65536 (← takeChar ':' cs)
  pure (value.toUInt16, rest)

/-- Takes a percent sign and a scope. -/
def takeScope (cs : List Char) : Option (UInt32 × List Char) := do
  let (value, rest) ← takeNumber 10 none true UInt32.size (← takeChar '%' cs)
  pure (value.toUInt32, rest)

/-- Takes an IPv4 address with a port. -/
def takeV4 (cs : List Char) : Option (SocketAddress × List Char) := do
  let (ip, cs) ← takeIpv4 cs
  let (port, cs) ← takePort cs
  pure (.v4 ip port, cs)

/-- Takes an IPv6 address in brackets, with a port. -/
def takeV6 (cs : List Char) : Option (SocketAddress × List Char) := do
  let (ip, cs) ← takeIpv6 (← takeChar '[' cs)
  let (scope, cs) := (takeScope cs).getD (0, cs)
  let (port, cs) ← takePort (← takeChar ']' cs)
  pure (.v6 ip scope port, cs)

/-- The address that a text denotes. -/
def parse? (s : String) : Option SocketAddress :=
  match (takeV4 s.toList).orElse fun _ => takeV6 s.toList with
  | some (address, []) => some address
  | _ => none

/-- The address of all IPv4 interfaces with the given port. -/
def anywhere (port : UInt16) : SocketAddress :=
  .v4 ⟨0, 0, 0, 0⟩ port

end SocketAddress

end MessageRelay
