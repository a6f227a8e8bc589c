import MessageRelay.Net.SocketAddress
import MessageRelay.Text.Percent
import MessageRelay.Text.Punycode

/-!
# Hosts

The host of a URL is a name, or an address in the notation of IPv4 or, between brackets, of IPv6.
In a URL of one of the best known schemes a name is a domain name: it is given in any case and any
script, and is brought into one form before anybody looks at it.  In other URLs a name is kept as it
is, and an IPv4 address is a name.
-/

namespace MessageRelay

/-- The host of a URL. -/
inductive Host where
  /-- A name. -/
  | name (cs : List Char)
  /-- An IPv4 address, as a number of 32 bits. -/
  | ipv4 (address : Nat)
  /-- An IPv6 address. -/
  | ipv6 (address : Ipv6)
  deriving DecidableEq, Repr

namespace Host

/-- Why a text is no host. -/
inductive Fault where
  /-- There is no host where one is needed. -/
  | empty
  /-- The name holds a character that no name has. -/
  | badCharacter
  /-- The name is no domain name. -/
  | badDomain
  /-- The name ends as an IPv4 address does and is none. -/
  | badIpv4
  /-- The brackets do not hold an IPv6 address. -/
  | badIpv6
  deriving DecidableEq, Repr

/-- Why a text is no host, in words. -/
def Fault.describe : Fault → String
  | empty => "empty host"
  | badCharacter => "invalid domain character"
  | badDomain => "invalid international domain name"
  | badIpv4 => "invalid IPv4 address"
  | badIpv6 => "invalid IPv6 address"

/-- The address between brackets. -/
def ofBrackets (cs : List Char) : Except Fault Host :=
  if cs.getLast? = some ']' then
    match SocketAddress.takeIpv6 cs.dropLast with
    | some (address, []) => .ok (.ipv6 address)
    | _ => .error .badIpv6
  else .error .badIpv6

/-! ## Names that are kept as they are -/

/-- Characters that no name has. -/
def isForbidden (c : Char) : Bool :=
  "\x00\t\n\r #/:<>?@[\\]^|".toList.contains c

/-- A host that is kept as it is. -/
def ofPlain (cs : List Char) : Except Fault Host :=
  match cs with
  | '[' :: rest => ofBrackets rest
  | _ => if cs.any isForbidden then .error .badCharacter else .ok (.name cs)

/-! ## IPv4 addresses -/

/-- The digits of a part of an IPv4 address, and their base: hexadecimal digits follow `0x`, and
octal ones a zero. -/
def digitsOf : List Char → Nat × List Char
  | '0' :: 'x' :: digits | '0' :: 'X' :: digits => (16, digits)
  | '0' :: d :: digits => (8, d :: digits)
  | digits => (10, digits)

/-- The value of a digit of a base. -/
def digitValue? (base : Nat) (c : Char) : Option Nat :=
  let value :=
    if c.isDigit then c.toNat - 48
    else if 'a' ≤ c ∧ c ≤ 'f' then c.toNat - 87
    else if 'A' ≤ c ∧ c ≤ 'F' then c.toNat - 55
    else 16
  if value < base then some value else none

/-- The number that a part of an IPv4 address denotes. -/
def partValue? (cs : List Char) : Option Nat :=
  if cs.isEmpty then none
  else
    let (base, digits) := digitsOf cs
    digits.foldl (fun acc c => do return (← acc) * base + (← digitValue? base c)) (some 0)

/-- The address that numbers denote: all but the last one are bytes, and the last one is all that is
left. -/
def ipv4OfParts? (parts : List Nat) : Option Nat :=
  match parts.getLast? with
  | none => none
  | some last =>
    let front := parts.dropLast
    if 3 < front.length ∨ front.any (255 < ·) ∨ Nat.pow 256 (4 - front.length) ≤ last then none
    else some (front.foldl (fun n p => n * 256 + p) 0 * Nat.pow 256 (4 - front.length) + last)

/-- The parts of a name; a dot at its end does not count. -/
def parts (cs : List Char) : List (List Char) :=
  let all := Text.splitAt '.' cs
  if 1 < all.length ∧ all.getLast? = some [] then all.dropLast else all

/-- Whether the last part of a name is a number. -/
def endsInNumber (cs : List Char) : Bool :=
  match (parts cs).getLast? with
  | none => false
  | some last => (!last.isEmpty && last.all Char.isDigit) || (partValue? last).isSome

/-- The IPv4 address that a text denotes. -/
def ipv4? (cs : List Char) : Option Nat :=
  match (parts cs).mapM partValue? with
  | none => none
  | some numbers => ipv4OfParts? numbers

/-! ## Domain names -/

/-- Characters that show nothing and do not count in a domain name. -/
def isIgnored (c : Char) : Bool :=
  [(0xAD, 0xAD), (0x34F, 0x34F), (0x180B, 0x180D), (0x180F, 0x180F), (0x200B, 0x200B),
    (0x2060, 0x2060), (0x2064, 0x2064), (0xFE00, 0xFE0F), (0xFEFF, 0xFEFF),
    (0xE0100, 0xE01EF)].any fun r => r.1 ≤ c.toNat && c.toNat ≤ r.2

/-- Characters that stand for a dot. -/
def isFullStop (c : Char) : Bool :=
  [0x3002, 0xFF0E, 0xFF61].contains c.toNat

/-- The one form of a character: letters are small, the wide forms of ASCII are taken as ASCII, and
spaces of any width as the plain one. -/
def fold (c : Char) : Char :=
  let n := c.toNat
  if isFullStop c then '.'
  else if 0xFF01 ≤ n ∧ n ≤ 0xFF5E then (Char.ofNat (n - 0xFEE0)).toLower
  else if n = 0xA0 ∨ (0x2000 ≤ n ∧ n ≤ 0x200A) ∨ n = 0x202F ∨ n = 0x205F ∨ n = 0x3000 then ' '
  else c.toLower

/-- Characters of ASCII that no domain name has. -/
def isDenied (c : Char) : Bool :=
  c.toNat ≤ 0x20 || c.toNat == 0x7F || "%#/:<>?@[\\]^|".toList.contains c

/-- Characters beyond ASCII that no domain name has: controls, joiners, directions, private ones and
those that are no characters. -/
def isBarred (c : Char) : Bool :=
  [(0x80, 0x9F), (0x61C, 0x61C), (0x180E, 0x180E), (0x200C, 0x200F), (0x2028, 0x202E),
    (0x2061, 0x2063), (0x2065, 0x206F), (0xE000, 0xF8FF), (0xFDD0, 0xFDEF), (0xFFF0, 0xFFFF),
    (0xE0000, 0xE00FF), (0xE01F0, 0x10FFFF)].any fun r => r.1 ≤ c.toNat && c.toNat ≤ r.2

/-- Marks that need a character in front of them. -/
def isMark (c : Char) : Bool :=
  0x300 ≤ c.toNat && c.toNat ≤ 0x36F

/-- Whether a label that was written in ASCII could not have been written so for nothing. -/
def isLabelOfPunycode (cs : List Char) : Bool :=
  match Text.Punycode.decode? cs with
  | none => false
  | some label => label.any (0x80 ≤ ·.toNat) && label.all fun c =>
      !isBarred c && !isDenied c && fold c == c && !isIgnored c

/-- Whether a domain name may have a label. -/
def isLabel (cs : List Char) : Bool :=
  match cs with
  | 'x' :: 'n' :: '-' :: '-' :: rest => rest.getLast? != some '-' && isLabelOfPunycode rest
  | _ => !cs.any isBarred && !(cs.head?.any isMark)

/-- The one form of a domain name, if it is one. -/
def domainForm? (cs : List Char) : Option (List Char) :=
  let form := (cs.filter (!isIgnored ·)).map fold
  if !form.any isDenied && (Text.splitAt '.' form).all isLabel then some form else none

/-- A host that is a domain name or an address. -/
def ofDomain (cs : List Char) : Except Fault Host :=
  match cs with
  | '[' :: rest => ofBrackets rest
  | _ =>
    match (Text.percentDecode cs).toOption.bind fun s => domainForm? s.toList with
    | none => .error .badDomain
    | some [] => .error .empty
    | some form =>
      if endsInNumber form then
        match ipv4? form with
        | some address => .ok (.ipv4 address)
        | none => .error .badIpv4
      else .ok (.name form)

/-! ## Finding hosts -/

/-- Whether a text is an IPv4 address in the notation of the resolver, where every part has a digit
and there is no dot at the end. -/
def isNumeric (cs : List Char) : Bool :=
  cs.getLast? != some '.' && (parts cs).all (fun p => (digitsOf p).2 != []) && (ipv4? cs).isSome

/-- Whether a host is found without asking for it by name: this machine, or an address. -/
def isKnown : Host → Bool
  | name cs => cs.map Char.toLower == "localhost".toList || isNumeric cs
  | ipv4 _ | ipv6 _ => true

/-- Whether the name of a host holds a character. -/
def holds (host : Host) (c : Char) : Bool :=
  match host with
  | name cs => cs.contains c
  | ipv4 _ | ipv6 _ => false

end Host

end MessageRelay
