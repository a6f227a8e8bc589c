/-!
# The shortest decimal of a binary fraction

A binary floating point number stands for every real number that rounds to it.  Among the decimals
in that interval there are some with the fewest digits, and of those the one closest to the number
is how it is written.

A positive number is given as `m * 2 ^ q`.  Everything below is exact arithmetic on natural numbers:
a fraction is a numerator over a denominator, and powers of two and ten with negative exponents go
to the other side.
-/

namespace MessageRelay.Decimal

/-- A positive finite floating point number `m * 2 ^ q` with a significand of 53 bits at most. -/
structure Binary where
  /-- The significand. -/
  m : Nat
  /-- The exponent of two. -/
  q : Int

/-- The leading bit of a significand, which is `2 ^ 52` and not stored. -/
def Binary.leadingBit : Nat := 0x10000000000000

/-- The significand and the exponent of the magnitude of a finite number. -/
def Binary.ofBits (bits : Nat) : Binary :=
  let mantissa := bits % leadingBit
  let exponent : Nat := bits / leadingBit % 2048
  if exponent = 0 then ⟨mantissa, -1074⟩ else ⟨mantissa + leadingBit, (exponent : Int) - 1075⟩

/-- A positive decimal `digits * 10 ^ exponent`. -/
structure Numeral where
  /-- The digits, as a number. -/
  digits : Nat
  /-- The exponent of ten. -/
  exponent : Int
  deriving DecidableEq, Repr

/-- `a * 2 ^ q` over `b * 10 ^ e` as a numerator and a denominator. -/
def ratio (a : Nat) (q : Int) (b : Nat) (e : Int) : Nat × Nat :=
  (a * Nat.pow 2 q.toNat * Nat.pow 10 (-e).toNat, b * Nat.pow 2 (-q).toNat * Nat.pow 10 e.toNat)

/-- Whether `a * 2 ^ q < b * 10 ^ e`. -/
def lt (a : Nat) (q : Int) (b : Nat) (e : Int) : Bool :=
  let r := ratio a q b e
  r.1 < r.2

/-- Whether `a * 2 ^ q ≤ b * 10 ^ e`. -/
def le (a : Nat) (q : Int) (b : Nat) (e : Int) : Bool :=
  let r := ratio a q b e
  r.1 ≤ r.2

namespace Binary

/-- Whether a decimal rounds to the number.  The interval reaches half way to both neighbours; the
neighbour below is at half the distance when the significand is a power of two, and the ends belong
to it when the significand is even. -/
def covers (x : Binary) (d : Numeral) : Bool :=
  let below := if x.m = leadingBit && x.q != -1074 then 4 * x.m - 1 else 4 * x.m - 2
  let above := 4 * x.m + 2
  if x.m % 2 = 0 then
    le below (x.q - 2) d.digits d.exponent && !lt above (x.q - 2) d.digits d.exponent
  else
    lt below (x.q - 2) d.digits d.exponent && !le above (x.q - 2) d.digits d.exponent

/-- The number of digits before the decimal point: the least `e` with the number below `10 ^ e`, no
smaller than the given one. -/
def scaleFrom (x : Binary) : Nat → Int → Int
  | 0, e => e
  | fuel + 1, e => if lt x.m x.q 1 e then e else scaleFrom x fuel (e + 1)

/-- The number of digits before the decimal point; zero or below for a number below one tenth. -/
def scale (x : Binary) : Int :=
  scaleFrom x 640 (-330)

/-- The better of the two neighbours of the number among the multiples of `10 ^ e` that round to
it, if any does. -/
def neighbour? (x : Binary) (e : Int) : Option Numeral :=
  let r := ratio x.m x.q 1 e
  let down : Numeral := ⟨r.1 / r.2, e⟩
  let up : Numeral := ⟨r.1 / r.2 + 1, e⟩
  match x.covers down, x.covers up with
  | true, true =>
    let rest := 2 * (r.1 % r.2)
    if rest < r.2 then some down
    else if r.2 < rest then some up
    else if down.digits % 2 = 0 then some down else some up
  | true, false => some down
  | false, true => some up
  | false, false => none

/-- The decimal with the fewest digits, from the given number of digits on. -/
def shortestFrom (x : Binary) : Nat → Nat → Numeral
  | 0, _ => ⟨x.m, 0⟩
  | fuel + 1, count =>
    match x.neighbour? (x.scale - count) with
    | some d => d
    | none => shortestFrom x fuel (count + 1)

/-- The decimal with the fewest digits that rounds to the number; seventeen digits always do. -/
def shortest (x : Binary) : Numeral :=
  shortestFrom x 17 1

end Binary

end MessageRelay.Decimal
