import MessageRelay.Decimal.Shortest

/-!
# Writing floating point numbers

A floating point number is written with the fewest digits that read back.  Between `10 ^ -5` and
`10 ^ 16` it is written in positions, with at least one digit after the point; outside it has an
exponent that always has a sign.
-/

namespace MessageRelay.Decimal

/-- The digits of a number without the zeros at its end, and how many zeros there were. -/
def stripZeros (digits : List Char) : List Char :=
  (digits.reverse.dropWhile (· == '0')).reverse

/-- Digits with a point after the given number of them; zeros fill up on either side. -/
def positional (digits : List Char) (point : Int) : List Char :=
  if point ≤ 0 then
    "0.".toList ++ List.replicate (-point).toNat '0' ++ digits
  else
    let whole := digits.take point.toNat
    let fraction := digits.drop point.toNat
    whole ++ List.replicate (point.toNat - whole.length) '0' ++ ['.'] ++
      (if fraction.isEmpty then ['0'] else fraction)

/-- Digits in exponent form, with a point after the first digit if there are more. -/
def exponential (digits : List Char) (point : Int) : List Char :=
  let e := point - 1
  let sign := if e < 0 then '-' else '+'
  let fraction := digits.drop 1
  digits.take 1 ++ (if fraction.isEmpty then [] else '.' :: fraction) ++ ['e', sign] ++
    Nat.toDigits 10 e.natAbs

/-- The written form of a positive decimal. -/
def Numeral.render (d : Numeral) : List Char :=
  let all := Nat.toDigits 10 d.digits
  let point := all.length + d.exponent
  let digits := stripZeros all
  if -5 < point ∧ point ≤ 16 then positional digits point else exponential digits point

/-- The written form of a finite floating point number. -/
def ofFloat (x : Float) : String :=
  let bits := x.toBits.toNat
  let sign := if bits / 0x8000000000000000 = 1 then ['-'] else []
  let magnitude := Binary.ofBits (bits % 0x8000000000000000)
  String.ofList (sign ++
    if magnitude.m = 0 then "0.0".toList else magnitude.shortest.render)

end MessageRelay.Decimal
