import MessageRelay.Json.Reader

/-!
# Numbers

A number is read as a significand of 64 bits and a power of ten.  Digits that the significand has no
room for only count for the power.  A number without fraction, exponent and left-over digits is a
whole number; any other becomes a floating point number.
-/

namespace MessageRelay.Json

/-- A decimal digit. -/
def isDigit (c : Char) : Bool :=
  '0' ≤ c && c ≤ '9'

/-- The value of a decimal digit. -/
def digitValue (c : Char) : Nat :=
  c.toNat - 48

/-- Takes all digits that follow. -/
def digits : Reader (List Char) :=
  fun cs => .ok (cs.takeWhile isDigit, cs.dropWhile isDigit)

/-- Appends digits to a significand as long as it stays below `2 ^ 64`; also gives the digits for
which there is no room. -/
def absorb (significand : Nat) : List Char → Nat × List Char
  | [] => (significand, [])
  | c :: cs =>
    let grown := significand * 10 + digitValue c
    if grown < UInt64.size then absorb grown cs else (significand, c :: cs)

/-! ## Floating point values -/

/-- The largest power of ten that is a finite floating point number. -/
def maxPower : Nat := 308

/-- A power of ten. -/
def powerOfTen (n : Nat) : Float :=
  Float.ofScientific 1 false n

/-- Divides by a power of ten, in steps when it is too large for one. -/
def divideByPower : Nat → Float → Nat → Float
  | 0, x, _ => x
  | fuel + 1, x, n =>
    if n ≤ maxPower then x / powerOfTen n
    else if x == 0.0 then x
    else divideByPower fuel (x / powerOfTen maxPower) (n - maxPower)

/-- A significand times a power of ten, unless it exceeds every floating point number. -/
def scaled? (significand : Nat) (exponent : Int) : Option Float :=
  let x := significand.toUInt64.toFloat
  if exponent < 0 then some (divideByPower 8 x exponent.natAbs)
  else if exponent.toNat ≤ maxPower then
    let y := x * powerOfTen exponent.toNat
    if y.isInf then none else some y
  else if x == 0.0 then some x
  else none

/-- The floating point number with the given sign, significand and power of ten. -/
def realOf (positive : Bool) (significand : Nat) (exponent : Int) : Reader Number :=
  match scaled? significand exponent with
  | some x => pure (.real (if positive then x else -x))
  | none => fail .hugeNumber

/-! ## Reading -/

/-- Exponents from here on are not counted any more. -/
def exponentLimit : Nat := 0x80000000

/-- The value of an exponent's digits; when it reaches the limit, the digits that were not
looked at. -/
def exponentValue (value : Nat) : List Char → Except (List Char) Nat
  | [] => .ok value
  | c :: cs =>
    let grown := value * 10 + digitValue c
    if grown < exponentLimit then exponentValue grown cs else .error cs

/-- Reads an exponent, whose mark is the next character, and gives the number. -/
def exponentPart (positive : Bool) (significand : Nat) (power : Int) : Reader Number := do
  advance
  let up ← match ← peek with
    | some '+' => advance; pure true
    | some '-' => advance; pure false
    | _ => pure true
  match ← peek with
  | none => fail .endBeforeValue
  | some c =>
    if !isDigit c then failNext .badNumber
    else
      let rest ← get
      match exponentValue 0 (← digits) with
      | .ok e => realOf positive significand (if up then power + e else power - e)
      | .error unseen =>
        if significand ≠ 0 ∧ up then
          throw (.here .hugeNumber (unseen ++ rest.dropWhile isDigit))
        else pure (.real (if positive then 0.0 else -0.0))

/-- Reads what follows the digits of the whole part, when it makes the number a fraction. -/
def fractionPart (positive : Bool) (significand : Nat) (power : Int) : Reader Number := do
  advance
  let ds ← digits
  if ds.isEmpty then
    match ← peek with
    | some _ => failNext .badNumber
    | none => failNext .endBeforeValue
  else
    let (grown, unused) := absorb significand ds
    let power' := power - (ds.length - unused.length : Nat)
    match ← peek with
    | some 'e' | some 'E' => exponentPart positive grown power'
    | _ => realOf positive grown power'

/-- A whole number with the given sign; zero has no negative, and neither has a magnitude beyond
`2 ^ 63`. -/
def wholeNumber (positive : Bool) (significand : Nat) : Number :=
  if positive then .natural significand
  else if 0 < significand ∧ significand ≤ 0x8000000000000000 then .negative significand
  else .real (-significand.toUInt64.toFloat)

/-- Reads what follows the digits of the whole part. -/
def afterWhole (positive : Bool) (significand : Nat) (unused : List Char) : Reader Number := do
  match ← peek with
  | some '.' => fractionPart positive significand unused.length
  | some 'e' | some 'E' => exponentPart positive significand unused.length
  | _ =>
    if unused.isEmpty then pure (wholeNumber positive significand)
    else realOf positive significand unused.length

/-- Reads a number whose sign has been passed. -/
def number (positive : Bool) : Reader Number := do
  match ← peek with
  | none => fail .endBeforeValue
  | some '0' =>
    advance
    match ← peek with
    | some c => if isDigit c then failNext .badNumber else afterWhole positive 0 []
    | none => afterWhole positive 0 []
  | some c =>
    if isDigit c then
      let (significand, unused) := absorb 0 (← digits)
      afterWhole positive significand unused
    else failNext .badNumber

/-! ## Passing over numbers -/

/-- Passes over an exponent, whose mark is the next character. -/
def skipExponentPart : Reader Unit := do
  advance
  match ← peek with
  | some '+' | some '-' => advance
  | _ => pure ()
  match ← peek with
  | none => fail .badNumber
  | some c => if isDigit c then discard digits else failNext .badNumber

/-- Passes over a fraction, whose point is the next character. -/
def skipFractionPart : Reader Unit := do
  advance
  let ds ← digits
  if ds.isEmpty then failNext .badNumber
  else
    match ← peek with
    | some 'e' | some 'E' => skipExponentPart
    | _ => pure ()

/-- Passes over what follows the digits of the whole part. -/
def skipAfterWhole : Reader Unit := do
  match ← peek with
  | some '.' => skipFractionPart
  | some 'e' | some 'E' => skipExponentPart
  | _ => pure ()

/-- Passes over a number whose sign has been passed. -/
def skipNumber : Reader Unit := do
  match ← peek with
  | none => fail .badNumber
  | some '0' =>
    advance
    match ← peek with
    | some c => if isDigit c then failNext .badNumber else skipAfterWhole
    | none => skipAfterWhole
  | some c =>
    if isDigit c then
      discard digits
      skipAfterWhole
    else failNext .badNumber

end MessageRelay.Json
