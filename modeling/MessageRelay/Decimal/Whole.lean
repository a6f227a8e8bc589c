/-!
# Whole numbers from text

A whole number is written with decimal digits, possibly after a sign.  Digits are read one by one;
reading ends at the first one that is none, or as soon as the number leaves the range it has to stay
in.
-/

namespace MessageRelay.Decimal

/-- Why a text denotes no whole number of the kind asked for. -/
inductive WholeFault where
  /-- There is nothing. -/
  | empty
  /-- Something is no digit. -/
  | badDigit
  /-- The number is too large. -/
  | tooLarge
  /-- The number is too small. -/
  | tooSmall
  deriving DecidableEq, Repr

/-- What a person is told. -/
def WholeFault.message : WholeFault → String
  | empty => "cannot parse integer from empty string"
  | badDigit => "invalid digit found in string"
  | tooLarge => "number too large to fit in target type"
  | tooSmall => "number too small to fit in target type"

/-- The number that digits denote, after those already read; `beyond` is what is wrong with a number
above the limit. -/
def readDigits (limit : Nat) (beyond : WholeFault) (value : Nat) :
    List Char → Except WholeFault Nat
  | [] => .ok value
  | c :: rest =>
    if '0' ≤ c ∧ c ≤ '9' then
      let next := value * 10 + (c.toNat - 48)
      if limit < next then .error beyond else readDigits limit beyond next rest
    else .error .badDigit

/-- The number that a text without a minus sign denotes, up to a limit. -/
def readUnsigned (limit : Nat) (s : String) : Except WholeFault Nat :=
  match s.toList with
  | [] => .error .empty
  | ['+'] => .error .badDigit
  | '+' :: digits => readDigits limit .tooLarge 0 digits
  | digits => readDigits limit .tooLarge 0 digits

/-- The number of 64 bits that a text denotes. -/
def readSigned64 (s : String) : Except WholeFault Int :=
  match s.toList with
  | ['-'] => .error .badDigit
  | '-' :: digits => (readDigits 0x8000000000000000 .tooSmall 0 digits).map fun n => -(n : Int)
  | _ => (readUnsigned 0x7FFFFFFFFFFFFFFF s).map fun n => (n : Int)

end MessageRelay.Decimal
