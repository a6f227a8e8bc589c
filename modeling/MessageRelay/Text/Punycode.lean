/-!
# Punycode

A label of a domain name that has other letters than those of ASCII is written in ASCII: first its
ASCII characters, then, behind the last hyphen, where the others go.  Each of the others is given by
the distance from the one before in an enumeration of all characters at all places, as a number to
the base 36 with digits whose weights adapt to the numbers before.
-/

namespace MessageRelay.Text.Punycode

/-- The value of a digit. -/
def digit? (c : Char) : Option Nat :=
  if 'a' ≤ c ∧ c ≤ 'z' then some (c.toNat - 97)
  else if 'A' ≤ c ∧ c ≤ 'Z' then some (c.toNat - 65)
  else if '0' ≤ c ∧ c ≤ '9' then some (c.toNat - 22)
  else none

/-- The least value of a digit that another digit follows. -/
def threshold (k bias : Nat) : Nat :=
  min 26 (max 1 (k - bias))

/-- Divides a distance until it is small, and counts the times. -/
def shrink (delta times : Nat) : Nat × Nat :=
  if 455 < delta then shrink (delta / 35) (times + 1) else (delta, times)
termination_by delta

/-- The bias for the next distance, after the given one; `count` is the number of characters so
far. -/
def adapt (delta count : Nat) (first : Bool) : Nat :=
  let damped := if first then delta / 700 else delta / 2
  let (rest, times) := shrink (damped + damped / count) 0
  36 * times + 36 * rest / (rest + 38)

/-- The distance that digits denote, and what follows them. -/
def distance? (bias : Nat) (k weight sum : Nat) : List Char → Option (Nat × List Char)
  | [] => none
  | c :: rest =>
    match digit? c with
    | none => none
    | some d =>
      let t := threshold k bias
      let sum' := sum + d * weight
      if d < t then some (sum', rest) else distance? bias (k + 36) (weight * (36 - t)) sum' rest

/-- Puts characters where the distances say.  The last one was put in front of place `place`, and
the next one has at least the number `code`. -/
def insertAll : Nat → Nat → Nat → Nat → Bool → List Char → List Char → Option (List Char)
  | 0, _, _, _, _, _, _ => none
  | fuel + 1, code, place, bias, first, label, input =>
    if input.isEmpty then some label
    else
      match distance? bias 36 1 0 input with
      | none => none
      | some (delta, rest) =>
        let count := label.length + 1
        let code' := code + (place + delta) / count
        let place' := (place + delta) % count
        if code'.isValidChar then
          let label' := label.take place' ++ Char.ofNat code' :: label.drop place'
          insertAll fuel code' (place' + 1) (adapt delta count first) false label' rest
        else none

/-- The characters in front of the last hyphen, and those behind it. -/
def splitLabel (cs : List Char) : List Char × List Char :=
  let behind := (cs.reverse.takeWhile (· != '-')).reverse
  (cs.take (cs.length - behind.length - 1), behind)

/-- The label that is written in ASCII.  Every character that is put in takes a digit at least. -/
def decode? (cs : List Char) : Option (List Char) :=
  let (basic, input) := splitLabel cs
  insertAll (input.length + 1) 128 0 72 true basic input

end MessageRelay.Text.Punycode
