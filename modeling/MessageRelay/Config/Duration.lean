/-!
# Durations in words

A duration is a number of milliseconds.  In a message it is written in seconds, or in milliseconds
when it is below one second; a fraction has no zeros at its end.
-/

namespace MessageRelay.Duration

/-- The digits of a fraction of a second given in milliseconds, without zeros at the end. -/
def fractionDigits (ms : Nat) : String :=
  let digits := Nat.toDigits 10 ms
  let padded := List.replicate (3 - digits.length) '0' ++ digits
  String.ofList (padded.reverse.dropWhile (· == '0')).reverse

/-- A duration of the given number of milliseconds, as a person reads it. -/
def display (ms : Nat) : String :=
  if ms = 0 then "0ns"
  else if ms < 1000 then toString ms ++ "ms"
  else if ms % 1000 = 0 then toString (ms / 1000) ++ "s"
  else toString (ms / 1000) ++ "." ++ fractionDigits (ms % 1000) ++ "s"

end MessageRelay.Duration
