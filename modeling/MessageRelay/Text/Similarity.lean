/-!
# Similar words

Who mistypes a word is told which word may have been meant.  How similar two words are is measured
by the characters that they share at about the same place and by how many of these are out of order:
with `m` shared characters, `t` of them out of order, in words of `a` and `b` characters, the
similarity is the mean of `m / a`, `m / b` and `(m - t) / m`, computed in floating point from left to
right.
-/

namespace MessageRelay.Text

/-- The characters of a word, each with whether it is shared already. -/
abbrev MarkedWord : Type := List (Char × Bool)

/-- Marks the first character of a word that is the given one, not marked, and at a place from `low`
to below `high`; the word starts at the given place. -/
def markFirst? (c : Char) (low high : Nat) : Nat → MarkedWord → Option MarkedWord
  | _, [] => none
  | place, (d, marked) :: rest =>
    if low ≤ place && place < high && c == d && !marked then some ((d, true) :: rest)
    else (markFirst? c low high (place + 1) rest).map ((d, marked) :: ·)

/-- The characters of the first word that the second one shares, in order, and the second word with
its shared characters marked.  Places may differ by `reach`. -/
def shareChars (reach : Nat) : Nat → List Char → MarkedWord → List Char × MarkedWord
  | _, [], word => ([], word)
  | place, c :: rest, word =>
    match markFirst? c (place - reach) (place + reach + 1) 0 word with
    | none => shareChars reach (place + 1) rest word
    | some word' =>
      let (shared, final) := shareChars reach (place + 1) rest word'
      (c :: shared, final)

/-- How similar two words are. -/
def similarity (v w : String) : Float :=
  let (ours, word) := shareChars (max v.length w.length / 2 - 1) 0 v.toList (w.toList.map (·, false))
  let theirs := (word.filter (·.2)).map (·.1)
  let t := ((ours.zip theirs).filter fun p => p.1 != p.2).length / 2
  let share (k n : Nat) : Float := k.toFloat / n.toFloat
  let m := ours.length
  if m = 0 then 0 else (share m v.length + share m w.length + share (m - t) m) / 3

/-- The similarity above which a word may have been meant. -/
def notSimilarEnough : Float := 0.7

/-- Puts a word into a list that is sorted by similarity, behind those that are as similar. -/
def insertScored (entry : Float × String) : List (Float × String) → List (Float × String)
  | [] => [entry]
  | first :: rest =>
    if first.1 > entry.1 then entry :: first :: rest else first :: insertScored entry rest

/-- The words that may have been meant by the given one, the most similar one last. -/
def similarWords (given : String) (known : List String) : List String :=
  let scored := (known.map fun w => (similarity given w, w)).filter fun s =>
    s.1 > notSimilarEnough
  (scored.foldl (fun sorted entry => insertScored entry sorted) []).map (·.2)

end MessageRelay.Text
