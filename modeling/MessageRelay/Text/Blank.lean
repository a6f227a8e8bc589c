/-!
# Blank text

Names of users and of queues must hold something visible.  What counts as blank is the Unicode
property `White_Space`, kept here as a table, and a text is blank when all of its characters are.
Trimming removes the blank characters at both ends and nothing in between.
-/

namespace MessageRelay.Text

/-- The characters with the Unicode property `White_Space`, as closed ranges of code points in
ascending order. -/
def blankRanges : List (Nat × Nat) :=
  [(0x09, 0x0D), (0x20, 0x20), (0x85, 0x85), (0xA0, 0xA0), (0x1680, 0x1680), (0x2000, 0x200A),
    (0x2028, 0x2029), (0x202F, 0x202F), (0x205F, 0x205F), (0x3000, 0x3000)]

/-- A character is blank when it has the property `White_Space`. -/
def isBlankChar (c : Char) : Bool :=
  blankRanges.any fun r => r.1 ≤ c.toNat && c.toNat ≤ r.2

/-- A text is blank when it holds no character that is not. -/
def isBlank (s : String) : Bool :=
  s.toList.all isBlankChar

/-- The characters of a text without the blank ones at its two ends. -/
def trimChars (cs : List Char) : List Char :=
  ((cs.dropWhile isBlankChar).reverse.dropWhile isBlankChar).reverse

/-- A text without the blank characters at its two ends. -/
def trim (s : String) : String :=
  String.ofList (trimChars s.toList)

/-! ## What blank means -/

theorem isBlank_iff {s : String} : isBlank s = true ↔ ∀ c ∈ s.toList, isBlankChar c = true := by
  simp [isBlank]

theorem isBlank_empty : isBlank "" = true := by
  simp [isBlank]

end MessageRelay.Text
