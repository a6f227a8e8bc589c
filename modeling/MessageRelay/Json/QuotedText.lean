import MessageRelay.Json.Reader

/-!
# Quoted texts

What stands between two quotes: characters that mean themselves, escapes of one letter, and escapes
of four hexadecimal digits.  A character beyond U+FFFF takes two of the latter, the halves of a
surrogate pair.  `textBody` gives the text, `skipTextBody` only finds its end and does not look at
what the escapes mean.
-/

namespace MessageRelay.Json

/-- The value of a hexadecimal digit. -/
def hexValue? (c : Char) : Option Nat :=
  if '0' ≤ c ∧ c ≤ '9' then some (c.toNat - 48)
  else if 'a' ≤ c ∧ c ≤ 'f' then some (c.toNat - 87)
  else if 'A' ≤ c ∧ c ≤ 'F' then some (c.toNat - 55)
  else none

/-- The failure of an escape whose next four bytes are not all digits. -/
def noHexCode (cs : List Char) : Failure :=
  if 4 ≤ byteCount cs then ⟨.badEscape, byteCount cs - 4⟩ else ⟨.endInText, 0⟩

/-- The number that four hexadecimal digits give, and the characters after them. -/
def hexCode (cs : List Char) : Except Failure (Nat × { r : List Char // r.length < cs.length }) :=
  match cs with
  | a :: b :: c :: d :: rest =>
    match hexValue? a, hexValue? b, hexValue? c, hexValue? d with
    | some a', some b', some c', some d' =>
      .ok (((a' * 16 + b') * 16 + c') * 16 + d', ⟨rest, by simp; omega⟩)
    | _, _, _, _ => .error (noHexCode (a :: b :: c :: d :: rest))
  | cs => .error (noHexCode cs)

/-- The first half of a surrogate pair. -/
def isLeading (n : Nat) : Bool :=
  0xD800 ≤ n && n ≤ 0xDBFF

/-- The second half of a surrogate pair. -/
def isTrailing (n : Nat) : Bool :=
  0xDC00 ≤ n && n ≤ 0xDFFF

/-- The second half of a character that needs two escapes, given the first. -/
def secondHalf (first : Nat) (cs : List Char) :
    Except Failure (Char × { r : List Char // r.length < cs.length }) :=
  match cs with
  | [] => .error (.here .endInText [])
  | ['\\'] => .error (.here .endInText [])
  | '\\' :: 'u' :: rest => do
    let (second, r) ← hexCode rest
    if isTrailing second then
      let c := Char.ofNat (0x10000 + (first - 0xD800) * 0x400 + (second - 0xDC00))
      pure (c, ⟨r.val, by have := r.property; simp; omega⟩)
    else .error (.here .loneSurrogate r.val)
  | '\\' :: rest => .error (.next .cutSurrogate rest)
  | rest => .error (.next .cutSurrogate rest)

/-- The character that hexadecimal digits stand for, and the characters after them. -/
def hexEscape (cs : List Char) :
    Except Failure (Char × { r : List Char // r.length < cs.length }) := do
  let (n, r) ← hexCode cs
  if isTrailing n then .error (.here .loneSurrogate r.val)
  else if isLeading n then
    let (c, r') ← secondHalf n r.val
    pure (c, ⟨r'.val, Nat.lt_trans r'.property r.property⟩)
  else pure (Char.ofNat n, r)

/-- The character that a letter after the backslash stands for. -/
def letterEscape? (c : Char) : Option Char :=
  match c with
  | '"' => some '"'
  | '\\' => some '\\'
  | '/' => some '/'
  | 'b' => some '\x08'
  | 'f' => some '\x0c'
  | 'n' => some '\n'
  | 'r' => some '\r'
  | 't' => some '\t'
  | _ => none

/-- The character that an escape stands for; the backslash has been passed. -/
def escaped (cs : List Char) : Except Failure (Char × { r : List Char // r.length < cs.length }) :=
  match cs with
  | [] => .error (.here .endInText [])
  | c :: rest =>
    match letterEscape? c with
    | some meant => .ok (meant, ⟨rest, by simp⟩)
    | none =>
      if c = 'u' then do
        let (meant, r) ← hexEscape rest
        pure (meant, ⟨r.val, by have := r.property; simp; omega⟩)
      else .error (.next .badEscape (c :: rest))

/-- The text up to the closing quote, after what has been read of it in reverse. -/
def textBody (read : List Char) (cs : List Char) : Except Failure (String × List Char) :=
  match cs with
  | [] => .error (.here .endInText [])
  | c :: rest =>
    if c = '"' then .ok (String.ofList read.reverse, rest)
    else if c = '\\' then
      match escaped rest with
      | .error f => .error f
      | .ok (meant, r) => textBody (meant :: read) r.val
    else if c.toNat < 0x20 then .error (.here .controlCharacter rest)
    else textBody (c :: read) rest
termination_by cs.length
decreasing_by
  · have := r.property
    simp
    omega
  · simp

/-- The text up to the closing quote; the opening one has been passed. -/
def quotedRest : Reader String :=
  textBody []

/-- The characters after an escape; the backslash has been passed. -/
def skipEscape (cs : List Char) : Except Failure { r : List Char // r.length < cs.length } :=
  match cs with
  | [] => .error (.here .endInText [])
  | c :: rest =>
    if (letterEscape? c).isSome then .ok ⟨rest, by simp⟩
    else if c = 'u' then do
      let (_, r) ← hexCode rest
      pure ⟨r.val, by have := r.property; simp; omega⟩
    else .error (.next .badEscape (c :: rest))

/-- The characters after the closing quote. -/
def skipTextBody (cs : List Char) : Except Failure (List Char) :=
  match cs with
  | [] => .error (.here .endInText [])
  | c :: rest =>
    if c = '"' then .ok rest
    else if c = '\\' then
      match skipEscape rest with
      | .error f => .error f
      | .ok r => skipTextBody r.val
    else if c.toNat < 0x20 then .error (.here .controlCharacter (c :: rest))
    else skipTextBody rest
termination_by cs.length
decreasing_by
  · have := r.property
    simp
    omega
  · simp

/-- Passes over a text up to its closing quote; the opening one has been passed. -/
def skipQuotedRest : Reader Unit :=
  fun cs => (skipTextBody cs).map fun rest => ((), rest)

end MessageRelay.Json
