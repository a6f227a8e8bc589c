import MessageRelay.Json.Skip

/-!
# Reading values of known shape

Readers for what a configuration is made of: numbers of a given range, texts, choices between names,
values that may be absent, and records.  A record is written as an object with its members in any
order, or as a list of them in their own order; a member that is not given keeps its default.
-/

namespace MessageRelay.Json

/-- Fails with the value that stands where another kind was expected.  A simple value is taken
first, so that the failure shows behind it. -/
def wrongKind {α : Type} (expected : String) : Reader α := do
  match ← peekToken with
  | none => failNext .endBeforeValue
  | some 'n' => advance; wordRest "ull".toList; fail (.wrongKind .null expected)
  | some 't' => advance; wordRest "rue".toList; fail (.wrongKind (.bool true) expected)
  | some 'f' => advance; wordRest "alse".toList; fail (.wrongKind (.bool false) expected)
  | some '-' => advance; let n ← number false; fail (.wrongKind (.number n) expected)
  | some '"' => advance; let s ← quotedRest; fail (.wrongKind (.text s) expected)
  | some '[' => fail (.wrongKind .list expected)
  | some '\x7b' => fail (.wrongKind .object expected)
  | some c =>
    if isDigit c then do
      let n ← number true
      fail (.wrongKind (.number n) expected)
    else failNext .noValue

/-- Reads a number below a bound; `expected` is the name of that range. -/
def natBelow (bound : Nat) (expected : String) : Reader Nat := do
  let accept : Number → Reader Nat
    | .natural n => if n < bound then pure n else fail (.outOfRange (.natural n) expected)
    | .negative n => fail (.outOfRange (.negative n) expected)
    | .real x => fail (.wrongKind (.number (.real x)) expected)
  match ← peekToken with
  | some '-' =>
    advance
    accept (← number false)
  | some c =>
    if isDigit c then do accept (← number true)
    else wrongKind expected
  | none => wrongKind expected

/-- Reads a number of 64 bits. -/
def nat64 : Reader Nat := natBelow UInt64.size "u64"

/-- Reads a number of 32 bits. -/
def nat32 : Reader Nat := natBelow UInt32.size "u32"

/-- Reads a quoted text that stands for something named `expected`. -/
def textFor (expected : String) : Reader String := do
  match ← peekToken with
  | some '"' =>
    advance
    quotedRest
  | _ => wrongKind expected

/-- Reads any quoted text. -/
def text : Reader String := textFor "a string"

/-- Reads a value that may be absent. -/
def nullable {α : Type} (r : Reader α) : Reader (Option α) := do
  match ← peekToken with
  | some 'n' =>
    advance
    wordRest "ull".toList
    pure none
  | _ => return some (← r)

/-- Reads the word for absence. -/
def unit : Reader Unit := do
  match ← peekToken with
  | some 'n' =>
    advance
    wordRest "ull".toList
  | _ => wrongKind "unit"

/-- Reads one of the given names. -/
def chosenName {α : Type} (choices : List (String × α)) : Reader α := do
  let name ← textFor "variant identifier"
  match choices.lookup name with
  | some a => pure a
  | none => fail (.unknownChoice name (choices.map Prod.fst))

/-- Looks for the name at the start of an object that has to have a member. -/
def firstName : Reader Unit := do
  match ← peekToken with
  | some '"' => pure ()
  | some '\x7d' => failNext .noValue
  | some _ => failNext .nameNotText
  | none => failNext .endInObject

/-- Reads a choice: its name, or an object with that name and nothing else. -/
def choice {α : Type} (choices : List (String × α)) : Reader α := do
  match ← peekToken with
  | some '\x7b' =>
    advance
    firstName
    let a ← chosenName choices
    colon
    unit
    match ← peekToken with
    | some '\x7d' =>
      advance
      pure a
    | some _ => fail .noValue
    | none => fail .endInObject
  | some '"' => chosenName choices
  | some _ => failNext .noValue
  | none => failNext .endBeforeValue

/-! ## Records -/

/-- A member of a record: its name, and how its value is read into the record. -/
structure Member (σ : Type) where
  /-- The name of the member. -/
  name : String
  /-- Reads a value and stores it. -/
  read : σ → Reader σ

/-- The shape of a record. -/
structure Shape (σ : Type) where
  /-- What a failure calls such a record. -/
  expected : String
  /-- The members in their own order. -/
  members : List (Member σ)
  /-- Whether members that the record does not have are refused. -/
  closed : Bool := false

/-- Whether another element follows in a list; passes over the comma in front of it. -/
def moreElements (first : Bool) : Reader Bool := do
  match ← peekToken with
  | some ']' => pure false
  | some c =>
    if first then pure true
    else if c = ',' then
      advance
      match ← peekToken with
      | some ']' => failNext .trailingComma
      | some _ => pure true
      | none => failNext .endBeforeValue
    else failNext .listNotContinued
  | none => failNext .endInList

/-- Takes the end of a list that has all the elements that it may have. -/
def endList : Reader Unit := do
  match ← peekToken with
  | some ']' => advance
  | some ',' =>
    advance
    match ← peekToken with
    | some ']' => failNext .trailingComma
    | _ => failNext .trailingCharacters
  | some _ => failNext .trailingCharacters
  | none => failNext .endInList

/-- Reads elements for the members in their own order, as far as there are any. -/
def listedMembers {σ : Type} (first : Bool) : List (Member σ) → σ → Reader σ
  | [], value => pure value
  | m :: rest, value => do
    if ← moreElements first then listedMembers false rest (← m.read value) else pure value

/-- Whether another member follows in an object; passes over the comma in front of it. -/
def moreMembers (first : Bool) : Reader Bool := do
  match ← peekToken with
  | some '\x7d' => pure false
  | some c =>
    if first then
      if c = '"' then pure true else failNext .nameNotText
    else if c = ',' then
      advance
      match ← peekToken with
      | some '"' => pure true
      | some '\x7d' => failNext .trailingComma
      | some _ => failNext .nameNotText
      | none => failNext .endBeforeValue
    else failNext .objectNotContinued
  | none => failNext .endInObject

/-- Fails because of a member's name.  The failure shows in front of what follows the name, or
behind it when that is the end of the object. -/
def failName {α : Type} (fault : Fault) : Reader α := do
  match ← peekToken with
  | some '\x7d' =>
    advance
    fail fault
  | _ => fail fault

/-- Reads the members of an object up to its end; `seen` are the names that have been given. -/
def namedMembers {σ : Type} (shape : Shape σ) : Nat → Bool → List String → σ → Reader σ
  | 0, _, _, _ => failNext .endInObject
  | fuel + 1, first, seen, value => do
    if ← moreMembers first then
      advance
      let name ← quotedRest
      match shape.members.find? (·.name == name) with
      | some m =>
        if seen.contains name then failName (.repeatedMember name)
        else
          colon
          namedMembers shape fuel false (name :: seen) (← m.read value)
      | none =>
        if shape.closed then failName (.unknownMember name (shape.members.map (·.name)))
        else
          colon
          skipValue
          namedMembers shape fuel false seen value
    else
      advance
      pure value

/-- Reads a record; members that are not given are taken from `default`.  Every member takes at
least one character, so an object has no more members than characters. -/
def record {σ : Type} (shape : Shape σ) (default : σ) : Reader σ := do
  match ← peekToken with
  | some '[' =>
    advance
    let value ← listedMembers true shape.members default
    endList
    pure value
  | some '\x7b' =>
    advance
    namedMembers shape ((← get).length + 1) true [] default
  | _ => wrongKind shape.expected

end MessageRelay.Json
