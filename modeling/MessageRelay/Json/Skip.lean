import MessageRelay.Json.Number
import MessageRelay.Json.QuotedText

/-!
# Values that nobody asked for

A member that an object does not have is passed over, however deep its value is nested.  The value
still has to be one.  The brackets that are open are kept in a list, innermost first.
-/

namespace MessageRelay.Json

/-- A pair of brackets. -/
inductive Bracket where
  | list
  | object
  deriving DecidableEq, Repr

namespace Bracket

/-- The closing one of two brackets. -/
def closing : Bracket → Char
  | list => ']'
  | object => '\x7d'

/-- The fault of a text that ends between the two. -/
def unended : Bracket → Fault
  | list => .endInList
  | object => .endInObject

/-- The fault of an element that nothing proper follows. -/
def notContinued : Bracket → Fault
  | list => .listNotContinued
  | object => .objectNotContinued

end Bracket

/-- Takes a simple value, if one follows; gives the bracket if a list or an object starts. -/
def skipSimple : Reader (Option Bracket) := do
  match ← peekToken with
  | none => failNext .endBeforeValue
  | some 'n' => advance; wordRest "ull".toList; pure none
  | some 't' => advance; wordRest "rue".toList; pure none
  | some 'f' => advance; wordRest "alse".toList; pure none
  | some '-' => advance; skipNumber; pure none
  | some '"' => advance; skipQuotedRest; pure none
  | some '[' => advance; pure (some .list)
  | some '\x7b' => advance; pure (some .object)
  | some c =>
    if isDigit c then do skipNumber; pure none
    else failNext .noValue

/-- Closes brackets as long as closing ones follow.  `more` says whether a comma may follow, which
is so after a value.  The result is the open brackets, with the next character being the start of an
element; none are left when the whole value has ended. -/
def closeBrackets (more : Bool) : List Bracket → Reader (List Bracket)
  | [] => pure []
  | b :: outer => do
    match ← peekToken with
    | none => failNext b.unended
    | some c =>
      if more && c == ',' then
        advance
        pure (b :: outer)
      else if c = b.closing then
        advance
        closeBrackets true outer
      else if more then failNext b.notContinued
      else pure (b :: outer)

/-- Passes over the name of a member and its colon, if the innermost bracket is an object's. -/
def skipName : List Bracket → Reader Unit
  | .object :: _ => do
    match ← peekToken with
    | some '"' =>
      advance
      skipQuotedRest
      colon
    | some _ => failNext .nameNotText
    | none => failNext .endInObject
  | _ => pure ()

/-- Passes over a value inside the given open brackets, and everything up to the end of the
outermost one. -/
def skipInside : Nat → List Bracket → Reader Unit
  | 0, _ => failNext .endBeforeValue
  | fuel + 1, stack => do
    let opened ← skipSimple
    let stack' ← match opened with
      | some b => closeBrackets false (b :: stack)
      | none => closeBrackets true stack
    if stack'.isEmpty then pure ()
    else
      skipName stack'
      skipInside fuel stack'

/-- Passes over a value.  Every element takes at least one character, so there are no more steps
than characters. -/
def skipValue : Reader Unit :=
  fun cs => skipInside (cs.length + 1) [] cs

end MessageRelay.Json
