import MessageRelay.Text.Bytes

/-!
# Control sequences

What is sent to a terminal is text with sequences in between that the terminal obeys and does not
show.  A sequence starts with the escape character; the character behind it says of which kind it is
and with it how it ends.  Whatever it is, it ends where the next one starts.

`stripControls` leaves only what is shown.  A line end, a tab or a return inside a sequence breaks it
off and is shown, except where a sequence carries a text of its own.
-/

namespace MessageRelay.Text

/-- Where a terminal is in what it is sent. -/
inductive ControlState where
  /-- In text. -/
  | text
  /-- Behind the escape character. -/
  | escape
  /-- In a sequence that the next letter, digit or mark ends. -/
  | short
  /-- In a sequence of parameters, which a letter ends. -/
  | parameters
  /-- In a title, which a bell ends. -/
  | title
  /-- In a text for a device. -/
  | device
  deriving DecidableEq, Repr

/-- The control characters that move the place where a terminal writes. -/
def isLayout (c : Char) : Bool :=
  c == '\t' || c == '\n' || c == '\x0c' || c == '\r'

namespace ControlState

/-- What follows the escape character and a character that is no control. -/
def ofIntroducer (c : Char) : ControlState :=
  if c.toNat < 0x30 then short
  else if c = '[' then parameters
  else if c = ']' then title
  else if c = 'P' || c = 'X' || c = '^' || c = '_' then device
  else text

/-- What follows a character that is no control. -/
def afterVisible (s : ControlState) (c : Char) : ControlState :=
  match s with
  | text => text
  | escape => ofIntroducer c
  | short => if c.toNat < 0x30 then short else text
  | parameters => if c.toNat < 0x40 then parameters else text
  | title => title
  | device => device

/-- What follows a character beyond ASCII.  A text for a device ends with a byte that some of them
have. -/
def afterWide (s : ControlState) (c : Char) : ControlState :=
  if s = device ∧ (encode (String.singleton c)).contains 0x9C then text else s

/-- What follows a control character other than the escape character, and whether it is shown. -/
def atControl (s : ControlState) (c : Char) : Bool × ControlState :=
  match s with
  | title => (false, if c = '\x07' then text else title)
  | device => (false, device)
  | s => if isLayout c then (true, text) else (false, s)

/-- Whether a character is shown, and what follows it. -/
def step (s : ControlState) (c : Char) : Bool × ControlState :=
  if c = '\x1b' then (false, escape)
  else if c = '\x18' ∨ c = '\x1a' then (false, text)
  else if c.toNat < 0x20 then s.atControl c
  else if c = '\x7f' then (false, s)
  else if c.toNat < 0x7F then (decide (s = text), s.afterVisible c)
  else (decide (s = text), s.afterWide c)

end ControlState

/-- What a terminal shows of what it is sent. -/
def shown (s : ControlState) : List Char → List Char
  | [] => []
  | c :: rest =>
    let (isShown, s') := s.step c
    if isShown then c :: shown s' rest else shown s' rest

/-- A text without control sequences. -/
def stripControls (text : String) : String :=
  String.ofList (shown .text text.toList)

end MessageRelay.Text
