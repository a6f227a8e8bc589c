import MessageRelay.Text.ControlSequence

/-!
# Styled text

What the program prints is made of spans of text, each in a style.  A terminal shows the styles, and
whoever reads the output of the program as data gets the bare text.

There are two ways to print.  A line of the chat keeps its styles whatever its texts are, and is
printed as it is where styles are not shown.  A page about the command line is written with its
styles first, and where these are not shown all control sequences are taken out of it, also those
that somebody has typed.
-/

namespace MessageRelay.Shell

/-- How a span is shown. -/
inductive Style where
  /-- As the terminal shows text anyway. -/
  | plain
  /-- Less bright. -/
  | dimmed
  /-- Bold. -/
  | bold
  /-- In green. -/
  | green
  /-- In yellow. -/
  | yellow
  /-- Bold and green. -/
  | boldGreen
  /-- Bold and yellow. -/
  | boldYellow
  /-- Bold and red. -/
  | boldRed
  /-- Bold and cyan. -/
  | boldCyan
  /-- Bold and bright cyan. -/
  | boldBrightCyan
  /-- Bold and underlined: the headings of the help texts. -/
  | heading
  /-- Bold and red: the start of a complaint about the command line. -/
  | complaint
  deriving DecidableEq, Repr

namespace Style

/-- What switches a style on. -/
def opening : Style → String
  | plain => ""
  | dimmed => "\x1b[2m"
  | bold => "\x1b[1m"
  | green => "\x1b[32m"
  | yellow => "\x1b[33m"
  | boldGreen => "\x1b[1;32m"
  | boldYellow => "\x1b[1;33m"
  | boldRed => "\x1b[1;31m"
  | boldCyan => "\x1b[1;36m"
  | boldBrightCyan => "\x1b[1;96m"
  | heading => "\x1b[1m\x1b[4m"
  | complaint => "\x1b[1m\x1b[31m"

/-- What switches every style off. -/
def reset : String := "\x1b[0m"

/-- Switches a style on again wherever a text switches it off. -/
def reopen (opening : List Char) : List Char → List Char
  | '\x1b' :: '[' :: '0' :: 'm' :: rest => reset.toList ++ opening ++ reopen opening rest
  | c :: rest => c :: reopen opening rest
  | [] => []

/-- A text in a style that it cannot switch off. -/
def wrap (s : Style) (text : String) : String :=
  match s with
  | plain => text
  | s => s.opening ++ String.ofList (reopen s.opening.toList text.toList) ++ reset

/-- A text with a style switched on in front of it and off behind it. -/
def enclose (s : Style) (text : String) : String :=
  match s with
  | plain => text
  | s => s.opening ++ text ++ reset

end Style

/-- A text in a style. -/
structure Span where
  /-- The style. -/
  style : Style
  /-- The text. -/
  text : String
  deriving DecidableEq, Repr

/-- A line that is printed. -/
abbrev Line : Type := List Span

/-- Text as it is. -/
def plain (text : String) : Span := ⟨.plain, text⟩

namespace Line

/-- The bare text of a line. -/
def text (l : Line) : String :=
  String.join (l.map (·.text))

/-- A line as it is printed, with or without its styles. -/
def render (styled : Bool) (l : Line) : String :=
  if styled then String.join (l.map fun s => s.style.wrap s.text) else l.text

@[simp]
theorem render_false (l : Line) : l.render false = l.text := rfl

/-- A line in no style is printed as it is. -/
theorem render_plain (styled : Bool) (text : String) : render styled [plain text] = text := by
  cases styled <;> simp [render, plain, Line.text, Style.wrap, String.join]

/-- A line with its styles switched on and off. -/
def enclosed (l : Line) : String :=
  String.join (l.map fun s => s.style.enclose s.text)

end Line

/-- Lines that are printed as one. -/
abbrev Page : Type := List Line

/-- A page as it is printed, with or without its styles. -/
def Page.render (styled : Bool) (p : Page) : String :=
  let written := "\n".intercalate (p.map Line.enclosed)
  if styled then written else Text.stripControls written

end MessageRelay.Shell
