/-!
Text for a terminal: colours and weights as escape sequences, which can be switched off, and padding
to a width.
-/
set_option autoImplicit false

namespace Spellspan.Text

/-- How a piece of text is shown. -/
inductive Style where
  | bold
  | dimmed
  | red
  | green
  | yellow
  | blue
  | boldCyan
  deriving DecidableEq, Repr

/-- The codes of a style inside an escape sequence, weight before colour. -/
def Style.codes : Style → String
  | .bold => "1"
  | .dimmed => "2"
  | .red => "31"
  | .green => "32"
  | .yellow => "33"
  | .blue => "34"
  | .boldCyan => "1;36"

/-- Blanks that fill a text up to `width` characters. -/
def fill (width : Nat) (text : String) : String :=
  String.ofList (List.replicate (width - text.length) ' ')

def padRight (width : Nat) (text : String) : String :=
  text ++ fill width text

def padLeft (width : Nat) (text : String) : String :=
  fill width text ++ text

def Style.start (style : Style) : String :=
  s!"\x1b[{style.codes}m"

def styleEnd : String := "\x1b[0m"

/-- A text in which a sequence follows each place that switches all styles off. -/
def resuming (start : List Char) : List Char → List Char
  | '\x1b' :: '[' :: '0' :: 'm' :: rest => styleEnd.toList ++ start ++ resuming start rest
  | c :: rest => c :: resuming start rest
  | [] => []

/-- Shows a text, padded on the right, in a style when `color` is on, and plainly otherwise. The
style goes on where the text itself switches it off, and what is added for that counts as part of
the width. -/
def Style.paintPadded (style : Style) (color : Bool) (width : Nat) (text : String) : String :=
  if color then style.start ++
    padRight width (String.ofList (resuming style.start.toList text.toList)) ++ styleEnd
  else padRight width text

/-- Shows a text in a style when `color` is on, and as it is otherwise. An empty text still switches
on and off. -/
def Style.paint (style : Style) (color : Bool) (text : String) : String :=
  style.paintPadded color 0 text

end Spellspan.Text
