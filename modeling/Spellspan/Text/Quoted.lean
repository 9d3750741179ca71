import Spellspan.Text.GraphemeExtend
import Spellspan.Text.Printable

/-!
The quoted form of a text in messages: double quotes around it, short escapes for the common
controls, and a code point escape for what would not be seen on its own.
-/
set_option autoImplicit false

namespace Spellspan.Text

/-- The code point escape of a character: its number in lower case hexadecimal digits, without
padding. -/
def codePointEscape (c : Char) : List Char :=
  "\\u\x7b".toList ++ Nat.toDigits 16 c.toNat ++ ['}']

/-- Marks for voiced sounds in half width. They attach to the character before them, and have a form
of their own. -/
def isSoundMark (c : Char) : Bool :=
  c == '\uff9e' || c == '\uff9f'

def isUnseen (c : Char) : Bool :=
  (isGraphemeExtend c && !isSoundMark c) || !isPrintable c

def quoteChar (c : Char) : List Char :=
  match c with
  | '\x00' => "\\0".toList
  | '\t' => "\\t".toList
  | '\r' => "\\r".toList
  | '\n' => "\\n".toList
  | '"' => "\\\"".toList
  | '\\' => "\\\\".toList
  | c => if isUnseen c then codePointEscape c else [c]

def quoted (text : String) : String :=
  String.ofList ('"' :: text.toList.flatMap quoteChar ++ ['"'])

end Spellspan.Text
