/-!
Names of files in messages. A name that could be taken for something else is quoted, so that it
could be typed as it is written: in single quotes, in double quotes if its only trouble is an
apostrophe, and with escapes for what cannot be printed.
-/
set_option autoImplicit false

namespace Spellspan.Process.Naming

/-- Characters with a meaning in the shell, and the colon, which ends a name in a message. -/
def isSpecial (c : Char) : Bool :=
  " !\"$&()*;<=>[^\x60|?\\':".toList.contains c

def escapeLetters : List (Char × Char) :=
  [('\x07', 'a'), ('\x08', 'b'), ('\x0c', 'f'), ('\n', 'n'), ('\r', 'r'), ('\t', 't'),
    ('\x0b', 'v')]

def isUnprintable (c : Char) : Bool :=
  c.toNat < 0x20 || 0x7f ≤ c.toNat

/-- What stands for a byte that cannot be printed, behind a backslash. -/
def escaped (c : Char) : List Char :=
  match escapeLetters.lookup c with
  | some letter => [letter]
  | none =>
    let digit (n : Nat) := Char.ofNat ('0'.toNat + n)
    [digit (c.toNat / 64), digit (c.toNat / 8 % 8), digit (c.toNat % 8)]

/-- Whether a character means something at the beginning of a word, or as a word. -/
def isSpecialFirst (name : List Char) : Bool :=
  match name with
  | '#' :: _ => true
  | '~' :: _ => true
  | ['\x7b'] => true
  | ['\x7d'] => true
  | _ => false

def needsQuotes (name : List Char) : Bool :=
  name.isEmpty || isSpecialFirst name || name.any fun c => isSpecial c || isUnprintable c

/-- Whether a character means the same in double quotes as in single ones. -/
def isPlainInDouble (c : Char) : Bool :=
  c.isAlphanum || " '%+,-./:]_@".toList.contains c

/-- Whether double quotes are enough: there is an apostrophe, and nothing else to quote. -/
def fitsDouble (name : List Char) : Bool :=
  name.contains '\'' &&
    match name with
    | c :: rest => (isPlainInDouble c || (isSpecialFirst name && !rest.isEmpty)) &&
        rest.all isPlainInDouble
    | [] => true

/-- The characters between single quotes, and whether an escape is still open at the end. -/
def inSingle : Bool → List Char → List Char × Bool
  | isOpen, [] => ([], isOpen)
  | isOpen, c :: rest =>
    if c == '\'' then
      let (text, isOpen) := inSingle false rest
      ("'\\''".toList ++ text, isOpen)
    else if isUnprintable c then
      let (text, isStillOpen) := inSingle true rest
      ((if isOpen then [] else "'$'".toList) ++ '\\' :: escaped c ++ text, isStillOpen)
    else
      let (text, isStillOpen) := inSingle false rest
      ((if isOpen then "''".toList else []) ++ c :: text, isStillOpen)

/-- A name in single quotes. With an apostrophe in it, an escape at its end is closed at the
beginning once more. -/
def single (name : List Char) : List Char :=
  let isOpen := name.contains '\'' && (inSingle false name).2
  '\'' :: (inSingle isOpen name).1 ++ ['\'']

def named (name : String) : String :=
  let chars := name.toList
  if !needsQuotes chars then name
  else if fitsDouble chars then "\"" ++ name ++ "\""
  else String.ofList (single chars)

/-- A value as it is written in a message: always in quotes, and with backslashes where they are
needed. -/
def quoted (value : String) : String :=
  let chars := value.toList.flatMap fun c =>
    if c == '\'' || c == '\\' then ['\\', c] else if isUnprintable c then '\\' :: escaped c else [c]
  "'" ++ String.ofList chars ++ "'"

end Spellspan.Process.Naming
