import Spellspan.Surroundings.Process.Arithmetic

/-!
Texts with escapes and directives, as the shell writes them.
-/
set_option autoImplicit false

namespace Spellspan.Process.Format

def escapes : List (Char × Char) := [
  ('a', '\x07'), ('b', '\x08'), ('e', '\x1b'), ('f', '\x0c'), ('n', '\n'), ('r', '\r'), ('t', '\t'),
    ('v', '\x0b'),
  ('\\', '\\')]

def isOctal (c : Char) : Bool :=
  '0' ≤ c && c ≤ '7'

def octalByte (digits : List Char) : Char :=
  Char.ofNat (digits.foldl (fun value c => value * 8 + (c.toNat - '0'.toNat)) 0 % 256)

/-- The characters that an escape stands for, and what stands behind it; the text begins behind the
backslash. -/
def escape (text : List Char) : List Char × List Char :=
  match text with
  | [] => (['\\'], [])
  | c :: rest =>
    if isOctal c then
      let digits := (text.take 3).takeWhile isOctal
      ([octalByte digits], text.drop digits.length)
    else
      match escapes.lookup c with
      | some char => ([char], rest)
      | none => (['\\'], text)

/-- A text with its escapes replaced, and whether it was cut off by one that ends all output. A zero
may stand before octal digits. -/
def unescape : Nat → List Char → List Char × Bool
  | 0, _ => ([], false)
  | _ + 1, [] => ([], false)
  | bound + 1, '\\' :: text =>
    match text with
    | 'c' :: _ => ([], true)
    | _ =>
      let text := match text with
        | '0' :: next :: rest => if isOctal next then next :: rest else text
        | text => text
      let (chars, behind) := escape text
      let (rest, isCut) := unescape bound behind
      (chars ++ rest, isCut)
  | bound + 1, c :: text =>
    let (rest, isCut) := unescape bound text
    (c :: rest, isCut)

/-- The line that the arguments of a command make, which a first argument can leave open, and
escapes can cut off. -/
def line (arguments : List String) : String :=
  let (words, lineEnd) := match arguments with
    | "-n" :: words => (words, "")
    | words => (words, "\n")
  let text := (" ".intercalate words).toList
  let (chars, isCut) := unescape (text.length + 1) text
  String.ofList chars ++ (if isCut then "" else lineEnd)

structure Printed where
  text : List Char := []
  complaints : List String := []
  arguments : List String
  isCut : Bool := false
  isRefused : Bool := false

def Printed.add (printed : Printed) (chars : List Char) : Printed :=
  { printed with text := chars.reverse ++ printed.text }

def Printed.next (printed : Printed) : Option String × Printed :=
  (printed.arguments.head?, { printed with arguments := printed.arguments.tail })

/-- The integer at the beginning of an argument, with a complaint if there is none or something
follows it. -/
def integerOf (text : String) : Int × Option String :=
  match text.toList with
  | [] => (0, none)
  | '"' :: rest => ((rest.head?.map fun c => (c.toNat : Int)).getD 0, none)
  | '\'' :: rest => ((rest.head?.map fun c => (c.toNat : Int)).getD 0, none)
  | chars =>
    let chars := chars.dropWhile Arithmetic.isBlank
    let (isNegative, digits) := match chars with
      | '-' :: digits => (true, digits)
      | '+' :: digits => (false, digits)
      | digits => (false, digits)
    if !(digits.head?.any Char.isDigit) then (0, some s!"{text}: expected numeric value")
    else
      let (base, found, behind) := Arithmetic.digitsOf digits
      let magnitude := found.foldl
        (fun value c => value * base + (Arithmetic.digitValue? base c).getD 0) 0
      let (value, _) := Arithmetic.numberOf digits
      let value := if isNegative then -value else value
      if !behind.isEmpty then (value, some s!"{text}: not completely converted")
      else if Arithmetic.greatest < (magnitude : Int) then
        (value, some s!"{text}: Numerical result out of range")
      else (value, none)

structure Layout where
  flags : List Char := []
  width : Nat := 0
  precision : Option Nat := none

def Layout.pad (layout : Layout) (chars : List Char) : List Char :=
  let fill := List.replicate (layout.width - chars.length) ' '
  if layout.flags.contains '-' then chars ++ fill else fill ++ chars

def Layout.number (layout : Layout) (sign : List Char) (digits : List Char) : List Char :=
  let digits := match layout.precision with
    | some least =>
      let digits := if least == 0 && digits == ['0'] then [] else digits
      List.replicate (least - digits.length) '0' ++ digits
    | none =>
      if layout.flags.contains '0' && !layout.flags.contains '-' then
        List.replicate (layout.width - sign.length - digits.length) '0' ++ digits
      else digits
  layout.pad (sign ++ digits)

def integer (layout : Layout) (directive : Char) (value : Int) : List Char :=
  let digitsIn (base : Nat) := Nat.toDigits base (value.emod UInt64.size).toNat
  match directive with
  | 'o' =>
    let digits := digitsIn 8
    layout.number [] (if layout.flags.contains '#' &&
      digits.head? != some '0' then '0' :: digits else digits)
  | 'u' => layout.number [] (digitsIn 10)
  | 'x' => layout.number (if layout.flags.contains '#' && value != 0 then ['0', 'x']
      else []) (digitsIn 16)
  | 'X' =>
    layout.number (if layout.flags.contains '#' && value != 0 then ['0', 'X'] else [])
      ((digitsIn 16).map Char.toUpper)
  | _ =>
    let sign := if value < 0 then ['-']
      else if layout.flags.contains '+' then ['+']
      else if layout.flags.contains ' ' then [' ']
      else []
    layout.number sign (Nat.toDigits 10 value.natAbs)

def fill (printed : Printed) (layout : Layout) (directive : Char) : Printed :=
  let (argument, printed) := printed.next
  let text := argument.getD ""
  match directive with
  | 's' =>
    let chars := text.toList
    printed.add (layout.pad (match layout.precision with
      | some most => chars.take most
      | none => chars))
  | 'b' =>
    let (chars, isCut) := unescape (text.length + 1) text.toList
    { printed.add (layout.pad chars) with isCut }
  | 'c' => printed.add (layout.pad [(text.toList.head?).getD '\x00'])
  | directive =>
    let (value, complaint) := integerOf text
    let printed := printed.add (integer layout directive value)
    { printed with complaints := printed.complaints ++ complaint.toList }

/-- A number in a directive: written out, or a star that takes it from the arguments. -/
def layoutNumber (printed : Printed) (text : List Char) : Option Nat × Printed × List Char :=
  match text with
  | '*' :: rest =>
    let (argument, printed) := printed.next
    (some (integerOf (argument.getD "")).1.toNat, printed, rest)
  | text =>
    let digits := text.takeWhile Char.isDigit
    (if digits.isEmpty then none else (String.ofList digits).toNat?, printed,
      text.drop digits.length)

/-- Writes a directive, behind the percent sign; gives what stands behind it. -/
def directive (printed : Printed) (text : List Char) : Printed × List Char :=
  let flags := text.takeWhile fun c => "#-+ 0".toList.contains c
  let (width, printed, rest) := layoutNumber printed (text.drop flags.length)
  let (precision, printed, rest) := match rest with
    | '.' :: rest =>
      let (precision, printed, rest) := layoutNumber printed rest
      (some (precision.getD 0), printed, rest)
    | rest => (none, printed, rest)
  match rest with
  | [] => ({ printed with complaints := printed.complaints ++ ["missing format character"], isRefused := true }, [])
  | c :: behind =>
    if "sbcdiouxX".toList.contains c then
      (fill printed { flags, width := width.getD 0, precision } c, behind)
    else
      let found := String.ofList ('%' :: text.take (text.length - behind.length))
      ({ printed with complaints := printed.complaints ++ [found ++ ": invalid directive"], isRefused := true }, [])

def once : Nat → Printed → List Char → Printed
  | 0, printed, _ => printed
  | _ + 1, printed, [] => printed
  | bound + 1, printed, c :: rest =>
    if printed.isCut || printed.isRefused then printed
    else
      match c, rest with
      | '\\', rest =>
        let (chars, behind) := escape rest
        once bound (printed.add chars) behind
      | '%', '%' :: rest => once bound (printed.add ['%']) rest
      | '%', rest =>
        let (printed, behind) := directive printed rest
        once bound printed behind
      | c, rest => once bound (printed.add [c]) rest

def repeated (format : List Char) : Nat → Printed → Printed
  | 0, printed => printed
  | bound + 1, printed =>
    let after := once (format.length + 1) printed format
    if after.isCut || after.isRefused || after.arguments.isEmpty ||
      after.arguments.length == printed.arguments.length then after
    else repeated format bound after

def print (format : String) (arguments : List String) : Printed :=
  repeated format.toList (arguments.length + 1) { arguments }

end Spellspan.Process.Format
