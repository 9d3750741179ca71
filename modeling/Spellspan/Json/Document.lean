import Spellspan.Json.Value
import Spellspan.Numeric.Scaled
import Spellspan.Text.Lossy

/-!
Reading JSON text in two steps. A document is what the text says, with repeated fields and with the
places where a string or a number is well formed but has no value. What a reader retains of a
document is given by a shape: records keep their known fields, each at most once, and everything
else has to be a value within the nesting limit. A field that no shape mentions is read over,
whatever its depth.
-/
set_option autoImplicit false

namespace Spellspan.Json

open Numeric (Binary64)

/-- Well-formed JSON text. A number out of range and a string with half of a surrogate pair have no
value. -/
inductive Document where
  | null
  | bool (value : Bool)
  | number (value : Option Json.Number)
  | string (text : Option String)
  | array (items : List Document)
  | object (fields : List (Option String × Document))

def isBlank (c : Char) : Bool :=
  c == ' ' || c == '\n' || c == '\t' || c == '\r'

def skipBlanks (text : List Char) : List Char :=
  text.dropWhile isBlank

def hexDigit? (c : Char) : Option Nat :=
  if '0' ≤ c ∧ c ≤ '9' then some (c.toNat - '0'.toNat)
  else if 'a' ≤ c ∧ c ≤ 'f' then some (c.toNat - 'a'.toNat + 10)
  else if 'A' ≤ c ∧ c ≤ 'F' then some (c.toNat - 'A'.toNat + 10)
  else none

def codeUnit? : List Char → Option (Nat × List Char)
  | a :: b :: c :: d :: rest => do
    let a ← hexDigit? a
    let b ← hexDigit? b
    let c ← hexDigit? c
    let d ← hexDigit? d
    some (((a * 16 + b) * 16 + c) * 16 + d, rest)
  | _ => none

def shortEscape? : Char → Option Char
  | '"' => some '"'
  | '\\' => some '\\'
  | '/' => some '/'
  | 'b' => some '\x08'
  | 'f' => some '\x0c'
  | 'n' => some '\n'
  | 'r' => some '\r'
  | 't' => some '\t'
  | _ => none

def lowSurrogate? : List Char → Option (Nat × List Char)
  | '\\' :: 'u' :: rest =>
    match codeUnit? rest with
    | some (unit, rest) => if 0xdc00 ≤ unit ∧ unit ≤ 0xdfff then some (unit, rest) else none
    | none => none
  | _ => none

/-- Adds a character to the text read so far, unless that has no value already. -/
def append (read : Option (List Char)) (c : Char) : Option (List Char) :=
  read.map (c :: ·)

/-- The rest of a string behind its opening quote. `read` holds its characters so far in reverse. -/
def stringTail? : Nat → Option (List Char) → List Char → Option (Option String × List Char)
  | 0, _, _ => none
  | _ + 1, _, [] => none
  | _ + 1, read, '"' :: rest => some (read.map fun chars => String.ofList chars.reverse, rest)
  | fuel + 1, read, '\\' :: 'u' :: rest =>
    match codeUnit? rest with
    | none => none
    | some (unit, rest) =>
      if 0xd800 ≤ unit ∧ unit ≤ 0xdbff then
        match lowSurrogate? rest with
        | some (low, rest) =>
          stringTail? fuel (append read
            (Char.ofNat (0x10000 + (unit - 0xd800) * 0x400 + (low - 0xdc00)))) rest
        | none => stringTail? fuel none rest
      else if 0xdc00 ≤ unit ∧ unit ≤ 0xdfff then stringTail? fuel none rest
      else stringTail? fuel (append read (Char.ofNat unit)) rest
  | fuel + 1, read, '\\' :: escape :: rest =>
    match shortEscape? escape with
    | some c => stringTail? fuel (append read c) rest
    | none => none
  | fuel + 1, read, c :: rest => if c.toNat < 0x20 then none
      else stringTail? fuel (append read c) rest

def decimalValue (before : Nat) (digits : List Char) : Nat :=
  digits.foldl (fun value digit => value * 10 + (digit.toNat - '0'.toNat)) before

def digits? (text : List Char) : Option (List Char × List Char) :=
  let digits := text.takeWhile Char.isDigit
  if digits.isEmpty then none else some (digits, text.dropWhile Char.isDigit)

/-- The whole part of a number: a zero stands alone. -/
def wholePart? : List Char → Option (List Char × List Char)
  | '0' :: rest => if (rest.head?.map Char.isDigit).getD false then none else some (['0'], rest)
  | text => digits? text

def fractionPart? : List Char → Option (Option (List Char) × List Char)
  | '.' :: rest => (digits? rest).map fun (digits, rest) => (some digits, rest)
  | text => some (none, text)

def signedExponent? : List Char → Option (Int × List Char)
  | '-' :: rest => (digits? rest).map fun (digits, rest) => (-(decimalValue 0 digits : Int), rest)
  | '+' :: rest => (digits? rest).map fun (digits, rest) => ((decimalValue 0 digits : Int), rest)
  | text => (digits? text).map fun (digits, rest) => ((decimalValue 0 digits : Int), rest)

def exponentPart? : List Char → Option (Option Int × List Char)
  | 'e' :: rest => (signedExponent? rest).map fun (exponent, rest) => (some exponent, rest)
  | 'E' :: rest => (signedExponent? rest).map fun (exponent, rest) => (some exponent, rest)
  | text => some (none, text)

/-- A double precision number, or no value when it is infinite. -/
def finite? (value : Binary64) : Option Json.Number :=
  if value.isFinite then some (.real value) else none

/-- The number that a sign and the parts of a number text stand for. An integer is kept exactly
within 64 bits; a negative zero is a double precision number. -/
def numberOf (negative : Bool) (whole : List Char) (fraction : Option (List Char))
    (exponent : Option Int) :
    Option Json.Number :=
  match fraction, exponent with
  | none, none =>
    let value := decimalValue 0 whole
    if !negative && decide (value < UInt64.size) then some (.natural value)
    else if negative && decide (0 < value) && decide (value ≤ UInt64.size / 2) then
      some (.negative value)
    else finite? (Numeric.scaledDecimal negative whole [] 0)
  | fraction, exponent =>
      finite? (Numeric.scaledDecimal negative whole (fraction.getD []) (exponent.getD 0))

def numberTail? (negative : Bool) (text : List Char) : Option (Document × List Char) := do
  let (whole, rest) ← wholePart? text
  let (fraction, rest) ← fractionPart? rest
  let (exponent, rest) ← exponentPart? rest
  some (.number (numberOf negative whole fraction exponent), rest)

def behind? : List Char → List Char → Option (List Char)
  | [], text => some text
  | c :: word, d :: text => if c = d then behind? word text else none
  | _ :: _, [] => none

mutual

def documentTail? : Nat → List Char → Option (Document × List Char)
  | 0, _ => none
  | fuel + 1, text =>
    match skipBlanks text with
    | '"' :: rest => (stringTail? (fuel + 1) (some []) rest).map fun (text, rest) =>
        (.string text, rest)
    | '[' :: rest =>
      match skipBlanks rest with
      | ']' :: rest => some (.array [], rest)
      | rest => itemsTail? fuel [] rest
    | '{' :: rest =>
      match skipBlanks rest with
      | '}' :: rest => some (.object [], rest)
      | rest => fieldsTail? fuel [] rest
    | '-' :: rest => numberTail? true rest
    | 'n' :: rest => (behind? "ull".toList rest).map fun rest => (.null, rest)
    | 't' :: rest => (behind? "rue".toList rest).map fun rest => (.bool true, rest)
    | 'f' :: rest => (behind? "alse".toList rest).map fun rest => (.bool false, rest)
    | text => numberTail? false text

/-- The items of an array from the next one on. `read` holds those before in reverse. -/
def itemsTail? : Nat → List Document → List Char → Option (Document × List Char)
  | 0, _, _ => none
  | fuel + 1, read, text =>
    match documentTail? fuel text with
    | none => none
    | some (item, rest) =>
      match skipBlanks rest with
      | ',' :: rest => itemsTail? fuel (item :: read) rest
      | ']' :: rest => some (.array (item :: read).reverse, rest)
      | _ => none

/-- The fields of an object from the next one on. `read` holds those before in reverse. -/
def fieldsTail? : Nat → List (Option String × Document) → List Char → Option (Document × List Char)
  | 0, _, _ => none
  | fuel + 1, read, text =>
    match skipBlanks text with
    | '"' :: rest =>
      match stringTail? (fuel + 1) (some []) rest with
      | none => none
      | some (name, rest) =>
        match skipBlanks rest with
        | ':' :: rest =>
          match documentTail? fuel rest with
          | none => none
          | some (value, rest) =>
            match skipBlanks rest with
            | ',' :: rest => fieldsTail? fuel ((name, value) :: read) rest
            | '}' :: rest => some (.object ((name, value) :: read).reverse, rest)
            | _ => none
        | _ => none
    | _ => none

end

/-- The document that a whole text holds. Every step of the reading takes a character, so its length
bounds them. -/
def Document.parse? (text : String) : Option Document :=
  let chars := text.toList
  match documentTail? (chars.length + 1) chars with
  | some (document, rest) => if (skipBlanks rest).isEmpty then some document else none
  | none => none

/-- What a reader expects: any value, a choice between names, a record with its fields in order, or
a list of one shape. -/
inductive Shape where
  | any
  | choice
  | list (item : Shape)
  | record (fields : List (String × Shape))

/-- Arrays and objects may nest this deep. -/
def maxNesting : Nat := 127

mutual

/-- The value of a document with at most `levels` nested arrays and objects. The last of several
fields of one name stays. -/
def Document.value? (levels : Nat) : Document → Option Json
  | .null => some .null
  | .bool value => some (.bool value)
  | .number value => value.map .number
  | .string text => text.map .string
  | .array items => if levels = 0 then none else (Document.values? (levels - 1) items).map .array
  | .object fields => if levels = 0 then none
      else (Document.fieldValues? (levels - 1) [] fields).map .object

def Document.values? (levels : Nat) : List Document → Option (List Json)
  | [] => some []
  | item :: rest =>
    match Document.value? levels item with
    | some value => (Document.values? levels rest).map (value :: ·)
    | none => none

def Document.fieldValues? (levels : Nat) (read : List (String × Json)) :
    List (Option String × Document) → Option (List (String × Json))
  | [] => some read
  | (name, value) :: rest =>
    match name, Document.value? levels value with
    | some name, some value => Document.fieldValues? levels (insertField name value read) rest
    | _, _ => none

end

def Shape.field? (name : String) (fields : List (String × Shape)) : Option Shape :=
  (fields.find? fun entry => entry.1 == name).map Prod.snd

mutual

/-- The part of a document that a reader of the given shape retains. -/
def Document.retain? (levels : Nat) : Shape → Document → Option Json
  | .list shape, .array items =>
    if levels = 0 then none else (Document.retainItems? (levels - 1) shape items).map .array
  | .record fields, .array items =>
    if levels = 0 then none else (Document.retainPositions? (levels - 1) fields items).map .array
  | .record fields, .object entries =>
    if levels = 0 then none else (Document.retainFields? (levels - 1) fields [] entries).map .object
  | .choice, .object (_ :: _ :: _) => none
  | _, document => document.value? levels

def Document.retainItems? (levels : Nat) (shape : Shape) : List Document → Option (List Json)
  | [] => some []
  | item :: rest =>
    match Document.retain? levels shape item with
    | some value => (Document.retainItems? levels shape rest).map (value :: ·)
    | none => none

def Document.retainPositions? (levels : Nat) : List (String × Shape) → List Document →
    Option (List Json)
  | _, [] => some []
  | [], _ :: _ => none
  | (_, shape) :: fields, item :: rest =>
    match Document.retain? levels shape item with
    | some value => (Document.retainPositions? levels fields rest).map (value :: ·)
    | none => none

def Document.retainFields? (levels : Nat) (fields : List (String × Shape))
    (read : List (String × Json)) :
    List (Option String × Document) → Option (List (String × Json))
  | [] => some read
  | (name, document) :: rest =>
    match name with
    | none => none
    | some name =>
      match Shape.field? name fields with
      | none => Document.retainFields? levels fields read rest
      | some shape =>
        if (lookup name read).isSome then none
        else
          match Document.retain? levels shape document with
          | some value => Document.retainFields? levels fields (read ++ [(name, value)]) rest
          | none => none

end

def parseAs? (shape : Shape) (text : String) : Option Json :=
  (Document.parse? text).bind (Document.retain? maxNesting shape)

def parse? (text : String) : Option Json :=
  parseAs? .any text

/-- What stands for bytes that encode no character. Its escape is half of a surrogate pair, so a
string with it has no value; its first letter is no escape, no digit and no token, so anywhere else
it is refused. -/
def undecodable : List Char :=
  "x\\udc00".toList

/-- What a reader of the given shape retains of the bytes of a text. Strings that it does not retain
need not be UTF-8. -/
def parseBytesAs? (shape : Shape) (bytes : ByteArray) : Option Json :=
  parseAs? shape ((String.fromUTF8? bytes).getD (Text.decodedWith undecodable bytes))

end Spellspan.Json
