import Spellspan.Json.Value
import Spellspan.Numeric.Reading
import Spellspan.Surroundings.Yaml.Node

/-!
The types of scalars. With quotes, or in a block of lines, a scalar is a text. Without, it is a
null, a truth value or a number if it looks like one, and a text otherwise. A scalar may also name
its type.
-/
set_option autoImplicit false

namespace Spellspan.Yaml

open Numeric (Binary64 decimal? natural?)

def nullWords : List String :=
  ["null", "Null", "NULL", "~"]

def boolOf? (text : String) : Option Bool :=
  if ["true", "True", "TRUE"].contains text then some true
  else if ["false", "False", "FALSE"].contains text then some false
  else none

def isPaddedZero (digits : List Char) : Bool :=
  1 < digits.length && digits.head? == some '0' && digits.all Char.isDigit

/-- The magnitude of an integer without its sign: in base sixteen, eight or two behind a mark, and
decimal. -/
def magnitude? (digits : List Char) : Option Nat :=
  match digits with
  | '0' :: 'x' :: rest => natural? 16 rest
  | '0' :: 'o' :: rest => natural? 8 rest
  | '0' :: 'b' :: rest => natural? 2 rest
  | digits => if isPaddedZero digits then none else natural? 10 digits

def naturalOf? : List Char → Option Nat
  | '+' :: digits => magnitude? digits
  | digits => magnitude? digits

def negativeOf? : List Char → Option Nat
  | '-' :: digits => magnitude? digits
  | _ => none

def specialReals : List String :=
  [".inf", ".Inf", ".INF", "+.inf", "+.Inf", "+.INF", "-.inf", "-.Inf", "-.INF", ".nan",
    ".NaN", ".NAN"]

def finiteOf? (text : List Char) : Option Binary64 :=
  let value := match text with
    | '+' :: digits => decimal? false digits
    | '-' :: digits => decimal? true digits
    | digits => decimal? false digits
  value.filter Binary64.isFinite

inductive Typed where
  | null
  | bool (value : Bool)
  | natural (value : Nat)
  | negative (magnitude : Nat)
  | real
  | text (value : String)
  deriving DecidableEq, Repr

def Typed.ofNatural (value : Nat) : Option (Option Typed) :=
  if value < UInt64.size then some (some (.natural value))
  else if value < UInt64.size * UInt64.size then some none
  else none

def Typed.ofNegative (magnitude : Nat) : Option (Option Typed) :=
  if magnitude ≤ UInt64.size / 2 then some (some (.negative magnitude))
  else if magnitude ≤ UInt64.size * UInt64.size / 2 then some none
  else none

/-- The type of an integer. One of more than 64 bits, and at most 128, has none. -/
def Typed.integer? (chars : List Char) : Option (Option Typed) :=
  ((naturalOf? chars).bind Typed.ofNatural).or ((negativeOf? chars).bind Typed.ofNegative)

/-- Whether a text is a number with a fraction or an exponent, or a word for one that is not finite.
-/
def isReal (text : String) : Bool :=
  specialReals.contains text || (finiteOf? text.toList).isSome

/-- Digits behind an optional sign that a zero keeps from being a number. -/
def isPadded : List Char → Bool
  | '+' :: digits => isPaddedZero digits
  | '-' :: digits => isPaddedZero digits
  | digits => isPaddedZero digits

def Typed.ofPlain? (text : String) : Option Typed :=
  if text = "" || nullWords.contains text then some .null
  else
    match boolOf? text with
    | some value => some (.bool value)
    | none =>
      match Typed.integer? text.toList with
      | some typed => typed
      | none => some (if !isPadded text.toList && isReal text then .real else .text text)

def coreTag (name : String) : String :=
  "tag:yaml.org,2002:" ++ name

def isMarkedLocal (tag : String) : Bool :=
  tag.startsWith "!"

/-- Whether a type is one of the text itself. Values with such a type cannot be read without knowing
it. A type whose bytes are no text has no name, and does not count. -/
def isLocalTag (tag : String) : Bool :=
  let bytes : ByteArray := ⟨(tag.toList.map fun c => UInt8.ofNat c.toNat).toArray⟩
  isMarkedLocal tag && (String.fromUTF8? bytes).isSome

/-- The type of a scalar that names its type. Besides the types of the language every other type is
a text, but for a scalar without quotes whose type is marked as one of the text itself. -/
def Typed.ofTagged? (tag : String) (style : Style) (text : String) : Option Typed :=
  if isLocalTag tag then none
  else if isMarkedLocal tag && style = .plain then Typed.ofPlain? text
  else if tag = coreTag "bool" then (boolOf? text).map .bool
  else if tag = coreTag "int" then (Typed.integer? text.toList).join
  else if tag = coreTag "float" then if isReal text then some .real else none
  else if tag = coreTag "null" then if nullWords.contains text then some .null else none
  else some (.text text)

def Typed.of? (tag : Option String) (style : Style) (text : String) : Option Typed :=
  match tag with
  | some tag => Typed.ofTagged? tag style text
  | none => if style = .plain then Typed.ofPlain? text else some (.text text)

mutual

def isTypable : Yaml → Bool
  | .scalar style text => (Typed.of? none style text).isSome
  | .sequence items => areTypable items
  | .mapping entries => areEntriesTypable entries
  | .tagged tag (.scalar style text) => (Typed.ofTagged? tag style text).isSome
  | .tagged tag value => !isLocalTag tag && isTypable value
  | .alias value _ => isTypable value
  | .endless => false

def areTypable : List Yaml → Bool
  | [] => true
  | item :: rest => isTypable item && areTypable rest

def areEntriesTypable : List (Yaml × Yaml) → Bool
  | [] => true
  | (key, value) :: rest => isTypable key && isTypable value && areEntriesTypable rest

end

mutual

def depth : Yaml → Nat
  | .scalar _ _ => 0
  | .sequence items => depthOfItems items + 1
  | .mapping entries => depthOfEntries entries + 1
  | .tagged _ value => value.depth
  | .alias value _ => value.depth
  | .endless => 0

def depthOfItems : List Yaml → Nat
  | [] => 0
  | item :: rest => max item.depth (depthOfItems rest)

def depthOfEntries : List (Yaml × Yaml) → Nat
  | [] => 0
  | (key, value) :: rest => max (max key.depth value.depth) (depthOfEntries rest)

end

/-- The record form of a typed scalar. Only that a number is none that a record can hold matters of
a fraction. -/
def Typed.toJson : Typed → Json
  | .null => .null
  | .bool value => .bool value
  | .natural value => .nat value
  | .negative 0 => .nat 0
  | .negative magnitude => .number (.negative magnitude)
  | .real => .number (.real Binary64.nan)
  | .text value => .string value

def typed? (value : Yaml) : Option Typed :=
  match value.bare with
  | .scalar style text => Typed.of? value.tag? style text
  | _ => none

/-- The name of a field. A key is a text, or the position of one of the names. -/
def fieldName? (names : List String) (key : Yaml) : Option String :=
  match key.typed? with
  | some (.text name) => some name
  | some (.natural position) => some (names.getD position "")
  | _ => none

mutual

/-- The record form of a value. Of a mapping it has the fields in `names`, none of which may be
given twice; what other fields hold does not matter. -/
def toJson? (names : List String) : Yaml → Option Json
  | .scalar style text => (Typed.of? none style text).map Typed.toJson
  | .sequence items => (itemsToJson? names items).map .array
  | .mapping entries => do
    let fields ← entriesToJson? names entries
    if names.all fun name => (fields.filter fun field => field.1 == name).length ≤
      1 then some (.object fields) else none
  | .tagged tag (.scalar style text) => (Typed.ofTagged? tag style text).map Typed.toJson
  | .tagged _ value => toJson? names value
  | .alias value _ => toJson? names value
  | .endless => none

def itemsToJson? (names : List String) : List Yaml → Option (List Json)
  | [] => some []
  | item :: rest => do
    let item ← toJson? names item
    let rest ← itemsToJson? names rest
    some (item :: rest)

def entriesToJson? (names : List String) : List (Yaml × Yaml) → Option (List (String × Json))
  | [] => some []
  | (key, value) :: rest => do
    let name ← fieldName? names key
    let rest ← entriesToJson? names rest
    if names.contains name then (toJson? names value).map fun value => (name, value) :: rest
    else some rest

end

end Spellspan.Yaml
