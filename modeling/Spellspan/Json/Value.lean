import Spellspan.Numeric.Shortest

/-!
JSON values. A number keeps the form in which it is exact: a natural number, a negative integer, or
a double precision number. The fields of an object stand in the order in which they are written.
-/
set_option autoImplicit false

namespace Spellspan

/-- A JSON number. The magnitude of a negative integer is its distance from zero. -/
inductive Json.Number where
  | natural (value : Nat)
  | negative (magnitude : Nat)
  | real (value : Numeric.Binary64)
  deriving DecidableEq, Repr

/-- A JSON value. -/
inductive Json where
  | null
  | bool (value : Bool)
  | number (value : Json.Number)
  | string (text : String)
  | array (items : List Json)
  | object (fields : List (String × Json))
  deriving Repr

namespace Json

def Number.toBinary64 : Json.Number → Numeric.Binary64
  | .natural value => .ofNat false value
  | .negative magnitude => .ofNat true magnitude
  | .real value => value

def lookup (name : String) : List (String × Json) → Option Json
  | [] => none
  | (key, value) :: rest => if key = name then some value else lookup name rest

def field? (name : String) : Json → Option Json
  | .object fields => lookup name fields
  | _ => none

def asString? : Json → Option String
  | .string text => some text
  | _ => none

def asBool? : Json → Option Bool
  | .bool value => some value
  | _ => none

def asNat? : Json → Option Nat
  | .number (.natural value) => some value
  | _ => none

def asArray? : Json → Option (List Json)
  | .array items => some items
  | _ => none

def asObject? : Json → Option (List (String × Json))
  | .object fields => some fields
  | _ => none

def asStrings? (value : Json) : Option (List String) :=
  value.asArray?.bind fun items => items.mapM asString?

def nat (value : Nat) : Json :=
  .number (.natural value)

def strings (texts : List String) : Json :=
  .array (texts.map .string)

/-- Sets a field in a list sorted by name: the last value given to a name stays. -/
def insertField (name : String) (value : Json) : List (String × Json) → List (String × Json)
  | [] => [(name, value)]
  | (key, old) :: rest =>
    if name = key then (name, value) :: rest
    else if name < key then (name, value) :: (key, old) :: rest
    else (key, old) :: insertField name value rest

/-- The fields of a record: by name when it is written as an object, in the order of `names` when as
an array. -/
def recordFields? (names : List String) : Json → Option (List (String × Json))
  | .object fields => some fields
  | .array items => if items.length ≤ names.length then some (names.zip items) else none
  | _ => none

end Json
end Spellspan
