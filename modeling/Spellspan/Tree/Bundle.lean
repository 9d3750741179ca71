import Spellspan.Json.Choice
import Spellspan.Json.Document
import Spellspan.Json.Printer
import Spellspan.SourceFile
import Spellspan.Text.OffsetMap

/-!
Bundles: a source text and its syntax tree in one JSON record. An object with a `type` is a node,
its other fields are its slots. Numbers are given out before the children are read, so the nodes of
a subtree follow their root without a gap.
-/
set_option autoImplicit false

namespace Spellspan.Tree

open Text (OffsetEncoding)

/-- A file name, the text of the file, its tree, and the unit of the offsets in the tree. -/
structure Bundle where
  filename : String
  text : String
  ast : Json
  encoding : OffsetEncoding := .utf8

namespace Bundle

def metadataKeys : List String :=
  ["type", "range", "start", "end", "loc", "raw", "regex", "bigint", "tokens"]

def stringField? (name : String) (fields : List (String × Json)) : Option String :=
  (Json.lookup name fields).bind Json.asString?

/-- The pair of offsets at the start of a `range`. -/
def rangePair? : Json → Option (Nat × Nat)
  | .array (start :: stop :: _) => do
    let start ← start.asNat?
    let stop ← stop.asNat?
    some (start, stop)
  | _ => none

/-- The offsets of a node as the producer counts them: its `range`, or its `start` and `end`. -/
def offsets? (fields : List (String × Json)) : Option (Nat × Nat) :=
  ((Json.lookup "range" fields).bind rangePair?).or do
    let start ← (Json.lookup "start" fields).bind Json.asNat?
    let stop ← (Json.lookup "end" fields).bind Json.asNat?
    some (start, stop)

/-- The span of a node in bytes; empty at the start of the text when the node has no offsets. -/
def spanOf (text : List Char) (encoding : OffsetEncoding) (fields : List (String × Json)) : Span :=
  match offsets? fields with
  | some (start, stop) => ⟨Text.toByte text encoding start, Text.toByte text encoding stop⟩
  | none => {}

/-- The text in the parts of a template element: cooked before raw. -/
def templateText? (parts : List (String × Json)) : Option String :=
  ((Json.lookup "cooked" parts).or (Json.lookup "raw" parts)).bind Json.asString?

/-- The literal of a node: a regular expression, a big integer, a name, or its value, whichever
comes first. -/
def valueOf? (kind : String) (fields : List (String × Json)) : Option NodeValue :=
  match (Json.lookup "regex" fields).bind Json.asObject? with
  | some parts => some
      (.regex ((stringField? "pattern" parts).getD "") ((stringField? "flags" parts).getD ""))
  | none =>
    match stringField? "bigint" fields with
    | some digits => some (.bigInt digits)
    | none =>
      match stringField? "name" fields with
      | some name => some (.string name)
      | none =>
        match Json.lookup "value" fields with
        | some (.string text) => some (.string text)
        | some (.number value) => some (.number value.toBinary64)
        | some (.bool value) => some (.boolean value)
        | some .null => if kind = "Literal" then some .null else none
        | some (.object parts) =>
          if (Json.lookup "type" parts).isSome then none else (templateText? parts).map .string
        | _ => none

def nodeOf (text : List Char) (encoding : OffsetEncoding) (fields : List (String × Json)) : Node :=
  let kind := (stringField? "type" fields).getD "Unknown"
  { kind, span := spanOf text encoding fields, value := valueOf? kind fields, raw :=
    stringField? "raw" fields }

/-- Whether a field is the payload of its node: names and literal values are, nodes and lists are
not. -/
def isPayload (key : String) : Json → Bool
  | .string _ => key == "name" || key == "value"
  | .number _ => key == "name" || key == "value"
  | .bool _ => key == "name" || key == "value"
  | .object parts => key == "value" && (Json.lookup "type" parts).isNone
  | _ => false

/-- Whether a field holds no child slot. -/
def isSkipped (key : String) (value : Json) : Bool :=
  metadataKeys.contains key || isPayload key value

def scalarText : Json → String
  | .object _ => "\x7b...\x7d"
  | .array _ => "[...]"
  | value => value.compact

mutual

def readSlot (text : List Char) (encoding : OffsetEncoding) : Json → Builder → Slot × Builder
  | .object fields, builder =>
    if (Json.lookup "type" fields).isSome then
      let (id, builder) := builder.push (nodeOf text encoding fields)
      (.node id, readFields text encoding id fields builder)
    else (.scalar (scalarText (.object fields)), builder)
  | .array items, builder =>
    let (slots, builder) := readItems text encoding items builder
    (.list slots, builder)
  | .null, builder => (.empty, builder)
  | value, builder => (.scalar (scalarText value), builder)

def readItems (text : List Char) (encoding : OffsetEncoding) :
    List Json → Builder → List Slot × Builder
  | [], builder => ([], builder)
  | item :: rest, builder =>
    let (slot, builder) := readSlot text encoding item builder
    let (slots, builder) := readItems text encoding rest builder
    (slot :: slots, builder)

def readFields (text : List Char) (encoding : OffsetEncoding) (id : NodeId) :
    List (String × Json) → Builder → Builder
  | [], builder => builder
  | (key, value) :: rest, builder =>
    if isSkipped key value then readFields text encoding id rest builder
    else
      let (slot, builder) := readSlot text encoding value builder
      readFields text encoding id rest (builder.setSlot id key slot)

end

/-- The tree that a value describes. Refused unless it is a record with a string as its `type`. -/
def treeOf? (ast : Json) (text : List Char) (encoding : OffsetEncoding) : Option SyntaxTree :=
  match ast with
  | .object fields =>
    match stringField? "type" fields with
    | some _ =>
      let (id, builder) := Builder.push {} (nodeOf text encoding fields)
      some ((readFields text encoding id fields builder).finish id)
    | none => none
  | _ => none

def shape : Json.Shape :=
  .record [("filename", .any), ("text", .any), ("ast", .any), ("offsetEncoding", .choice)]

def encodingOf? (value : Json) : Option OffsetEncoding :=
  match value.choice? with
  | some "utf8" => some .utf8
  | some "utf16" => some .utf16
  | _ => none

def ofJson? (value : Json) : Option Bundle := do
  let fields ← value.recordFields? ["filename", "text", "ast", "offsetEncoding"]
  let filename ← stringField? "filename" fields
  let text ← stringField? "text" fields
  let ast ← Json.lookup "ast" fields
  let encoding ← ((Json.lookup "offsetEncoding" fields).map encodingOf?).getD (some .utf8)
  some { filename, text, ast, encoding }

def ofText? (text : String) : Option Bundle :=
  (Json.parseAs? shape text).bind ofJson?

def rootMessage : String :=
  "ESTree root must be an object with a \"type\""

/-- The file of a bundle. Refused when the root of its tree is no node. -/
def load? (bundle : Bundle) : Option SourceFile :=
  let text := bundle.text.toList
  (treeOf? bundle.ast text bundle.encoding).map fun tree =>
    { filename := bundle.filename, text, tree }

end Bundle
end Spellspan.Tree
