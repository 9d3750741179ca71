import Spellspan.Tree.Span

/-!
Syntax nodes. A node refers to its children by number through named slots, so that a tree is a table
of nodes and a reference may be missing, shared or circular.
-/
set_option autoImplicit false

namespace Spellspan.Tree

/-- The position of a node in its tree, without a bound. Numbers of 32 bits would be the same up to
2 ^ 32 nodes and start again from zero beyond, which no table here does. -/
abbrev NodeId := Nat

def NodeId.render (id : NodeId) : String :=
  s!"#{id}"

/-- The literal that a node carries. -/
inductive NodeValue where
  | string (text : String)
  | number (value : Numeric.Binary64)
  | boolean (value : Bool)
  | null
  | regex (pattern flags : String)
  | bigInt (digits : String)
  deriving DecidableEq, Repr

/-- The contents of a child slot. A scalar is a value that is no node, with a short text for
messages. -/
inductive Slot where
  | empty
  | node (id : NodeId)
  | list (items : List Slot)
  | scalar (text : String)
  deriving Repr

namespace Slot

def nodes (ids : List NodeId) : Slot :=
  .list (ids.map .node)

def asNode? : Slot → Option NodeId
  | .node id => some id
  | _ => none

end Slot

/-- A syntax node. Its slots stand in the order in which they were first set, each name once. -/
structure Node where
  kind : String
  span : Span
  value : Option NodeValue := none
  raw : Option String := none
  slots : List (String × Slot) := []

/-- Sets a named slot: in place when the name is there, behind the others when it is not. -/
def setSlotIn (name : String) (slot : Slot) : List (String × Slot) → List (String × Slot)
  | [] => [(name, slot)]
  | (key, old) :: rest => if key = name then (name, slot) :: rest
      else (key, old) :: setSlotIn name slot rest

def slotIn? (name : String) : List (String × Slot) → Option Slot
  | [] => none
  | (key, slot) :: rest => if key = name then some slot else slotIn? name rest

namespace Node

def setSlot (node : Node) (name : String) (slot : Slot) : Node :=
  { node with slots := setSlotIn name slot node.slots }

def slot? (node : Node) (name : String) : Option Slot :=
  slotIn? name node.slots

def child? (node : Node) (name : String) : Option NodeId :=
  (node.slot? name).bind Slot.asNode?

/-- The name of an identifier, the value of a string literal, the text of a comment. -/
def stringValue? (node : Node) : Option String :=
  match node.value with
  | some (.string text) => some text
  | _ => none

def isComment (node : Node) : Bool :=
  node.kind == "Line" || node.kind == "Block"

end Node
end Spellspan.Tree
