import Spellspan.Tree.Node

/-!
Trees as tables of nodes, and the table while it is being filled.
-/
set_option autoImplicit false

namespace Spellspan

/-- A table of nodes with the number of its root. Nothing ties the numbers in slots to existing
nodes. -/
structure SyntaxTree where
  nodes : Array Tree.Node
  root : Tree.NodeId

namespace SyntaxTree

open Spellspan.Tree

def get? (tree : SyntaxTree) (id : NodeId) : Option Node :=
  tree.nodes[id]?

def size (tree : SyntaxTree) : Nat :=
  tree.nodes.size

def text? (tree : SyntaxTree) (id : NodeId) (text : List Char) : Option (List Char) :=
  (tree.get? id).bind fun node => node.span.text? text

end SyntaxTree

namespace Tree

/-- A table of nodes under construction. -/
structure Builder where
  nodes : Array Node := #[]

namespace Builder

/-- Adds a node at the end. Its number is the size of the table before, not cut to 32 bits. -/
def push (builder : Builder) (node : Node) : NodeId × Builder :=
  (builder.nodes.size, ⟨builder.nodes.push node⟩)

/-- Changes a node. An unknown number changes nothing. -/
def modify (builder : Builder) (id : NodeId) (change : Node → Node) : Builder :=
  ⟨builder.nodes.modify id change⟩

def setSlot (builder : Builder) (id : NodeId) (name : String) (slot : Slot) : Builder :=
  builder.modify id fun node => node.setSlot name slot

def get? (builder : Builder) (id : NodeId) : Option Node :=
  builder.nodes[id]?

def size (builder : Builder) : Nat :=
  builder.nodes.size

def finish (builder : Builder) (root : NodeId) : SyntaxTree :=
  ⟨builder.nodes, root⟩

end Builder
end Tree
end Spellspan
