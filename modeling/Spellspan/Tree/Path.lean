import Spellspan.Tree.Basic

/-!
Where a node stands: the chain of nodes from the root down to it, with the slot that led to each.
-/
set_option autoImplicit false

namespace Spellspan.Tree

/-- The slot, and the place in its list, through which a node was reached. -/
structure SlotKey where
  name : String
  index : Option Nat := none
  deriving DecidableEq, Repr

/-- The text form `name` or `name[index]`. -/
def SlotKey.render (key : SlotKey) : String :=
  match key.index with
  | some index => s!"{key.name}[{index}]"
  | none => key.name

/-- One node of a chain. Only the root has no key. -/
structure Frame where
  node : NodeId
  key : Option SlotKey
  deriving DecidableEq, Repr

/-- A node with the frames above it, the nearest first. -/
structure Path where
  current : Frame
  above : List Frame
  deriving DecidableEq, Repr

namespace Path

def node (path : Path) : NodeId :=
  path.current.node

def key? (path : Path) : Option SlotKey :=
  path.current.key

def depth (path : Path) : Nat :=
  path.above.length

def parent? (path : Path) : Option Frame :=
  path.above.head?

def frames (path : Path) : List Frame :=
  path.current :: path.above

def chain (path : Path) : List NodeId :=
  path.frames.map Frame.node

end Path
end Spellspan.Tree
