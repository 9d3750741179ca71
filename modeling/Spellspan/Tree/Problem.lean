import Spellspan.Text.Quoted
import Spellspan.Tree.Node

/-!
What can be wrong with the shape of a tree. All but a cycle are reported and stepped over.
-/
set_option autoImplicit false

namespace Spellspan.Tree

/-- A problem that a traversal steps over. -/
inductive TraversalError where
  /-- A slot, or an item of its list, holds something that is no node. -/
  | malformedSlot (node : NodeId) (kind slot found : String)
  /-- A kind without child slots of its own, at the first node of that kind. -/
  | unknownKind (node : NodeId) (kind : String)
  | sharedNode (node parent : NodeId) (slot : String)
  | danglingChild (node parent : NodeId) (slot : String)
  | tooDeep (node : NodeId) (depth : Nat)
  | missingRoot (node : NodeId)
  deriving DecidableEq, Repr

namespace TraversalError

/-- The node that a problem is attached to: the one that holds a reference when its target does not
exist. -/
def node : TraversalError → NodeId
  | .malformedSlot node _ _ _ => node
  | .unknownKind node _ => node
  | .sharedNode node _ _ => node
  | .danglingChild _ parent _ => parent
  | .tooDeep node _ => node
  | .missingRoot node => node

def message : TraversalError → String
  | .malformedSlot node kind slot found =>
    s!"slot {kind}.{slot} of node {NodeId.render node} holds {found}, expected a node or list of nodes"
  | .unknownKind node kind =>
    s!"unknown node kind {Text.quoted kind} (first seen at {NodeId.render node}), probing conventional slots"
  | .sharedNode node parent slot =>
    s!"node {NodeId.render node} reached again through {NodeId.render parent}.{slot} after it was visited; skipped"
  | .danglingChild node parent slot =>
    s!"slot {slot} of node {NodeId.render parent} refers to missing node {NodeId.render node}"
  | .tooDeep node depth =>
      s!"node {NodeId.render node} is nested {depth} levels deep; subtree skipped"
  | .missingRoot node => s!"tree root {NodeId.render node} does not exist"

end TraversalError

/-- A node is referred to from within its own subtree. -/
structure CycleError where
  node : NodeId
  parent : NodeId
  slot : String
  deriving DecidableEq, Repr

def CycleError.message (error : CycleError) : String :=
  s!"cycle detected: node {NodeId.render error.node} reached again through " ++
    s!"{NodeId.render error.parent}.{error.slot} before its subtree completed"

end Spellspan.Tree
