import Spellspan.Tree.Walk

/-!
The walk as a recursion. The recursive traversal keeps nothing but the nodes it visited, each with
the chain above it, and the problems it met: the chain of the node being visited is an argument, so
a node is in progress when it is on that chain and done when it was visited and is not. It has no
stack, no marks and no counter.
-/
set_option autoImplicit false

namespace Spellspan.Tree

/-! ## What a node holds -/

namespace Slot

def misfit? : Slot → Option String
  | .empty => none
  | .node _ => none
  | .scalar found => some found
  | .list _ => some "a nested list"

def children (name : String) : Slot → List (SlotKey × NodeId)
  | .empty => []
  | .node id => [(⟨name, none⟩, id)]
  | .list items => items.zipIdx.filterMap fun (item, index) => item.asNode?.map fun id =>
      (⟨name, some index⟩, id)
  | .scalar _ => []

/-- What a slot holds where a node is expected, in order, each with its key. -/
def misfits (name : String) : Slot → List (SlotKey × String)
  | .empty => []
  | .node _ => []
  | .list items => items.zipIdx.filterMap fun (item, index) => item.misfit?.map fun found =>
      (⟨name, some index⟩, found)
  | .scalar found => [(⟨name, none⟩, found)]

end Slot

namespace Node

def childrenIn (node : Node) (names : List String) : List (SlotKey × NodeId) :=
  names.flatMap fun name => ((node.slot? name).map (Slot.children name)).getD []

/-- What the slots of the given names hold where a node is expected, in the order of the names. -/
def misfitsIn (node : Node) (names : List String) : List (SlotKey × String) :=
  names.flatMap fun name => ((node.slot? name).map (Slot.misfits name)).getD []

/-- A key names the place of a child: a slot that holds it, or an item of a slot's list. -/
def Holds (node : Node) (key : SlotKey) (id : NodeId) : Prop :=
  match key.index with
  | none => node.slot? key.name = some (.node id)
  | some index => ∃ items, node.slot? key.name = some (.list items) ∧
      items[index]? = some (.node id)

end Node

theorem Slot.mem_children {name : String} {slot : Slot} {key : SlotKey} {id : NodeId} :
    (key, id) ∈ slot.children name ↔ key.name = name ∧
      match key.index with
      | none => slot = .node id
      | some index => ∃ items, slot = .list items ∧ items[index]? = some (.node id) := by
  obtain ⟨keyName, keyIndex⟩ := key
  cases slot with
  | empty => cases keyIndex <;> simp [Slot.children]
  | scalar found => cases keyIndex <;> simp [Slot.children]
  | node child =>
      cases keyIndex with
      | none => simp [Slot.children, eq_comm]
      | some index => simp [Slot.children]
  | list items =>
      have itemNode : ∀ item : Slot, item.asNode? = some id ↔ item = .node id := by
        intro item
        cases item <;> simp [Slot.asNode?]
      cases keyIndex with
      | none => simp [Slot.children]
      | some index =>
          simp only [Slot.children, List.mem_filterMap, Option.map_eq_some_iff, Prod.mk.injEq,
            SlotKey.mk.injEq, Option.some.injEq, Slot.list.injEq, exists_eq_left']
          constructor
          · rintro ⟨⟨item, position⟩, listed, child, isNode, ⟨rfl, rfl⟩, rfl⟩
            rw [itemNode] at isNode
            subst isNode
            exact ⟨rfl, List.mk_mem_zipIdx_iff_getElem?.mp listed⟩
          · rintro ⟨rfl, held⟩
            exact ⟨(.node id, index), List.mk_mem_zipIdx_iff_getElem?.mpr held, id, rfl,
              ⟨rfl, rfl⟩, rfl⟩

/-- The listed children are exactly those that the named slots hold. -/
theorem Node.mem_childrenIn {node : Node} {names : List String} {key : SlotKey} {id : NodeId} :
    (key, id) ∈ node.childrenIn names ↔ key.name ∈ names ∧ node.Holds key id := by
  have inSlot : ∀ name, (key, id) ∈ ((node.slot? name).map (Slot.children name)).getD [] ↔
      key.name = name ∧ node.Holds key id := by
    intro name
    cases stored : node.slot? name with
    | none =>
        simp only [Option.map_none, Option.getD_none, List.not_mem_nil, false_iff, not_and]
        rintro rfl
        cases place : key.index <;> simp [Node.Holds, place, stored]
    | some slot =>
        simp only [Option.map_some, Option.getD_some, Slot.mem_children]
        refine and_congr_right ?_
        rintro rfl
        cases place : key.index <;> simp [Node.Holds, place, stored]
  simp only [Node.childrenIn, List.mem_flatMap, inSlot]
  constructor
  · rintro ⟨_, named, rfl, holds⟩
    exact ⟨named, holds⟩
  · rintro ⟨named, holds⟩
    exact ⟨_, named, rfl, holds⟩

/-! ## The references of a node are its children and its misfits -/

namespace Reference

theorem filterMap_step?_ofSlot (name : String) (slot : Slot) :
    (ofSlot name slot).filterMap step? = (slot.children name).map fun child =>
      .enter child.2 (some child.1) := by
  cases slot with
  | empty => rfl
  | node id => rfl
  | scalar found => rfl
  | list items =>
      simp only [ofSlot, Slot.children, List.filterMap_filterMap, List.map_filterMap]
      congr 1
      funext entry
      obtain ⟨item, index⟩ := entry
      cases item <;> rfl

theorem filterMap_error?_ofSlot (id : NodeId) (kind name : String) (slot : Slot) :
    (ofSlot name slot).filterMap (error? id kind) =
      (slot.misfits name).map fun misfit => .malformedSlot id kind misfit.1.render misfit.2 := by
  cases slot with
  | empty => rfl
  | node id => rfl
  | scalar found => rfl
  | list items =>
      simp only [ofSlot, Slot.misfits, List.filterMap_filterMap, List.map_filterMap]
      congr 1
      funext entry
      obtain ⟨item, index⟩ := entry
      cases item <;> rfl

/-- What can be picked from every slot can be picked from a node. -/
theorem filterMap_ofNode {Content Picked : Type} {pick : Reference → Option Picked}
    {contents : String → Slot → List Content} {wrap : Content → Picked}
    (picked : ∀ name slot, (ofSlot name slot).filterMap pick = (contents name slot).map wrap)
    (names : List String) (node : Node) :
    (ofNode names node).filterMap pick =
      (names.flatMap fun name => ((node.slot? name).map (contents name)).getD []).map wrap := by
  simp only [ofNode, List.filterMap_flatMap, List.map_flatMap]
  congr 1
  funext name
  cases node.slot? name with
  | none => rfl
  | some slot => exact picked name slot

theorem filterMap_step?_ofNode (names : List String) (node : Node) :
    (ofNode names node).filterMap step? = (node.childrenIn names).map fun child =>
      .enter child.2 (some child.1) :=
  filterMap_ofNode filterMap_step?_ofSlot names node

theorem filterMap_error?_ofNode (id : NodeId) (kind : String) (names : List String) (node : Node) :
    (ofNode names node).filterMap (error? id kind) =
      (node.misfitsIn names).map fun misfit => .malformedSlot id kind misfit.1.render misfit.2 :=
  filterMap_ofNode (filterMap_error?_ofSlot id kind) names node

end Reference

/-! ## The recursive traversal -/

/-- What a traversal leaves behind: its visits and the problems it met, both in order. -/
structure Trail where
  visits : List Path := []
  errors : List TraversalError := []

namespace Trail

def report (trail : Trail) (errors : List TraversalError) : Trail :=
  { trail with errors := trail.errors ++ errors }

def nodes (trail : Trail) : List NodeId :=
  trail.visits.map Path.node

@[simp] theorem nodes_report (trail : Trail) (errors : List TraversalError) :
    (trail.report errors).nodes = trail.nodes := rfl

@[simp] theorem errors_report (trail : Trail) (errors : List TraversalError) :
    (trail.report errors).errors = trail.errors ++ errors := rfl

end Trail

def Path.below (path : Path) (key : SlotKey) (id : NodeId) : Path :=
  ⟨⟨id, some key⟩, path.frames⟩

theorem Path.depth_below (path : Path) (key : SlotKey) (id : NodeId) :
    (path.below key id).depth = path.depth + 1 := rfl

theorem Path.mem_chain_of_ne (path : Path) {id : NodeId} (different : id ≠ path.node) :
    id ∈ path.chain ↔ id ∈ path.above.map Frame.node :=
  List.mem_cons.trans (or_iff_right different)

/-- The links that the visits leave: every visited node but the first is linked to the node it was
reached from. -/
def parentLinks (size : Nat) (visits : List Path) : Array (Option NodeId) :=
  visits.foldl
    (fun links path =>
      match path.parent? with
      | none => links
      | some parent => links.setIfInBounds path.node (some parent.node))
    (Array.replicate size none)

namespace Walker

def kindsMet (walker : Walker) (trail : Trail) : List String :=
  trail.nodes.filterMap fun id => (walker.tree.get? id).map Node.kind

/-- Visits a node. A kind without slots of its own is reported unless a node of that kind was
visited before. -/
def arrive (walker : Walker) (path : Path) (node : Node) (trail : Trail) : Trail where
  visits := trail.visits ++ [path]
  errors := trail.errors ++
    if (walker.table.slotsFor node.kind).2 = .fallback ∧ node.kind ∉ walker.kindsMet trail then
      [.unknownKind path.node node.kind]
    else []

/-- The children of a node under the slots that the table gives to its kind. -/
def childrenOf (walker : Walker) (node : Node) : List (SlotKey × NodeId) :=
  node.childrenIn (walker.table.slotsFor node.kind).1

def malformedSlots (walker : Walker) (id : NodeId) (node : Node) : List TraversalError :=
  (node.misfitsIn (walker.table.slotsFor node.kind).1).map fun misfit =>
    .malformedSlot id node.kind misfit.1.render misfit.2

/-- Enters the children of the last node of a path one after the other. A child that does not exist
and one that was visited are reported and passed over; a child on the path closes a cycle, which
ends the traversal. -/
def visitChildren (walker : Walker) (visit : Path → Node → Trail → Trail × Option CycleError)
    (path : Path) :
    List (SlotKey × NodeId) → Trail → Trail × Option CycleError
  | [], trail => (trail, none)
  | (key, id) :: rest, trail =>
    match walker.tree.get? id with
    | none => walker.visitChildren visit path rest
        (trail.report [.danglingChild id path.node key.render])
    | some node =>
      if id ∈ path.chain then (trail, some ⟨id, path.node, key.render⟩)
      else if id ∈ trail.nodes then
        walker.visitChildren visit path rest (trail.report [.sharedNode id path.node key.render])
      else
        match visit (path.below key id) node trail with
        | (trail, some cycle) => (trail, some cycle)
        | (trail, none) => walker.visitChildren visit path rest trail

/-- Visits a node, and then its children in order. They are entered when the depth limit leaves at
least one level; the levels left are the limit less the depth of the node. -/
def visitSubtree (walker : Walker) : Nat → Path → Node → Trail → Trail × Option CycleError
  | 0, path, node, trail =>
      ((walker.arrive path node trail).report [.tooDeep path.node path.depth], none)
  | levels + 1, path, node, trail =>
    walker.visitChildren (walker.visitSubtree levels) path (walker.childrenOf node)
      ((walker.arrive path node trail).report (walker.malformedSlots path.node node))

def rootPath (walker : Walker) : Path :=
  ⟨⟨walker.tree.root, none⟩, []⟩

def traverse (walker : Walker) : Walk :=
  match walker.tree.get? walker.tree.root with
  | none =>
    { visits := [], visited := 0, errors := [.missingRoot walker.tree.root]
      parents := parentLinks walker.tree.size [], cycle := none }
  | some node =>
    let (trail, cycle) := walker.visitSubtree walker.maxDepth walker.rootPath node {}
    { visits := trail.visits, visited := trail.visits.length, errors := trail.errors
      parents := parentLinks walker.tree.size trail.visits, cycle }

/-! ## Induction over a traversal -/

/-- What the traversal of a subtree and that of a list of children satisfy, case by case. -/
structure TraversalCases (walker : Walker)
    (Subtree : Nat → Path → Node → Trail → Trail × Option CycleError → Prop)
    (Children : Nat → Path → List (SlotKey × NodeId) → Trail → Trail × Option CycleError →
      Prop) : Prop where
  tooDeep : ∀ path node trail,
    Subtree 0 path node trail
      ((walker.arrive path node trail).report [.tooDeep path.node path.depth], none)
  entered : ∀ levels path node trail result,
    Children levels path (walker.childrenOf node)
      ((walker.arrive path node trail).report (walker.malformedSlots path.node node)) result →
    Subtree (levels + 1) path node trail result
  finished : ∀ levels path trail, Children levels path [] trail (trail, none)
  dangling : ∀ levels path key id rest trail result, walker.tree.get? id = none →
    Children levels path rest (trail.report [.danglingChild id path.node key.render]) result →
    Children levels path ((key, id) :: rest) trail result
  cyclic : ∀ levels path key id rest trail node, walker.tree.get? id = some node → id ∈ path.chain →
    Children levels path ((key, id) :: rest) trail (trail, some ⟨id, path.node, key.render⟩)
  shared : ∀ levels path key id rest trail result node, walker.tree.get? id = some node →
    id ∉ path.chain →
    id ∈ trail.nodes →
    Children levels path rest (trail.report [.sharedNode id path.node key.render]) result →
    Children levels path ((key, id) :: rest) trail result
  stopped : ∀ levels path key id rest trail node after cycle, walker.tree.get? id = some node →
    id ∉ path.chain →
    id ∉ trail.nodes → Subtree levels (path.below key id) node trail (after, some cycle) →
    Children levels path ((key, id) :: rest) trail (after, some cycle)
  returned : ∀ levels path key id rest trail node after result, walker.tree.get? id = some node →
    id ∉ path.chain →
    id ∉ trail.nodes → Subtree levels (path.below key id) node trail (after, none) →
    Children levels path rest after result →
    Children levels path ((key, id) :: rest) trail result

namespace TraversalCases

variable {walker : Walker} {Subtree : Nat → Path → Node → Trail → Trail × Option CycleError → Prop}
  {Children : Nat → Path → List (SlotKey × NodeId) → Trail → Trail × Option CycleError → Prop}

theorem visitChildren (rules : walker.TraversalCases Subtree Children) {levels : Nat} {path : Path}
    {visit : Path → Node → Trail → Trail × Option CycleError}
    (visited : ∀ path node trail, Subtree levels path node trail (visit path node trail))
    (children : List (SlotKey × NodeId)) (trail : Trail) :
    Children levels path children trail (walker.visitChildren visit path children trail) := by
  induction children generalizing trail with
  | nil => exact rules.finished levels path trail
  | cons child rest ih =>
      obtain ⟨key, id⟩ := child
      unfold Walker.visitChildren
      split
      · next missing => exact rules.dangling levels path key id rest trail _ missing (ih _)
      · next node found =>
          split
          · next onPath => exact rules.cyclic levels path key id rest trail node found onPath
          · next apart =>
              split
              · next seen => exact rules.shared levels path key id rest trail _ node found apart seen (ih _)
              · next fresh =>
                  have below := visited (path.below key id) node trail
                  split
                  · next after cycle result =>
                      rw [result] at below
                      exact rules.stopped levels path key id rest trail node after cycle found
                        apart fresh below
                  · next after result =>
                      rw [result] at below
                      exact rules.returned levels path key id rest trail node after _ found apart
                        fresh below (ih after)

/-- The cases carry over to the whole traversal, by induction on the levels that are left. -/
theorem visitSubtree (rules : walker.TraversalCases Subtree Children) (levels : Nat) (path : Path)
    (node : Node) (trail : Trail)
    : Subtree levels path node trail
    (walker.visitSubtree levels path node trail) := by
  induction levels generalizing path node trail with
  | zero => exact rules.tooDeep path node trail
  | succ levels ih => exact rules.entered levels path node trail _ (rules.visitChildren ih _ _)

end TraversalCases
end Walker
end Spellspan.Tree
