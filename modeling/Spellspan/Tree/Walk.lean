import Spellspan.Tree.ChildTable
import Spellspan.Tree.Path
import Spellspan.Tree.Problem

/-!
The preorder walk of a tree. Pending work stands on an explicit stack; every node that is reached is
entered once, in the slot order that the child table gives. Malformed slots, missing children,
second references to a finished node and subtrees below the depth limit are recorded and stepped
over. A reference to a node whose own subtree is still in progress ends the walk.

Every step either enters a node that was not visited, or takes an entry off the stack without
visiting more nodes, so the walk ends on any table of nodes.
-/
set_option autoImplicit false

namespace Spellspan.Tree

/-- Subtrees below this depth are not entered by default. -/
def defaultMaxDepth : Nat := 2048

/-- How far the visit of a node has come. -/
inductive Mark where
  | unvisited
  | inProgress
  | done
  deriving DecidableEq, Repr

/-- An entry of the stack. -/
inductive Step where
  | enter (id : NodeId) (key : Option SlotKey)
  | leave (id : NodeId)
  deriving DecidableEq, Repr

/-- What a child slot refers to: a node, or something that is none. -/
inductive Reference where
  | child (id : NodeId) (key : SlotKey)
  | malformed (slot found : String)
  deriving DecidableEq, Repr

namespace Reference

/-- The reference that one item of a list makes. -/
def ofItem? (name : String) (index : Nat) : Slot → Option Reference
  | .empty => none
  | .node id => some (.child id ⟨name, some index⟩)
  | .scalar found => some (.malformed (SlotKey.render ⟨name, some index⟩) found)
  | .list _ => some (.malformed (SlotKey.render ⟨name, some index⟩) "a nested list")

def ofSlot (name : String) : Slot → List Reference
  | .empty => []
  | .node id => [.child id ⟨name, none⟩]
  | .list items => items.zipIdx.filterMap fun (item, index) => ofItem? name index item
  | .scalar found => [.malformed name found]

/-- The references of a node through the slots of the given names, in order. -/
def ofNode (names : List String) (node : Node) : List Reference :=
  names.flatMap fun name => ((node.slot? name).map (ofSlot name)).getD []

def step? : Reference → Option Step
  | .child id key => some (.enter id (some key))
  | .malformed _ _ => none

def error? (node : NodeId) (kind : String) : Reference → Option TraversalError
  | .child _ _ => none
  | .malformed slot found => some (.malformedSlot node kind slot found)

end Reference

/-- The tree, its child table and the depth limit. -/
structure Walker where
  tree : SyntaxTree
  table : ChildTable
  maxDepth : Nat := defaultMaxDepth

/-- What a walk has done so far. Frames are innermost first; visits and problems are in order. -/
structure WalkState where
  marks : Array Mark
  frames : List Frame
  visits : Array Path
  visited : Nat
  errors : Array TraversalError
  parents : Array (Option NodeId)
  degraded : List String

namespace WalkState

def start (size : Nat) : WalkState where
  marks := Array.replicate size .unvisited
  frames := []
  visits := #[]
  visited := 0
  errors := #[]
  parents := Array.replicate size none
  degraded := []

def report (state : WalkState) (errors : List TraversalError) : WalkState :=
  { state with errors := state.errors ++ errors }

def leave (state : WalkState) (id : NodeId) : WalkState :=
  { state with marks := state.marks.setIfInBounds id .done, frames := state.frames.tail }

/-- Starts the visit of a node below the innermost frame. -/
def enter (state : WalkState) (id : NodeId) (key : Option SlotKey) : WalkState :=
  let frame : Frame := ⟨id, key⟩
  { state with
    marks := state.marks.setIfInBounds id .inProgress
    frames := frame :: state.frames
    visits := state.visits.push ⟨frame, state.frames⟩
    visited := state.visited + 1
    parents :=
      match state.frames with
      | [] => state.parents
      | parent :: _ => state.parents.setIfInBounds id (some parent.node) }

/-- Reports an unknown kind the first time it is met. -/
def noteKind (state : WalkState) (id : NodeId) (kind : String) (source : SlotSource) : WalkState :=
  if source = .fallback ∧ kind ∉ state.degraded then
    { state.report [.unknownKind id kind] with degraded := kind :: state.degraded }
  else state

def unvisited (state : WalkState) : Nat :=
  state.marks.count .unvisited

end WalkState

namespace Walker

/-- Enters a node: visits it, then reports what is wrong with it and queues its children. -/
def expand (walker : Walker) (state : WalkState) (id : NodeId) (key : Option SlotKey) :
    WalkState × List Step :=
  let state := state.enter id key
  match walker.tree.get? id with
  | none => (state, [])
  | some node =>
    let (names, source) := walker.table.slotsFor node.kind
    let state := state.noteKind id node.kind source
    let depth := state.frames.length - 1
    if walker.maxDepth ≤ depth then (state.report [.tooDeep id depth], [])
    else
      let references := Reference.ofNode names node
      (state.report (references.filterMap (Reference.error? id node.kind)),
        references.filterMap Reference.step?)

end Walker

theorem count_unvisited_set (marks : Array Mark) (id : NodeId) (mark : Mark)
    (visited : mark ≠ .unvisited) :
    (marks.setIfInBounds id mark).count .unvisited =
      marks.count .unvisited - (if marks[id]? = some .unvisited then 1 else 0) := by
  rw [Array.setIfInBounds_def]
  split
  · next bound => simp [Array.count_set bound, visited, Array.getElem?_eq_getElem bound]
  · next outside => simp [Array.getElem?_eq_none (Nat.le_of_not_lt outside)]

theorem count_unvisited_pos {marks : Array Mark} {id : NodeId}
    (fresh : marks[id]? = some .unvisited) :
    0 < marks.count .unvisited :=
  Array.count_pos_iff.mpr (Array.mem_of_getElem? fresh)

namespace WalkState

theorem unvisited_leave_le (state : WalkState) (id : NodeId) :
    (state.leave id).unvisited ≤ state.unvisited := by
  simp only [unvisited, leave, count_unvisited_set _ _ Mark.done (by decide)]
  omega

theorem unvisited_report (state : WalkState) (errors : List TraversalError) :
    (state.report errors).unvisited = state.unvisited := rfl

theorem unvisited_noteKind (state : WalkState) (id : NodeId) (kind : String) (source : SlotSource) :
    (state.noteKind id kind source).unvisited = state.unvisited := by
  unfold noteKind
  split <;> rfl

theorem unvisited_enter_lt {state : WalkState} {id : NodeId} (key : Option SlotKey)
    (fresh : state.marks[id]? = some .unvisited) :
    (state.enter id key).unvisited < state.unvisited := by
  have remaining := count_unvisited_pos fresh
  simp only [unvisited, enter, count_unvisited_set _ _ Mark.inProgress (by decide), fresh, if_true]
  omega

end WalkState

theorem Walker.unvisited_expand_lt (walker : Walker) {state : WalkState} {id : NodeId}
    (key : Option SlotKey) (fresh : state.marks[id]? = some .unvisited) :
    (walker.expand state id key).1.unvisited < state.unvisited := by
  have entered := WalkState.unvisited_enter_lt key fresh
  unfold Walker.expand
  dsimp only
  split
  · exact entered
  · split
    · rw [WalkState.unvisited_report, WalkState.unvisited_noteKind]
      exact entered
    · rw [WalkState.unvisited_report, WalkState.unvisited_noteKind]
      exact entered

namespace Walker

/-- Works off the stack. A child is tested when it comes up, not when it is queued. -/
def run (walker : Walker) (stack : List Step) (state : WalkState) : WalkState × Option CycleError :=
  match stack with
  | [] => (state, none)
  | .leave id :: rest => walker.run rest (state.leave id)
  | .enter id key :: rest =>
    match _fresh : state.marks[id]? with
    | some .unvisited =>
      let expanded := walker.expand state id key
      walker.run (expanded.2 ++ .leave id :: rest) expanded.1
    | mark =>
      match state.frames, key with
      | parent :: _, some key =>
        match mark with
        | none => walker.run rest (state.report [.danglingChild id parent.node key.render])
        | some .done => walker.run rest (state.report [.sharedNode id parent.node key.render])
        | some _ => (state, some ⟨id, parent.node, key.render⟩)
      | _, _ => walker.run rest state
termination_by (state.unvisited, stack.length)
decreasing_by
  · have shrinks := state.unvisited_leave_le id
    rcases Nat.lt_or_eq_of_le shrinks with less | same
    · exact Prod.Lex.left _ _ less
    · rw [same]; exact Prod.Lex.right _ (by simp)
  · exact Prod.Lex.left _ _ (walker.unvisited_expand_lt key _fresh)
  · exact Prod.Lex.right _ (by simp)
  · exact Prod.Lex.right _ (by simp)
  · exact Prod.Lex.right _ (by simp)

end Walker

/-- The result of a walk: what was visited and found, and the cycle that ended it early, if any. -/
structure Walk where
  visits : List Path
  visited : Nat
  errors : List TraversalError
  parents : Array (Option NodeId)
  cycle : Option CycleError

def Walker.walk (walker : Walker) : Walk :=
  let start := WalkState.start walker.tree.size
  match walker.tree.get? walker.tree.root with
  | none =>
    { visits := [], visited := 0, errors := [.missingRoot walker.tree.root], parents :=
      start.parents, cycle := none }
  | some _ =>
    let (state, cycle) := walker.run [.enter walker.tree.root none] start
    { visits := state.visits.toList, visited := state.visited, errors :=
      state.errors.toList, parents := state.parents
      cycle }

namespace Walk

/-- The parent of a visited node; none for the root and for nodes that were not visited. -/
def parent? (walk : Walk) (id : NodeId) : Option NodeId :=
  walk.parents[id]?.join

/-- Parents of parents, at most `fuel` of them. -/
def ancestorsWithin (walk : Walk) : Nat → NodeId → List NodeId
  | 0, _ => []
  | fuel + 1, id =>
    match walk.parent? id with
    | some parent => parent :: ancestorsWithin walk fuel parent
    | none => []

/-- The nodes above a visited node, the nearest first. A chain of parents has no more links than
there are nodes. -/
def ancestors (walk : Walk) (id : NodeId) : List NodeId :=
  walk.ancestorsWithin walk.parents.size id

end Walk
end Spellspan.Tree
