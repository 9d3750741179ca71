import Spellspan.Proofs.Traversal
import Spellspan.Proofs.WalkLoop

/-!
The walk is the recursive traversal. A state of the loop represents a trail below a chain of frames:
the marks, the links to parents, the counter and the kinds that were reported can all be read off
the visits and the chain. Working off the entries that a node queues keeps this relation to what the
recursion does with the same children.
-/
set_option autoImplicit false

namespace Spellspan.Tree

/-- The mark of a node: in progress on the chain, done when it was visited and is not on the
chain. -/
def Trail.mark (trail : Trail) (chain : List NodeId) (id : NodeId) : Mark :=
  if id ∈ chain then .inProgress
  else if id ∈ trail.nodes then .done
  else .unvisited

theorem parentLinks_append (size : Nat) (visits : List Path) (path : Path) :
    parentLinks size (visits ++ [path]) =
      match path.parent? with
      | none => parentLinks size visits
      | some parent => (parentLinks size visits).setIfInBounds path.node (some parent.node) := by
  rw [parentLinks, List.foldl_append]
  rfl

namespace Walker

theorem nodes_arrive (walker : Walker) (path : Path) (node : Node) (trail : Trail) :
    (walker.arrive path node trail).nodes = trail.nodes ++ [path.node] := by
  simp [arrive, Trail.nodes]

theorem mem_kindsMet_arrive (walker : Walker) {path : Path} {node : Node} (trail : Trail)
    {kind : String} (found : walker.tree.get? path.node = some node) :
    kind ∈ walker.kindsMet (walker.arrive path node trail) ↔
      kind ∈ walker.kindsMet trail ∨ kind = node.kind := by
  simp [kindsMet, nodes_arrive, found, eq_comm]

/-- A state holds what a trail holds, while the nodes of the frames are being visited. -/
structure Represents (walker : Walker) (state : WalkState) (trail : Trail) (active : List Frame)
    : Prop where
  visits : state.visits.toList = trail.visits
  visited : state.visited = trail.visits.length
  errors : state.errors.toList = trail.errors
  parents : state.parents = parentLinks walker.tree.size trail.visits
  degraded : ∀ kind, kind ∈ state.degraded ↔
    (walker.table.slotsFor kind).2 = .fallback ∧ kind ∈ walker.kindsMet trail
  frames : state.frames = active
  marks : ∀ id, state.marks[id]? = (walker.tree.get? id).map fun _ =>
    trail.mark (active.map Frame.node) id
  covered : ∀ frame ∈ active, frame.node ∈ trail.nodes

theorem represents_start (walker : Walker) :
    walker.Represents (WalkState.start walker.tree.size) {} [] where
  visits := rfl
  visited := rfl
  errors := rfl
  parents := rfl
  degraded kind := by simp [WalkState.start, kindsMet, Trail.nodes]
  frames := rfl
  marks id := by
    cases found : walker.tree.get? id with
    | none =>
        have outside := SyntaxTree.get?_eq_none_iff.mp found
        simp [WalkState.start, Nat.not_lt.mpr outside]
    | some node =>
        have inBounds := SyntaxTree.get?_isSome_iff.mp (Option.isSome_iff_exists.mpr ⟨node, found⟩)
        simp [WalkState.start, inBounds, Trail.mark, Trail.nodes]
  covered := by simp

namespace Represents

variable {walker : Walker} {state : WalkState} {trail : Trail} {active : List Frame}

theorem report (represents : walker.Represents state trail active) (errors : List TraversalError) :
    walker.Represents (state.report errors) (trail.report errors) active where
  visits := represents.visits
  visited := represents.visited
  errors := by simp [WalkState.report, represents.errors]
  parents := represents.parents
  degraded := represents.degraded
  frames := represents.frames
  marks := represents.marks
  covered := represents.covered

theorem mark_of_missing (represents : walker.Represents state trail active) {id : NodeId}
    (missing : walker.tree.get? id = none) : state.marks[id]? = none := by
  rw [represents.marks, missing, Option.map_none]

theorem mark_of_found (represents : walker.Represents state trail active) {id : NodeId}
    {node : Node} (found : walker.tree.get? id = some node) :
    state.marks[id]? = some (trail.mark (active.map Frame.node) id) := by
  rw [represents.marks, found, Option.map_some]

theorem mark_inProgress (represents : walker.Represents state trail active) {id : NodeId}
    {node : Node} (found : walker.tree.get? id = some node) (onChain : id ∈ active.map Frame.node) :
    state.marks[id]? = some .inProgress := by
  rw [represents.mark_of_found found, Trail.mark, if_pos onChain]

theorem mark_done (represents : walker.Represents state trail active) {id : NodeId} {node : Node}
    (found : walker.tree.get? id = some node) (apart : id ∉ active.map Frame.node)
    (seen : id ∈ trail.nodes) :
    state.marks[id]? = some .done := by
  rw [represents.mark_of_found found, Trail.mark, if_neg apart, if_pos seen]

theorem apart_of_fresh (represents : walker.Represents state trail active) {id : NodeId}
    (fresh : id ∉ trail.nodes) :
    id ∉ active.map Frame.node := by
  intro onChain
  obtain ⟨frame, member, rfl⟩ := List.mem_map.mp onChain
  exact fresh (represents.covered frame member)

theorem mark_unvisited (represents : walker.Represents state trail active) {id : NodeId}
    {node : Node} (found : walker.tree.get? id = some node) (fresh : id ∉ trail.nodes) :
    state.marks[id]? = some .unvisited := by
  rw [represents.mark_of_found found, Trail.mark,
    if_neg (represents.apart_of_fresh fresh), if_neg fresh]

/-- Setting the mark of an existing node changes that mark alone. -/
theorem marks_set (represents : walker.Represents state trail active) {id : NodeId} {node : Node}
    {mark : Mark} {after : Trail} {chain : List NodeId} (found : walker.tree.get? id = some node)
    (set : after.mark chain id = mark)
    (kept : ∀ other, other ≠ id → after.mark chain other = trail.mark (active.map Frame.node) other)
    (other : NodeId) :
    (state.marks.setIfInBounds id mark)[other]? = (walker.tree.get? other).map fun _ =>
      after.mark chain other := by
  rw [Array.getElem?_setIfInBounds]
  split
  · next same =>
      subst same
      have inBounds := (Array.getElem?_eq_some_iff.mp (represents.mark_of_found found)).1
      simp [inBounds, found, set]
  · next different => rw [represents.marks, kept other (Ne.symm different)]

theorem enter {path : Path} {node : Node} (represents : walker.Represents state trail path.above)
    (found : walker.tree.get? path.node = some node) :
    walker.Represents
      ((state.enter path.node path.key?).noteKind path.node node.kind
        (walker.table.slotsFor node.kind).2)
      (walker.arrive path node trail) path.frames where
  visits := by simp [WalkState.enter, arrive, represents.visits, represents.frames, Path.node, Path.key?]
  visited := by simp [WalkState.enter, arrive, represents.visited]
  errors := by
    have known : node.kind ∈ (state.enter path.node path.key?).degraded ↔ _ :=
      represents.degraded node.kind
    have kept : (state.enter path.node path.key?).errors.toList = trail.errors := represents.errors
    rw [WalkState.errors_noteKind, kept, arrive]
    by_cases unlisted : (walker.table.slotsFor node.kind).2 = .fallback <;> simp [known, unlisted]
  parents := by
    rw [WalkState.parents_noteKind, arrive, parentLinks_append, WalkState.enter, represents.frames,
      represents.parents]
    obtain ⟨current, above⟩ := path
    cases above <;> rfl
  degraded kind := by
    have known : kind ∈ (state.enter path.node path.key?).degraded ↔ _ := represents.degraded kind
    rw [WalkState.mem_degraded_noteKind, walker.mem_kindsMet_arrive trail found, known, and_or_left]
    refine or_congr_right (and_congr_left ?_)
    rintro rfl
    exact Iff.rfl
  frames := by
    rw [WalkState.frames_noteKind, WalkState.frames_enter, represents.frames]
    rfl
  marks := by
    rw [WalkState.marks_noteKind]
    refine represents.marks_set found ?_ ?_
    · exact if_pos List.mem_cons_self
    · intro other different
      have sameChain := path.mem_chain_of_ne different
      simp only [Path.chain] at sameChain
      simp only [Trail.mark, sameChain, nodes_arrive, List.mem_append, List.mem_singleton,
        different, or_false]
  covered frame member := by
    rw [nodes_arrive, List.mem_append, List.mem_singleton]
    rcases List.mem_cons.mp member with rfl | member
    · exact .inr rfl
    · exact .inl (represents.covered frame member)

theorem leave {path : Path} {node : Node} (represents : walker.Represents state trail path.frames)
    (found : walker.tree.get? path.node = some node)
    (apart : path.node ∉ path.above.map Frame.node) :
    walker.Represents (state.leave path.node) trail path.above where
  visits := represents.visits
  visited := represents.visited
  errors := represents.errors
  parents := represents.parents
  degraded := represents.degraded
  frames := by rw [WalkState.frames_leave, represents.frames]; rfl
  marks := by
    refine represents.marks_set found ?_ ?_
    · have visited := represents.covered path.current List.mem_cons_self
      exact (if_neg apart).trans (if_pos visited)
    · intro other different
      have sameChain := path.mem_chain_of_ne different
      simp only [Path.chain] at sameChain
      simp only [Trail.mark, sameChain]
  covered frame member := represents.covered frame (List.mem_cons_of_mem _ member)

end Represents

/-! ## The entries that a node queues follow the recursion -/

/-- What entering an existing node does, by the depth of the node. -/
theorem expand_found (walker : Walker) (state : WalkState) {id : NodeId} (key : Option SlotKey)
    {node : Node} (found : walker.tree.get? id = some node) :
    walker.expand state id key =
      let noted := (state.enter id key).noteKind id node.kind (walker.table.slotsFor node.kind).2
      if walker.maxDepth ≤ state.frames.length then
        (noted.report [.tooDeep id state.frames.length], [])
      else (noted.report (walker.malformedSlots id node),
        (walker.childrenOf node).map fun child => .enter child.2 (some child.1)) := by
  simp only [expand, found, WalkState.frames_noteKind, WalkState.frames_enter, List.length_cons,
    Nat.add_sub_cancel, Reference.filterMap_step?_ofNode, Reference.filterMap_error?_ofNode,
    malformedSlots, childrenOf]

/-- Working off a stack comes to what a traversal found: on with the rest of the stack, or to an end
with the same cycle. -/
def Follows (walker : Walker) (stack : List Step) (state : WalkState) (rest : List Step)
    (active : List Frame) :
    Trail × Option CycleError → Prop
  | (trail, none) => ∃ after, walker.run stack state = walker.run rest after ∧
      walker.Represents after trail active
  | (trail, some cycle) =>
    ∃ after around, walker.run stack state = (after, some cycle) ∧
      walker.Represents after trail around

theorem Follows.of_run_eq {walker : Walker} {stack later rest : List Step} {state after : WalkState}
    {active : List Frame} {result : Trail × Option CycleError}
    (same : walker.run stack state = walker.run later after)
    (follows : walker.Follows later after rest active result) :
    walker.Follows stack state rest active result := by
  obtain ⟨trail, cycle⟩ := result
  cases cycle with
  | none => simpa only [Follows, same] using follows
  | some cycle => simpa only [Follows, same] using follows

/-- The simulation, case by case. A subtree is worked off from the entry of its top, children from
their entries; `rest` is whatever stands below them on the stack. -/
theorem simulation (walker : Walker) :
    walker.TraversalCases
      (fun levels path node trail result =>
        walker.tree.get? path.node = some node → path.node ∉ trail.nodes →
          levels + path.depth = walker.maxDepth →
        ∀ state rest, walker.Represents state trail path.above →
          walker.Follows (.enter path.node path.key? :: rest) state rest path.above result)
      (fun levels path children trail result =>
        levels + path.depth + 1 = walker.maxDepth →
        ∀ state rest, walker.Represents state trail path.frames →
          walker.Follows (children.map (fun child => .enter child.2 (some child.1)) ++ rest) state
            rest path.frames result) where
  tooDeep path node trail := by
    intro found fresh limit state rest represents
    have depth : path.above.length = walker.maxDepth := by simpa [Path.depth] using limit
    have expanded := walker.expand_found state path.key? found
    simp only [represents.frames, depth, Nat.le_refl, if_true] at expanded
    refine .of_run_eq (walker.run_unvisited (represents.mark_unvisited found fresh)) ?_
    rw [expanded]
    refine ⟨_, walker.run_leave, ?_⟩
    have entered := (represents.enter found).report [.tooDeep path.node path.depth]
    rw [← depth]
    exact entered.leave found (represents.apart_of_fresh fresh)
  entered levels path node trail result := by
    intro follows found fresh limit state rest represents
    have shallow : ¬ walker.maxDepth ≤ path.above.length := by
      simp only [Path.depth] at limit
      omega
    have expanded := walker.expand_found state path.key? found
    simp only [represents.frames, shallow, if_false] at expanded
    refine .of_run_eq (walker.run_unvisited (represents.mark_unvisited found fresh)) ?_
    rw [expanded]
    have entered := (represents.enter found).report (walker.malformedSlots path.node node)
    have worked := follows (by omega) _ (.leave path.node :: rest) entered
    obtain ⟨after, cycle⟩ := result
    cases cycle with
    | none =>
        obtain ⟨left, ran, leaving⟩ := worked
        refine ⟨left.leave path.node, ran.trans walker.run_leave,
          leaving.leave found (represents.apart_of_fresh fresh)⟩
    | some cycle => exact worked
  finished levels path trail := by
    intro _ state rest represents
    exact ⟨state, rfl, represents⟩
  dangling levels path key id rest trail result := by
    intro missing follows limit state below represents
    exact .of_run_eq (walker.run_dangling represents.frames (represents.mark_of_missing missing))
      (follows limit _ below (represents.report _))
  cyclic levels path key id rest trail node := by
    intro found onPath limit state below represents
    exact ⟨state, path.frames,
      walker.run_inProgress represents.frames (represents.mark_inProgress found onPath), represents⟩
  shared levels path key id rest trail result node := by
    intro found apart seen follows limit state below represents
    exact .of_run_eq (walker.run_done represents.frames (represents.mark_done found apart seen))
      (follows limit _ below (represents.report _))
  stopped levels path key id rest trail node after cycle := by
    intro found apart fresh subtree limit state below represents
    exact subtree found fresh (by rw [Path.depth_below]; omega) state _ represents
  returned levels path key id rest trail node after result := by
    intro found apart fresh subtree follows limit state below represents
    obtain ⟨left, ran, leaving⟩ := subtree found fresh (by rw [Path.depth_below]; omega) state
      (rest.map (fun child => .enter child.2 (some child.1)) ++ below) represents
    exact .of_run_eq ran (follows limit left below leaving)

/-- From an existing root, the run visits, reports and ends as the recursion does. -/
theorem run_root (walker : Walker) {node : Node}
    (found : walker.tree.get? walker.tree.root = some node) :
    ∃ after around,
      walker.run [.enter walker.tree.root none] (WalkState.start walker.tree.size) =
        (after, (walker.visitSubtree walker.maxDepth walker.rootPath node {}).2) ∧
      walker.Represents after
        (walker.visitSubtree walker.maxDepth walker.rootPath node {}).1 around := by
  have follows := walker.simulation.visitSubtree walker.maxDepth walker.rootPath node {} found
    (by simp [Trail.nodes]) rfl
    _ [] walker.represents_start
  generalize walker.visitSubtree walker.maxDepth walker.rootPath node {} = result at follows
  obtain ⟨trail, cycle⟩ := result
  cases cycle with
  | none =>
      obtain ⟨after, ran, represents⟩ := follows
      exact ⟨after, _, ran.trans walker.run_nil, represents⟩
  | some cycle => exact follows

/-- What the walk returns, in terms of the recursion from an existing root. -/
theorem walk_of_root (walker : Walker) {node : Node}
    (found : walker.tree.get? walker.tree.root = some node) :
    ∃ trail cycle, walker.visitSubtree walker.maxDepth walker.rootPath node {} = (trail, cycle) ∧
      walker.walk = {
        visits := trail.visits, visited := trail.visits.length, errors := trail.errors
        parents := parentLinks walker.tree.size trail.visits, cycle } := by
  obtain ⟨after, around, ran, represents⟩ := walker.run_root found
  refine ⟨_, _, rfl, ?_⟩
  simp only [walk, found, ran, represents.visits, represents.visited, represents.errors,
    represents.parents]

/-- The walk is the recursive traversal, and its loop ends: from some number of passes on, it has
given the traversal. -/
theorem walk_eq_traverse (walker : Walker) :
    walker.walk = walker.traverse ∧
      ∃ enough, ∀ count, enough ≤ count → walker.walkWithin count = some walker.traverse := by
  have same : walker.walk = walker.traverse := by
    cases found : walker.tree.get? walker.tree.root with
    | none =>
        simp only [walk, traverse, found]
        rfl
    | some node =>
        obtain ⟨trail, cycle, visited, walked⟩ := walker.walk_of_root found
        simp only [walked, traverse, found, visited]
  exact ⟨same, same ▸ walker.walkWithin_eq_walk⟩

end Walker
end Spellspan.Tree
