import Mathlib
import Spellspan.Proofs.WalkRefinement

/-!
What a walk visits and when it ends in a cycle, in terms of the graph of references. Nodes that were
visited and are not on the chain of the current node are settled: no reference leads out of them,
and no chain of references leads from one of them back to itself. A reference to a node on the chain
closes a cycle. When the depth limit is no smaller than the number of nodes it is never met, since a
chain meets no node twice.
-/
set_option autoImplicit false

namespace Spellspan.Tree

open Relation (ReflTransGen TransGen)

def Walk.nodes (walk : Walk) : List NodeId :=
  walk.visits.map Path.node

namespace Walker

/-- A node refers to an existing node under a key: the table gives the slot of the key to its kind,
and the slot holds the other node, by itself or at a place of its list. -/
def Refers (walker : Walker) (parent : NodeId) (key : SlotKey) (child : NodeId) : Prop :=
  (walker.tree.get? child).isSome ∧
    ∃ node, walker.tree.get? parent = some node ∧ key.name ∈ (walker.table.slotsFor node.kind).1 ∧
      node.Holds key child

def Edge (walker : Walker) (parent child : NodeId) : Prop :=
  ∃ key, walker.Refers parent key child

/-- A chain of references from the root that meets no node twice. -/
inductive Reaches (walker : Walker) : Path → Prop where
  | root (rooted : (walker.tree.get? walker.tree.root).isSome) : Reaches walker walker.rootPath
  | child {path : Path} {key : SlotKey} {id : NodeId} (reached : Reaches walker path)
      (refers : walker.Refers path.node key id) (apart : id ∉ path.chain) :
      Reaches walker (path.below key id)

namespace Reaches

variable {walker : Walker} {path : Path}

theorem nodup_chain (reached : walker.Reaches path) : path.chain.Nodup := by
  induction reached with
  | root _ => exact List.pairwise_singleton _ _
  | child _ _ apart ih => exact List.nodup_cons.mpr ⟨apart, ih⟩

theorem node_notMem_above (reached : walker.Reaches path) : path.node ∉ path.above.map Frame.node :=
  (List.nodup_cons.mp reached.nodup_chain).1

theorem isSome_of_mem_chain (reached : walker.Reaches path) :
    ∀ id ∈ path.chain, (walker.tree.get? id).isSome := by
  induction reached with
  | root rooted =>
      intro id member
      obtain rfl := List.mem_singleton.mp member
      exact rooted
  | child _ refers _ ih =>
      intro id member
      rcases List.mem_cons.mp member with rfl | member
      · exact refers.1
      · exact ih id member

/-- The nodes of a chain are different and exist, so there are no more of them than nodes. -/
theorem depth_lt (reached : walker.Reaches path) : path.depth < walker.tree.size := by
  have inBounds : path.chain ⊆ List.range walker.tree.size := by
    intro id member
    exact List.mem_range.mpr (SyntaxTree.get?_isSome_iff.mp (reached.isSome_of_mem_chain id member))
  have bounded := (List.subperm_of_subset reached.nodup_chain inBounds).length_le
  rwa [List.length_range, Path.chain, List.length_map] at bounded

theorem node_of_mem_chain (reached : walker.Reaches path) :
    ∀ id ∈ path.chain, ReflTransGen walker.Edge id path.node := by
  induction reached with
  | root _ =>
      intro id member
      obtain rfl := List.mem_singleton.mp member
      exact .refl
  | child _ refers _ ih =>
      intro id member
      rcases List.mem_cons.mp member with rfl | member
      · exact .refl
      · exact (ih id member).tail ⟨_, refers⟩

theorem reachable (reached : walker.Reaches path) :
    ∀ id ∈ path.chain, ReflTransGen walker.Edge walker.tree.root id := by
  induction reached with
  | root _ =>
      intro id member
      obtain rfl := List.mem_singleton.mp member
      exact .refl
  | @child path key id reached refers _ ih =>
      intro other member
      rcases List.mem_cons.mp member with rfl | member
      · exact (ih path.node List.mem_cons_self).tail ⟨_, refers⟩
      · exact ih other member

end Reaches

/-! ## What a traversal visits -/

/-- The visits are chains from the root, each to a node of its own. -/
structure Sound (walker : Walker) (trail : Trail) : Prop where
  unique : trail.nodes.Nodup
  reached : ∀ path ∈ trail.visits, walker.Reaches path

/-- A reference from a node back to one that leads to it. -/
structure ClosesCycle (walker : Walker) (cycle : CycleError) : Prop where
  reachable : ReflTransGen walker.Edge walker.tree.root cycle.node
  returns : ReflTransGen walker.Edge cycle.node cycle.parent
  refers : ∃ key, key.render = cycle.slot ∧ walker.Refers cycle.parent key cycle.node

theorem Sound.report {walker : Walker} {trail : Trail} (sound : walker.Sound trail)
    (errors : List TraversalError) :
    walker.Sound (trail.report errors) :=
  ⟨sound.unique, sound.reached⟩

theorem Sound.arrive {walker : Walker} {trail : Trail} {path : Path} (sound : walker.Sound trail)
    (node : Node) (reached : walker.Reaches path) (fresh : path.node ∉ trail.nodes) :
    walker.Sound (walker.arrive path node trail) where
  unique := by
    rw [nodes_arrive]
    exact List.nodup_append.mpr ⟨sound.unique, List.pairwise_singleton _ _, by
      rintro id member _ last rfl
      exact fresh (List.mem_singleton.mp last ▸ member)⟩
  reached visit member := by
    rcases List.mem_append.mp member with earlier | last
    · exact sound.reached visit earlier
    · exact List.mem_singleton.mp last ▸ reached

def Lists (walker : Walker) (path : Path) (children : List (SlotKey × NodeId)) : Prop :=
  ∃ node, walker.tree.get? path.node = some node ∧ children ⊆ walker.childrenOf node

namespace Lists

variable {walker : Walker} {path : Path} {key : SlotKey} {id : NodeId}
    {rest : List (SlotKey × NodeId)}

theorem all {node : Node} (found : walker.tree.get? path.node = some node) :
    walker.Lists path (walker.childrenOf node) :=
  ⟨node, found, List.Subset.refl _⟩

theorem tail (listed : walker.Lists path ((key, id) :: rest)) : walker.Lists path rest := by
  obtain ⟨node, found, included⟩ := listed
  exact ⟨node, found, fun _ member => included (List.mem_cons_of_mem _ member)⟩

theorem refers {child : Node} (listed : walker.Lists path ((key, id) :: rest))
    (existing : walker.tree.get? id = some child) :
    walker.Refers path.node key id := by
  obtain ⟨node, found, included⟩ := listed
  obtain ⟨named, held⟩ := Node.mem_childrenIn.mp (included List.mem_cons_self)
  exact ⟨Option.isSome_iff_exists.mpr ⟨child, existing⟩, node, found, named, held⟩

end Lists

theorem soundness (walker : Walker) :
    walker.TraversalCases
      (fun _ path node trail result =>
        walker.tree.get? path.node = some node → walker.Reaches path → path.node ∉ trail.nodes →
          walker.Sound trail →
        walker.Sound result.1 ∧ ∀ cycle, result.2 = some cycle → walker.ClosesCycle cycle)
      (fun _ path children trail result =>
        walker.Lists path children → walker.Reaches path →
        walker.Sound trail → walker.Sound result.1 ∧ ∀ cycle, result.2 = some cycle →
          walker.ClosesCycle cycle) where
  tooDeep path node trail := by
    intro _ reached fresh sound
    exact ⟨(sound.arrive node reached fresh).report _, by simp⟩
  entered levels path node trail result := by
    intro children found reached fresh sound
    exact children (.all found) reached ((sound.arrive node reached fresh).report _)
  finished levels path trail := by
    intro _ _ sound
    exact ⟨sound, by simp⟩
  dangling levels path key id rest trail result := by
    intro _ later listed reached sound
    exact later listed.tail reached (sound.report _)
  cyclic levels path key id rest trail child := by
    intro existing onPath listed reached sound
    refine ⟨sound, ?_⟩
    rintro _ ⟨rfl⟩
    exact ⟨reached.reachable id onPath, reached.node_of_mem_chain id onPath, key, rfl,
      listed.refers existing⟩
  shared levels path key id rest trail result child := by
    intro _ _ _ later listed reached sound
    exact later listed.tail reached (sound.report _)
  stopped levels path key id rest trail child after cycle := by
    intro existing apart fresh subtree listed reached sound
    exact subtree existing (.child reached (listed.refers existing) apart) fresh sound
  returned levels path key id rest trail child after result := by
    intro existing apart fresh subtree later listed reached sound
    obtain ⟨visited, _⟩ :=
      subtree existing (.child reached (listed.refers existing) apart) fresh sound
    exact later listed.tail reached visited

/-! ## What a traversal settles -/

def Done (trail : Trail) (chain : List NodeId) (id : NodeId) : Prop :=
  id ∈ trail.nodes ∧ id ∉ chain

/-- References from settled nodes lead to settled nodes, and never back to where they started. -/
structure Settled (walker : Walker) (settled : NodeId → Prop) : Prop where
  closed : ∀ {id child}, settled id → walker.Edge id child → settled child
  acyclic : ∀ {id}, settled id → ¬ TransGen walker.Edge id id

theorem Settled.congr {walker : Walker} {settled other : NodeId → Prop}
    (before : walker.Settled settled) (same : ∀ id, other id ↔ settled id)
    : walker.Settled other := by
  obtain rfl : other = settled := funext fun id => propext (same id)
  exact before

theorem Settled.reach {walker : Walker} {settled : NodeId → Prop} (before : walker.Settled settled)
    {id other : NodeId} (start : settled id) (chain : ReflTransGen walker.Edge id other)
    : settled other := by
  induction chain with
  | refl => exact start
  | tail _ edge ih => exact before.closed ih edge

/-- A node whose references all lead to settled nodes can be settled. -/
theorem Settled.insert {walker : Walker} {settled : NodeId → Prop} (before : walker.Settled settled)
    {id : NodeId} (pending : ¬ settled id)
    (children : ∀ child, walker.Edge id child → settled child) :
    walker.Settled fun other => other = id ∨ settled other where
  closed := by
    rintro other child (rfl | done) edge
    · exact .inr (children child edge)
    · exact .inr (before.closed done edge)
  acyclic := by
    rintro other (rfl | done) loop
    · obtain ⟨child, edge, back⟩ := TransGen.head'_iff.mp loop
      exact pending (before.reach (children child edge) back)
    · exact before.acyclic done loop

/-- A later trail of a traversal that met the depth limit no further. -/
structure Extends (before after : Trail) : Prop where
  nodes : before.nodes ⊆ after.nodes
  uncut : ∀ id depth, .tooDeep id depth ∈ after.errors → .tooDeep id depth ∈ before.errors

theorem Extends.refl (trail : Trail) : Extends trail trail :=
  ⟨List.Subset.refl _, fun _ _ => id⟩

theorem Extends.trans {first second third : Trail} (left : Extends first second)
    (right : Extends second third) :
    Extends first third :=
  ⟨List.Subset.trans left.nodes right.nodes, fun id depth member =>
    left.uncut id depth (right.uncut id depth member)⟩

theorem Extends.report (trail : Trail) {errors : List TraversalError}
    (harmless : ∀ id depth, .tooDeep id depth ∉ errors) :
    Extends trail (trail.report errors) where
  nodes := List.Subset.refl _
  uncut id depth member := (List.mem_append.mp member).resolve_right (harmless id depth)

theorem Extends.arrive (walker : Walker) (path : Path) (node : Node) (trail : Trail) :
    Extends trail (walker.arrive path node trail) where
  nodes := by simp [nodes_arrive]
  uncut id depth member := by
    refine (List.mem_append.mp member).resolve_right ?_
    split <;> simp

theorem tooDeep_notMem_malformedSlots (walker : Walker) (holder : NodeId) (node : Node)
    (id : NodeId) (depth : Nat) :
    .tooDeep id depth ∉ walker.malformedSlots holder node := by
  simp [malformedSlots]

/-- While a node is entered, its chain keeps it from counting as done. -/
theorem done_arrive (walker : Walker) {path : Path} (node : Node) {trail : Trail}
    (fresh : path.node ∉ trail.nodes) (id : NodeId)
    : Done (walker.arrive path node trail) path.chain id ↔
    Done trail (path.above.map Frame.node) id := by
  by_cases same : id = path.node
  · subst same
    exact ⟨fun done => absurd List.mem_cons_self done.2, fun done => absurd done.1 fresh⟩
  · rw [Done, Done, nodes_arrive, List.mem_append, List.mem_singleton, or_iff_left same,
      path.mem_chain_of_ne same]

theorem done_above {path : Path} {trail : Trail} (visited : path.node ∈ trail.nodes)
    (apart : path.node ∉ path.above.map Frame.node) (id : NodeId) :
    Done trail (path.above.map Frame.node) id ↔ id = path.node ∨ Done trail path.chain id := by
  by_cases same : id = path.node
  · subst same
    simp [Done, visited, apart]
  · rw [Done, Done, or_iff_right same, path.mem_chain_of_ne same]

/-- A traversal that stays above the depth limit settles what it visits. -/
theorem settling (walker : Walker) {bound : Nat}
    (bounded : ∀ {path}, walker.Reaches path → path.depth < bound) :
    walker.TraversalCases
      (fun levels path node trail result =>
        walker.tree.get? path.node = some node → walker.Reaches path → path.node ∉ trail.nodes →
        bound ≤ levels + path.depth →
        Extends trail result.1 ∧
          (result.2 = none → walker.Settled (Done trail (path.above.map Frame.node)) →
            walker.Settled (Done result.1 (path.above.map Frame.node)) ∧
              path.node ∈ result.1.nodes))
      (fun levels path children trail result =>
        walker.Lists path children → walker.Reaches path →
        bound ≤ levels + path.depth + 1 →
        Extends trail result.1 ∧
          (result.2 = none → walker.Settled (Done trail path.chain) →
            walker.Settled (Done result.1 path.chain) ∧
              ∀ child ∈ children, (walker.tree.get? child.2).isSome →
                Done result.1 path.chain child.2)) where
  tooDeep path node trail := by
    intro _ reached _ limit
    have above := bounded reached
    omega
  entered levels path node trail result := by
    intro children found reached fresh limit
    have reported := Extends.report (walker.arrive path node trail)
      (walker.tooDeep_notMem_malformedSlots path.node node)
    obtain ⟨extended, settle⟩ := children (.all found) reached (by omega)
    refine ⟨(Extends.arrive walker path node trail).trans (reported.trans extended), ?_⟩
    intro finished before
    obtain ⟨after, childrenDone⟩ := settle finished (before.congr (walker.done_arrive node fresh))
    have visited : path.node ∈ result.1.nodes := extended.nodes (by simp [nodes_arrive])
    refine ⟨?_, visited⟩
    have edges : ∀ child, walker.Edge path.node child → Done result.1 path.chain child := by
      rintro child ⟨key, existing, holder, stored, named, held⟩
      obtain rfl : node = holder := Option.some.inj (found.symm.trans stored)
      exact childrenDone (key, child) (Node.mem_childrenIn.mpr ⟨named, held⟩) existing
    have pending : ¬ Done result.1 path.chain path.node := fun done => done.2 List.mem_cons_self
    exact (after.insert pending edges).congr (done_above visited reached.node_notMem_above)
  finished levels path trail := by
    intro _ _ _
    exact ⟨.refl trail, fun _ before => ⟨before, by simp⟩⟩
  dangling levels path key id rest trail result := by
    intro missing later listed reached limit
    obtain ⟨extended, settle⟩ := later listed.tail reached limit
    refine ⟨(Extends.report trail (by simp)).trans extended, fun finished before => ?_⟩
    obtain ⟨after, childrenDone⟩ := settle finished before
    exact ⟨after, List.forall_mem_cons.mpr ⟨by simp [missing], childrenDone⟩⟩
  cyclic levels path key id rest trail child := by
    intro _ _ _ _ _
    exact ⟨.refl trail, by simp⟩
  shared levels path key id rest trail result child := by
    intro _ apart seen later listed reached limit
    obtain ⟨extended, settle⟩ := later listed.tail reached limit
    refine ⟨(Extends.report trail (by simp)).trans extended, fun finished before => ?_⟩
    obtain ⟨after, childrenDone⟩ := settle finished before
    exact ⟨after, List.forall_mem_cons.mpr ⟨fun _ => ⟨extended.nodes seen, apart⟩, childrenDone⟩⟩
  stopped levels path key id rest trail child after cycle := by
    intro existing apart fresh subtree listed reached limit
    have below : walker.Reaches (path.below key id) := .child reached (listed.refers existing) apart
    obtain ⟨extended, _⟩ := subtree existing below fresh (by rw [Path.depth_below]; omega)
    exact ⟨extended, by simp⟩
  returned levels path key id rest trail child after result := by
    intro existing apart fresh subtree later listed reached limit
    have below : walker.Reaches (path.below key id) := .child reached (listed.refers existing) apart
    obtain ⟨first, settleBelow⟩ := subtree existing below fresh (by rw [Path.depth_below]; omega)
    obtain ⟨extended, settle⟩ := later listed.tail reached limit
    refine ⟨first.trans extended, fun finished before => ?_⟩
    -- the child is left settled, and what follows it keeps every visit
    obtain ⟨settled, visited⟩ := settleBelow rfl before
    obtain ⟨after, childrenDone⟩ := settle finished settled
    exact ⟨after, List.forall_mem_cons.mpr ⟨fun _ => ⟨extended.nodes visited, apart⟩, childrenDone⟩⟩

/-! ## The graph and the walk -/

theorem walk_sound (walker : Walker) :
    walker.walk.nodes.Nodup ∧ (∀ path ∈ walker.walk.visits, walker.Reaches path) ∧
      ∀ cycle, walker.walk.cycle = some cycle → walker.ClosesCycle cycle := by
  cases found : walker.tree.get? walker.tree.root with
  | none => simp [walk, found, Walk.nodes]
  | some node =>
      have rooted : (walker.tree.get? walker.tree.root).isSome :=
        Option.isSome_iff_exists.mpr ⟨node, found⟩
      obtain ⟨trail, cycle, visited, walked⟩ := walker.walk_of_root found
      have sound := walker.soundness.visitSubtree walker.maxDepth walker.rootPath node {} found
        (.root rooted)
        (by simp [Trail.nodes]) ⟨List.nodup_nil, by simp⟩
      rw [visited] at sound
      rw [walked]
      exact ⟨sound.1.unique, sound.1.reached, sound.2⟩

theorem length_nodes_walk (walker : Walker) : walker.walk.visited = walker.walk.nodes.length := by
  cases found : walker.tree.get? walker.tree.root with
  | none => simp [walk, found, Walk.nodes]
  | some node =>
      obtain ⟨trail, cycle, _, walked⟩ := walker.walk_of_root found
      rw [walked, Walk.nodes, List.length_map]

theorem walk_settled_of_bounded (walker : Walker)
    (rooted : (walker.tree.get? walker.tree.root).isSome)
    (bounded : ∀ {path}, walker.Reaches path → path.depth < walker.maxDepth) :
    (∀ id depth, .tooDeep id depth ∉ walker.walk.errors) ∧
      (walker.walk.cycle = none → walker.Settled (· ∈ walker.walk.nodes) ∧
        walker.tree.root ∈ walker.walk.nodes) := by
  obtain ⟨node, found⟩ := Option.isSome_iff_exists.mp rooted
  obtain ⟨trail, cycle, visited, walked⟩ := walker.walk_of_root found
  obtain ⟨extended, settle⟩ :=
    (walker.settling bounded).visitSubtree walker.maxDepth walker.rootPath node {} found
    (.root rooted) (by simp [Trail.nodes]) (Nat.le_refl _)
  rw [visited] at extended settle
  rw [walked]
  refine ⟨fun id depth cut => by simpa using extended.uncut id depth cut, fun finished => ?_⟩
  have none_done : ∀ id, ¬ Done {} [] id := by simp [Done, Trail.nodes]
  have nothing : walker.Settled (Done {} []) :=
    ⟨fun done => absurd done (none_done _), fun done => absurd done (none_done _)⟩
  obtain ⟨settled, visitedRoot⟩ := settle finished nothing
  exact ⟨settled.congr fun id => by simp [Done, Walk.nodes, Trail.nodes, rootPath], visitedRoot⟩

theorem walk_settled (walker : Walker) (rooted : (walker.tree.get? walker.tree.root).isSome)
    (limit : walker.tree.size ≤ walker.maxDepth) :
    (∀ id depth, .tooDeep id depth ∉ walker.walk.errors) ∧
      (walker.walk.cycle = none → walker.Settled (· ∈ walker.walk.nodes) ∧
        walker.tree.root ∈ walker.walk.nodes) :=
  walker.walk_settled_of_bounded rooted fun reached => Nat.lt_of_lt_of_le reached.depth_lt limit

/-- No node is visited twice and none that does not exist, and the passes that make up the walk
index the marks within their bounds only. With a depth limit that no chain can meet, a walk that
finds no cycle visits exactly what the root leads to. -/
theorem visits_exactly_reachable (walker : Walker) :
    (walker.walk.nodes.Nodup ∧ (∀ id ∈ walker.walk.nodes, id < walker.tree.size) ∧
      walker.walk.visited = walker.walk.nodes.length) ∧
    (∃ enough, ∀ count, enough ≤ count → walker.walkWithin count = some walker.walk) ∧
    ((walker.tree.get? walker.tree.root).isSome →
      (∀ count id, walker.passes count [.enter walker.tree.root none]
        (WalkState.start walker.tree.size) ≠ .fault id) ∧
      (walker.tree.size ≤ walker.maxDepth → walker.walk.cycle = none →
        (∀ id depth, .tooDeep id depth ∉ walker.walk.errors) ∧
        ∀ id, id ∈ walker.walk.nodes ↔ ReflTransGen walker.Edge walker.tree.root id)) := by
  obtain ⟨unique, reached, _⟩ := walker.walk_sound
  have existing : ∀ path ∈ walker.walk.visits, path.node < walker.tree.size := by
    intro path visit
    exact SyntaxTree.get?_isSome_iff.mp
      ((reached path visit).isSome_of_mem_chain path.node List.mem_cons_self)
  refine ⟨⟨unique, by simpa [Walk.nodes] using existing, walker.length_nodes_walk⟩,
    walker.walkWithin_eq_walk, fun rooted => ?_⟩
  refine ⟨(walker.ends_run_root rooted).safe, fun limit finished => ?_⟩
  obtain ⟨uncut, settle⟩ := walker.walk_settled rooted limit
  obtain ⟨settled, visitedRoot⟩ := settle finished
  refine ⟨uncut, fun id => ⟨fun visited => ?_, settled.reach visitedRoot⟩⟩
  obtain ⟨path, visit, rfl⟩ := List.mem_map.mp visited
  exact (reached path visit).reachable path.node List.mem_cons_self

/-- Two nodes share a child; one reference leads nowhere and one place of a list holds no node. -/
def sharing : Walker where
  tree := {
    nodes := #[
      { kind := "Pair", span := {}, slots :=
        [("left", .node 1), ("right", .list [.node 2, .empty, .node 7, .scalar "x"])] },
      { kind := "Pair", span := {}, slots := [("left", .node 3)] },
      { kind := "Pair", span := {}, slots := [("right", .node 3)] },
      { kind := "Leaf", span := {} }]
    root := 0 }
  table := { registered := [("Pair", ["left", "right"]), ("Leaf", [])] }
  maxDepth := 4

theorem visits_exactly_reachable_sharing :
    (sharing.tree.get? sharing.tree.root).isSome ∧ sharing.tree.size ≤ sharing.maxDepth ∧
      sharing.walk.cycle = none ∧
      sharing.walk.nodes = [0, 1, 3, 2] ∧ ReflTransGen sharing.Edge 0 3 := by
  have finished : sharing.walk.cycle = none := by cbv
  have order : sharing.walk.nodes = [0, 1, 3, 2] := by cbv
  obtain ⟨_, reachable⟩ := (sharing.visits_exactly_reachable.2.2 (by decide)).2 (by decide) finished
  exact ⟨by decide, by decide, finished, order, (reachable 3).mp (by simp [order])⟩

/-- A walk ends in a cycle exactly when the root leads to a node that leads back to itself, and the
cycle it reports is one: the node is held by its parent under the slot, and the parent is the node
or something it leads to. -/
theorem cycle_iff_loop_reachable (walker : Walker) :
    ((walker.tree.get? walker.tree.root).isSome → walker.tree.size ≤ walker.maxDepth →
      (walker.walk.cycle.isSome ↔
        ∃ id, ReflTransGen walker.Edge walker.tree.root id ∧ TransGen walker.Edge id id)) ∧
    ∀ error, walker.walk.cycle = some error →
      (walker.tree.get? error.node).isSome ∧
        (∃ key parent, walker.tree.get? error.parent = some parent ∧
          key.name ∈ (walker.table.slotsFor parent.kind).1 ∧
          parent.Holds key error.node ∧ key.render = error.slot) ∧
        ReflTransGen walker.Edge error.node error.parent := by
  obtain ⟨_, _, closes⟩ := walker.walk_sound
  refine ⟨fun rooted limit => ⟨fun found => ?_, fun ⟨id, reached, loop⟩ => ?_⟩,
    fun error found => ?_⟩
  · obtain ⟨error, found⟩ := Option.isSome_iff_exists.mp found
    obtain ⟨reachable, returns, key, _, refers⟩ := closes error found
    exact ⟨error.node, reachable, TransGen.tail' returns ⟨key, refers⟩⟩
  · rw [Option.isSome_iff_ne_none]
    intro finished
    obtain ⟨settled, visitedRoot⟩ := (walker.walk_settled rooted limit).2 finished
    exact settled.acyclic (settled.reach visitedRoot reached) loop
  · obtain ⟨_, returns, key, rendered, existing, parent, stored, named, held⟩ := closes error found
    exact ⟨existing, ⟨key, parent, stored, named, held, rendered⟩, returns⟩

def looping : Walker where
  tree := {
    nodes := #[
      { kind := "Pair", span := {}, slots := [("left", .node 1)] },
      { kind := "Pair", span := {}, slots := [("right", .list [.empty, .node 0])] }]
    root := 0 }
  table := { registered := [("Pair", ["left", "right"])] }
  maxDepth := 2

theorem cycle_iff_loop_reachable_looping :
    (looping.tree.get? looping.tree.root).isSome ∧ looping.tree.size ≤ looping.maxDepth ∧
      looping.walk.cycle = some ⟨0, 1, "right[1]"⟩ ∧
      (∃ id, ReflTransGen looping.Edge 0 id ∧ TransGen looping.Edge id id) ∧
        ReflTransGen looping.Edge 0 1 := by
  have found : looping.walk.cycle = some ⟨0, 1, "right[1]"⟩ := by cbv
  obtain ⟨detects, genuine⟩ := looping.cycle_iff_loop_reachable
  exact ⟨by decide, by decide, found, (detects (by decide) (by decide)).mp (by simp [found]), (genuine _ found).2.2⟩

end Walker
end Spellspan.Tree
