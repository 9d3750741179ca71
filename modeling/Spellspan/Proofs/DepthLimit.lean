import Mathlib
import Spellspan.Proofs.ParentLinks
import Spellspan.Proofs.WalkAccounts

/-!
What the depth limit cuts off. A node at the limit is visited and its children are not entered, and
it counts as done from then on. When a shorter chain of references leads to it later, it is passed
over as visited before, so the nodes behind it stay unvisited although they are near enough to the
root. Nothing else is lost: a chain within the limit is followed to its end unless it comes over a
reference that was passed over, and after that through a node at the limit.
-/
set_option autoImplicit false

namespace Spellspan.Tree

def Walk.trail (walk : Walk) : Trail :=
  ⟨walk.visits, walk.errors⟩

namespace Walker

/-- A chain of references from the root to a node, with the nodes above it, the nearest first. Other
than the path of a visit it may be any chain. -/
inductive Descends (walker : Walker) : NodeId → List NodeId → Prop where
  | root (existing : (walker.tree.get? walker.tree.root).isSome) :
      Descends walker walker.tree.root []
  | child {id parent : NodeId} {above : List NodeId} (descends : Descends walker parent above)
      (edge : walker.Edge parent id) : Descends walker id (parent :: above)

theorem Reaches.descends {walker : Walker} {path : Path} (reached : walker.Reaches path) :
    walker.Descends path.node (path.above.map Frame.node) := by
  induction reached with
  | root existing => exact .root existing
  | child _ refers _ ih => exact .child ih ⟨_, refers⟩

/-! ## References of visited nodes -/

structure Prolongs (before after : Trail) : Prop where
  visits : before.visits ⊆ after.visits
  errors : before.errors ⊆ after.errors

namespace Prolongs

variable {first second third : Trail}

theorem refl (trail : Trail) : Prolongs trail trail :=
  ⟨List.Subset.refl _, List.Subset.refl _⟩

theorem trans (left : Prolongs first second) (right : Prolongs second third) :
    Prolongs first third :=
  ⟨List.Subset.trans left.visits right.visits, List.Subset.trans left.errors right.errors⟩

theorem report (trail : Trail) (errors : List TraversalError) :
    Prolongs trail (trail.report errors) :=
  ⟨List.Subset.refl _, List.subset_append_left _ _⟩

theorem arrive (walker : Walker) (path : Path) (node : Node) (trail : Trail) :
    Prolongs trail (walker.arrive path node trail) :=
  ⟨List.subset_append_left _ _, List.subset_append_left _ _⟩

end Prolongs

/-- A reference led to a visit, or was reported since its node was visited before. -/
def Resolved (trail : Trail) (path : Path) (key : SlotKey) (id : NodeId) : Prop :=
  path.below key id ∈ trail.visits ∨ id ∈ trail.nodes ∧
    .sharedNode id path.node key.render ∈ trail.errors

theorem Resolved.prolong {before after : Trail} {path : Path} {key : SlotKey} {id : NodeId}
    (resolved : Resolved before path key id) (longer : Prolongs before after) :
    Resolved after path key id := by
  cases resolved with
  | inl visited => exact .inl (longer.visits visited)
  | inr passed => exact .inr ⟨List.map_subset _ longer.visits passed.1, longer.errors passed.2⟩

theorem Resolved.mem_nodes {trail : Trail} {path : Path} {key : SlotKey} {id : NodeId}
    (resolved : Resolved trail path key id) : id ∈ trail.nodes := by
  cases resolved with
  | inl visited => exact List.mem_map.mpr ⟨_, visited, rfl⟩
  | inr passed => exact passed.1

/-- Above the depth limit, all references of a visit to existing nodes are resolved. -/
def Explored (walker : Walker) (trail : Trail) (path : Path) : Prop :=
  path.depth < walker.maxDepth → ∀ key id, walker.Refers path.node key id →
    Resolved trail path key id

theorem Explored.prolong {walker : Walker} {before after : Trail} {path : Path}
    (explored : walker.Explored before path) (longer : Prolongs before after)
    : walker.Explored after path :=
  fun above key id refers => (explored above key id refers).prolong longer

/-- Every visit of the later trail is one of the earlier trail, or explored. -/
def Explores (walker : Walker) (before after : Trail) : Prop :=
  ∀ path ∈ after.visits, path ∈ before.visits ∨ walker.Explored after path

theorem Explores.trans {walker : Walker} {first second third : Trail}
    (left : walker.Explores first second) (right : walker.Explores second third)
    (longer : Prolongs second third) :
    walker.Explores first third := by
  intro path visited
  cases right path visited with
  | inr explored => exact .inr explored
  | inl earlier => exact (left path earlier).imp_right fun explored => explored.prolong longer

theorem exploring (walker : Walker) :
    walker.TraversalCases
      (fun levels path node trail result => levels + path.depth = walker.maxDepth →
        walker.tree.get? path.node = some node →
        Prolongs (walker.arrive path node trail) result.1 ∧
          (result.2 = none → walker.Explores trail result.1))
      (fun levels path children trail result => levels + path.depth + 1 = walker.maxDepth →
        Prolongs trail result.1 ∧ (result.2 = none → walker.Explores trail result.1 ∧
          ∀ child ∈ children, (walker.tree.get? child.2).isSome →
            Resolved result.1 path child.1 child.2)) where
  tooDeep path node trail := by
    intro limit found
    refine ⟨.report _ _, fun _ visit member => ?_⟩
    cases List.mem_append.mp member with
    | inl earlier => exact .inl earlier
    | inr last =>
        obtain rfl := List.mem_singleton.mp last
        exact .inr fun above => absurd above (by omega)
  entered levels path node trail result := by
    intro children limit found
    obtain ⟨longer, resolve⟩ := children (by omega)
    refine ⟨(Prolongs.report _ _).trans longer, fun finished visit member => ?_⟩
    obtain ⟨explores, resolved⟩ := resolve finished
    cases explores visit member with
    | inr explored => exact .inr explored
    | inl earlier =>
        cases List.mem_append.mp earlier with
        | inl before => exact .inl before
        | inr last =>
            -- the references of the node itself are those of the children just entered
            obtain rfl := List.mem_singleton.mp last
            refine .inr fun _ key id refers => ?_
            obtain ⟨existing, holder, stored, named, held⟩ := refers
            obtain rfl : node = holder := Option.some.inj (found.symm.trans stored)
            exact resolved (key, id) (Node.mem_childrenIn.mpr ⟨named, held⟩) existing
  finished levels path trail := by
    intro _
    exact ⟨.refl trail, fun _ => ⟨fun _ member => .inl member, by simp⟩⟩
  dangling levels path key id rest trail result := by
    intro missing later limit
    obtain ⟨longer, resolve⟩ := later limit
    refine ⟨(Prolongs.report _ _).trans longer, fun finished => ?_⟩
    obtain ⟨explores, resolved⟩ := resolve finished
    exact ⟨explores, List.forall_mem_cons.mpr ⟨by simp [missing], resolved⟩⟩
  cyclic levels path key id rest trail child := by
    intro _ _ _
    exact ⟨.refl trail, by simp⟩
  shared levels path key id rest trail result child := by
    intro _ _ seen later limit
    obtain ⟨longer, resolve⟩ := later limit
    refine ⟨(Prolongs.report _ _).trans longer, fun finished => ?_⟩
    obtain ⟨explores, resolved⟩ := resolve finished
    have passed : Resolved (trail.report [.sharedNode id path.node key.render]) path key id :=
      .inr ⟨seen, List.mem_append_right _ List.mem_cons_self⟩
    exact ⟨explores, List.forall_mem_cons.mpr ⟨fun _ => passed.prolong longer, resolved⟩⟩
  stopped levels path key id rest trail child after cycle := by
    intro existing _ _ subtree limit
    obtain ⟨longer, _⟩ := subtree (by rw [Path.depth_below]; omega) existing
    exact ⟨(Prolongs.arrive walker _ _ _).trans longer, by simp⟩
  returned levels path key id rest trail child after result := by
    intro existing _ _ subtree later limit
    obtain ⟨inner, explore⟩ := subtree (by rw [Path.depth_below]; omega) existing
    obtain ⟨longer, resolve⟩ := later limit
    refine ⟨((Prolongs.arrive walker _ _ _).trans inner).trans longer, fun finished => ?_⟩
    obtain ⟨explores, resolved⟩ := resolve finished
    have visited : path.below key id ∈ after.visits :=
      inner.visits (List.mem_append_right _ List.mem_cons_self)
    have entered : Resolved after path key id := .inl visited
    exact ⟨(explore rfl).trans explores longer,
      List.forall_mem_cons.mpr ⟨fun _ => entered.prolong longer, resolved⟩⟩

theorem walk_explored (walker : Walker) (finished : walker.walk.cycle = none) {path : Path}
    (visited : path ∈ walker.walk.visits) : walker.Explored walker.walk.trail path := by
  cases found : walker.tree.get? walker.tree.root with
  | none => simp [walk, found] at visited
  | some node =>
      obtain ⟨trail, cycle, traversed, walked⟩ := walker.walk_of_root found
      obtain ⟨_, explore⟩ :=
        walker.exploring.visitSubtree walker.maxDepth walker.rootPath node {} rfl found
      rw [traversed] at explore
      rw [walked] at finished visited ⊢
      exact (explore finished path visited).resolve_left List.not_mem_nil

/-- The nodes that are reported as too deep are those visited at the depth limit. -/
theorem tooDeep_mem_errors_iff (walker : Walker) {id : NodeId} {depth : Nat} :
    .tooDeep id depth ∈ walker.walk.errors ↔
      ∃ path ∈ walker.walk.visits, path.node = id ∧ path.depth = depth ∧
        depth = walker.maxDepth := by
  have reported : walker.walk.errors.filter TraversalError.isTooDeep =
      (walker.walk.visits.filter fun path => path.depth = walker.maxDepth).map fun path =>
        .tooDeep path.node path.depth := by
    cases found : walker.tree.get? walker.tree.root with
    | none => simp [walk, found, TraversalError.isTooDeep]
    | some node =>
        obtain ⟨trail, cycle, traversed, walked⟩ := walker.walk_of_root found
        have reported := walker.reporting.visitSubtree walker.maxDepth walker.rootPath node {}
          rfl found .empty
        rw [traversed] at reported
        rw [walked]
        exact reported.tooDeep
  have picked : .tooDeep id depth ∈ walker.walk.errors ↔
      .tooDeep id depth ∈ walker.walk.errors.filter TraversalError.isTooDeep := by
        simp [TraversalError.isTooDeep]
  rw [picked, reported, List.mem_map]
  simp only [List.mem_filter, decide_eq_true_eq, TraversalError.tooDeep.injEq]
  constructor
  · rintro ⟨path, ⟨visited, limit⟩, same, rfl⟩
    exact ⟨path, visited, same, rfl, limit⟩
  · rintro ⟨path, visited, same, rfl, limit⟩
    exact ⟨path, ⟨visited, limit⟩, same, rfl⟩

/-! ## Chains that are cut short -/

/-- A chain comes over a reference that was passed over, since its node was visited before. -/
def Detours (walker : Walker) (chain : List NodeId) : Prop :=
  ∃ id parent above slot, id :: parent :: above <:+ chain ∧
    .sharedNode id parent slot ∈ walker.walk.errors

/-- A chain comes over such a reference and later, before its last node, through a node at the depth
limit. -/
def CutShort (walker : Walker) (chain : List NodeId) : Prop :=
  ∃ cut above, cut :: above <:+ chain.tail ∧ walker.Detours (cut :: above) ∧
    .tooDeep cut walker.maxDepth ∈ walker.walk.errors

theorem Detours.cons {walker : Walker} {chain : List NodeId} (detours : walker.Detours chain)
    (id : NodeId) :
    walker.Detours (id :: chain) := by
  obtain ⟨child, parent, above, slot, within, shared⟩ := detours
  exact ⟨child, parent, above, slot, within.trans (List.suffix_cons _ _), shared⟩

theorem CutShort.cons {walker : Walker} {chain : List NodeId} (cutShort : walker.CutShort chain)
    (id : NodeId) :
    walker.CutShort (id :: chain) := by
  obtain ⟨cut, above, within, rest⟩ := cutShort
  exact ⟨cut, above, within.trans (List.tail_suffix _), rest⟩

/-- A visit along a chain: as far from the root as the chain is long, or the chain has come over a
reference to a node that was visited before. -/
structure Arrives (walker : Walker) (id : NodeId) (above : List NodeId) (path : Path) : Prop where
  visited : path ∈ walker.walk.visits
  node : path.node = id
  depth : path.depth = above.length ∨ walker.Detours (id :: above)

section
variable {walker : Walker} {id parent : NodeId} {above : List NodeId} {path : Path}

/-- From a visit above the depth limit, every reference of a chain leads on to a visit. -/
theorem Arrives.next (arrives : walker.Arrives parent above path)
    (finished : walker.walk.cycle = none) (higher : path.depth < walker.maxDepth)
    (edge : walker.Edge parent id) :
    ∃ next, walker.Arrives id (parent :: above) next := by
  obtain ⟨visited, rfl, depth⟩ := arrives
  obtain ⟨key, refers⟩ := edge
  cases walker.walk_explored finished visited higher key id refers with
  | inl below =>
      refine ⟨path.below key id, below, rfl, ?_⟩
      cases depth with
      | inl straight => exact .inl (congrArg (· + 1) straight)
      | inr detours => exact .inr (detours.cons id)
  | inr passed =>
      obtain ⟨other, otherVisited, same⟩ := List.mem_map.mp passed.1
      exact ⟨other, otherVisited, same,
        .inr ⟨id, path.node, above, key.render, List.suffix_refl _, passed.2⟩⟩

/-- A chain within the depth limit leads to a visit at each of its nodes, until it is cut short. -/
theorem Descends.arrives (descends : walker.Descends id above) (finished : walker.walk.cycle = none)
    (short : above.length ≤ walker.maxDepth) : (∃ path, walker.Arrives id above path) ∨
    walker.CutShort (id :: above) := by
  induction descends with
  | root existing => exact .inl ⟨walker.rootPath, walker.walk_rooted.2.2 existing, rfl, .inl rfl⟩
  | @child id parent above _ edge ih =>
      rw [List.length_cons] at short
      cases ih (by omega) with
      | inr cutShort => exact .inr (cutShort.cons id)
      | inl arrived =>
          obtain ⟨path, arrives⟩ := arrived
          by_cases higher : path.depth < walker.maxDepth
          · exact .inl (arrives.next finished higher edge)
          · -- a straight chain is still above the limit here, so this one has come over a shared node
            have limit : path.depth = walker.maxDepth :=
              Nat.le_antisymm (walker.walk_rooted.2.1 path arrives.visited)
                (Nat.le_of_not_lt higher)
            have detours : walker.Detours (parent :: above) := arrives.depth.resolve_left (by omega)
            have cut : .tooDeep parent walker.maxDepth ∈ walker.walk.errors :=
              walker.tooDeep_mem_errors_iff.mpr ⟨path, arrives.visited, arrives.node, limit, rfl⟩
            exact .inr ⟨parent, above, List.suffix_refl _, detours, cut⟩

/-- A chain that meets no node at the depth limit before its end is followed to its end. -/
theorem Descends.mem_nodes (descends : walker.Descends id above)
    (finished : walker.walk.cycle = none)
    (uncut : ∀ cut ∈ above, .tooDeep cut walker.maxDepth ∉ walker.walk.errors) :
    id ∈ walker.walk.nodes := by
  induction descends with
  | root existing => exact List.mem_map.mpr ⟨_, walker.walk_rooted.2.2 existing, rfl⟩
  | @child id parent above _ edge ih =>
      obtain ⟨here, earlier⟩ := List.forall_mem_cons.mp uncut
      obtain ⟨path, visited, rfl⟩ := List.mem_map.mp (ih earlier)
      obtain ⟨key, refers⟩ := edge
      have different : path.depth ≠ walker.maxDepth := fun limit =>
        here (walker.tooDeep_mem_errors_iff.mpr ⟨path, visited, rfl, limit, rfl⟩)
      have higher := Nat.lt_of_le_of_ne (walker.walk_rooted.2.1 path visited) different
      exact (walker.walk_explored finished visited higher key id refers).mem_nodes

end

theorem exists_above_of_visited (walker : Walker) {path : Path}
    (visited : path ∈ walker.walk.visits) :
    ∀ id ∈ path.above.map Frame.node, ∃ other ∈ walker.walk.visits, other.node = id ∧
      other.depth < path.depth := by
  have reached := walker.walk_sound.2.1 path visited
  induction reached with
  | root _ => simp [rootPath]
  | @child path key id _ _ _ ih =>
      have upper := walker.walk_rooted.1 visited
      intro other member
      cases List.mem_cons.mp member with
      | inl nearest => exact ⟨path, upper, nearest.symm, Nat.lt_succ_self _⟩
      | inr further =>
          obtain ⟨outer, outerVisited, same, less⟩ := ih upper other further
          exact ⟨outer, outerVisited, same, Nat.lt_succ_of_lt less⟩

theorem uncut_of_visited (walker : Walker) {path : Path} (visited : path ∈ walker.walk.visits) :
    ∀ cut ∈ path.above.map Frame.node, .tooDeep cut walker.maxDepth ∉ walker.walk.errors := by
  intro cut member tooDeep
  obtain ⟨other, otherVisited, same, less⟩ := walker.exists_above_of_visited visited cut member
  obtain ⟨deep, deepVisited, deepSame, limit, _⟩ := walker.tooDeep_mem_errors_iff.mp tooDeep
  obtain rfl := walker.eq_of_node_eq otherVisited deepVisited (same.trans deepSame.symm)
  have bounded := walker.walk_rooted.2.1 path visited
  omega

/-- A walk without a cycle follows every chain of references within the depth limit to its end,
unless the chain is cut short. It visits exactly the ends of the chains that meet no node at the
limit before. -/
theorem visits_within_limit_unless_cutShort (walker : Walker)
    (finished : walker.walk.cycle = none) :
    (∀ id above, walker.Descends id above → above.length ≤ walker.maxDepth →
      id ∈ walker.walk.nodes ∨ walker.CutShort (id :: above)) ∧
    ∀ id, id ∈ walker.walk.nodes ↔
      ∃ above, walker.Descends id above ∧
        ∀ cut ∈ above, .tooDeep cut walker.maxDepth ∉ walker.walk.errors := by
  constructor
  · intro id above descends short
    refine (descends.arrives finished short).imp_left fun arrived => ?_
    obtain ⟨path, arrives⟩ := arrived
    exact List.mem_map.mpr ⟨path, arrives.visited, arrives.node⟩
  · intro id
    constructor
    · intro member
      obtain ⟨path, visited, rfl⟩ := List.mem_map.mp member
      exact ⟨_, (walker.walk_sound.2.1 path visited).descends, walker.uncut_of_visited visited⟩
    · intro chain
      obtain ⟨above, descends, uncut⟩ := chain
      exact descends.mem_nodes finished uncut

/-- A node two references from the root, whose only parent was met first at the depth limit. -/
def detouring : Walker where
  tree := {
    nodes := #[
      { kind := "Pair", span := {}, slots := [("left", .node 1), ("right", .node 2)] },
      { kind := "Pair", span := {}, slots := [("left", .node 2)] },
      { kind := "Pair", span := {}, slots := [("left", .node 3)] },
      { kind := "Leaf", span := {} }]
    root := 0 }
  table := { registered := [("Pair", ["left", "right"]), ("Leaf", [])] }
  maxDepth := 2

theorem descends_detouring : detouring.Descends 3 [2, 0] := by
  have right : detouring.Refers 0 ⟨"right", none⟩ 2 := ⟨rfl, _, rfl, by decide, rfl⟩
  have left : detouring.Refers 2 ⟨"left", none⟩ 3 := ⟨rfl, _, rfl, by decide, rfl⟩
  exact .child (.child (.root rfl) ⟨_, right⟩) ⟨_, left⟩

theorem visits_within_limit_unless_cutShort_detouring :
    detouring.walk.cycle = none ∧ detouring.Descends 3 [2, 0] ∧ [2, 0].length ≤ detouring.maxDepth ∧
      detouring.walk.nodes = [0, 1, 2] ∧ detouring.CutShort [3, 2, 0] ∧
      ∃ above, detouring.Descends 2 above ∧
        ∀ cut ∈ above, .tooDeep cut 2 ∉ detouring.walk.errors := by
  have finished : detouring.walk.cycle = none := by cbv
  have nodes : detouring.walk.nodes = [0, 1, 2] := by cbv
  obtain ⟨followed, exactly⟩ := detouring.visits_within_limit_unless_cutShort finished
  have cutShort := (followed 3 [2, 0] descends_detouring (by decide)).resolve_left (by simp [nodes])
  exact ⟨finished, descends_detouring, by decide, nodes, cutShort, (exactly 2).mp (by simp [nodes])⟩

/-- Not every node within the depth limit is visited. -/
theorem not_all_within_limit_visited :
    ¬ ∀ (walker : Walker) (id : NodeId) (above : List NodeId), walker.walk.cycle = none →
      walker.Descends id above →
      above.length ≤ walker.maxDepth → id ∈ walker.walk.nodes := by
  intro visited
  have finished : detouring.walk.cycle = none := by cbv
  have nodes : detouring.walk.nodes = [0, 1, 2] := by cbv
  have leaf := visited detouring 3 [2, 0] finished descends_detouring (by decide)
  simp [nodes] at leaf

end Walker
end Spellspan.Tree
