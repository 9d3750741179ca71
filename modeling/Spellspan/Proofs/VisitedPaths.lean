import Mathlib
import Spellspan.Proofs.WalkReachability

/-!
The paths of a walk. Every path but that of the root leads through a slot of a parent, which holds
the node, and was visited after the path above it. So all nodes of a path are visited themselves.
-/
set_option autoImplicit false

namespace Spellspan.Tree

theorem Path.below_inj {path other : Path} {key otherKey : SlotKey} {id otherId : NodeId}
    (same : path.below key id = other.below otherKey otherId) : path = other := by
  obtain ⟨current, above⟩ := path
  obtain ⟨otherCurrent, otherAbove⟩ := other
  simp only [below, frames, mk.injEq, List.cons.injEq] at same
  rw [same.2.1, same.2.2]

namespace Walker

/-! ## Parents and slots -/

/-- A path comes to its last node through a slot of a parent that refers to the node. -/
def ComesThrough (walker : Walker) (path : Path) (parent : NodeId) (slot : String) : Prop :=
  ∃ above key, path = Path.below above key path.node ∧ above.node = parent ∧ key.name = slot ∧
    walker.Refers parent key path.node

theorem ComesThrough.frames {walker : Walker} {path : Path} {parent : NodeId} {slot : String}
    (comes : walker.ComesThrough path parent slot) :
    ∃ frame rest key, path.above = frame :: rest ∧ frame.node = parent ∧ path.key? = some key ∧
      key.name = slot := by
  obtain ⟨above, key, below, rfl, rfl, _⟩ := comes
  rw [below]
  exact ⟨above.current, above.above, key, rfl, rfl, rfl, rfl⟩

theorem Reaches.cases {walker : Walker} {path : Path} (reached : walker.Reaches path) :
    path = walker.rootPath ∨ ∃ parent slot, walker.ComesThrough path parent slot := by
  cases reached with
  | root _ => exact .inl rfl
  | @child above key id _ refers _ =>
      exact .inr ⟨above.node, key.name, above, key, rfl, rfl, rfl, refers⟩

/-- The frame above and the key of a path name the parent and the slot that it comes through. -/
theorem Reaches.comesThrough_iff {walker : Walker} {path : Path} (reached : walker.Reaches path)
    {parent : NodeId} {slot : String} :
    walker.ComesThrough path parent slot ↔
      path.parent?.map Frame.node = some parent ∧ path.key?.map SlotKey.name = some slot := by
  constructor
  · intro comes
    obtain ⟨frame, rest, key, above, rfl, keyed, rfl⟩ := comes.frames
    simp [Path.parent?, above, keyed]
  · rintro ⟨parented, keyed⟩
    cases reached with
    | root _ => simp [Path.parent?, rootPath] at parented
    | @child above key id _ refers _ =>
        obtain rfl : above.node = parent := Option.some.inj parented
        obtain rfl : key.name = slot := Option.some.inj keyed
        exact ⟨above, key, rfl, rfl, rfl, refers⟩

/-! ## Paths that are visited -/

/-- The path above a visited path is visited too, and no visited path is longer than the depth limit
allows. -/
structure Rooted (walker : Walker) (trail : Trail) : Prop where
  above : ∀ {path key id}, path.below key id ∈ trail.visits → path ∈ trail.visits
  shallow : ∀ path ∈ trail.visits, path.depth ≤ walker.maxDepth

theorem Rooted.arrive {walker : Walker} {trail : Trail} {path : Path} (rooted : walker.Rooted trail)
    (node : Node) (entered : ∀ {outer key id}, path = outer.below key id → outer ∈ trail.visits)
    (limit : path.depth ≤ walker.maxDepth) :
    walker.Rooted (walker.arrive path node trail) where
  above := by
    intro outer key id member
    apply List.mem_append_left
    cases List.mem_append.mp member with
    | inl earlier => exact rooted.above earlier
    | inr last => exact entered (List.mem_singleton.mp last).symm
  shallow := by
    intro visit member
    cases List.mem_append.mp member with
    | inl earlier => exact rooted.shallow visit earlier
    | inr last => exact List.mem_singleton.mp last ▸ limit

theorem visits_subset_arrive (walker : Walker) (path : Path) (node : Node) (trail : Trail) :
    path :: trail.visits ⊆ (walker.arrive path node trail).visits := by
  simp [arrive]

theorem rooting (walker : Walker) :
    walker.TraversalCases
      (fun levels path _ trail result => levels + path.depth = walker.maxDepth →
        (∀ {outer key id}, path = outer.below key id → outer ∈ trail.visits) → walker.Rooted trail →
        walker.Rooted result.1 ∧ path :: trail.visits ⊆ result.1.visits)
      (fun levels path _ trail result => levels + path.depth + 1 = walker.maxDepth →
        path ∈ trail.visits →
        walker.Rooted trail → walker.Rooted result.1 ∧ trail.visits ⊆ result.1.visits) where
  tooDeep path node trail := by
    intro limit entered rooted
    have arrived := rooted.arrive node entered (by omega)
    exact ⟨⟨arrived.above, arrived.shallow⟩, walker.visits_subset_arrive path node trail⟩
  entered levels path node trail result := by
    intro children limit entered rooted
    have arrived := rooted.arrive node entered (by omega)
    have visits := walker.visits_subset_arrive path node trail
    obtain ⟨after, grown⟩ :=
      children (by omega) (visits List.mem_cons_self) ⟨arrived.above, arrived.shallow⟩
    exact ⟨after, List.Subset.trans visits grown⟩
  finished levels path trail := by
    intro _ _ rooted
    exact ⟨rooted, List.Subset.refl _⟩
  dangling levels path key id rest trail result := by
    intro _ later limit visited rooted
    exact later limit visited ⟨rooted.above, rooted.shallow⟩
  cyclic levels path key id rest trail child := by
    intro _ _ _ _ rooted
    exact ⟨rooted, List.Subset.refl _⟩
  shared levels path key id rest trail result child := by
    intro _ _ _ later limit visited rooted
    exact later limit visited ⟨rooted.above, rooted.shallow⟩
  stopped levels path key id rest trail child after cycle := by
    intro _ _ _ subtree limit visited rooted
    obtain ⟨done, grown⟩ := subtree (by rw [Path.depth_below]; omega)
      (fun same => Path.below_inj same ▸ visited) rooted
    exact ⟨done, (List.cons_subset.mp grown).2⟩
  returned levels path key id rest trail child after result := by
    intro _ _ _ subtree later limit visited rooted
    obtain ⟨between, grown⟩ := subtree (by rw [Path.depth_below]; omega)
      (fun same => Path.below_inj same ▸ visited) rooted
    have first := (List.cons_subset.mp grown).2
    obtain ⟨done, second⟩ := later limit (first visited) between
    exact ⟨done, List.Subset.trans first second⟩

theorem walk_rooted (walker : Walker) :
    (∀ {path key id}, path.below key id ∈ walker.walk.visits → path ∈ walker.walk.visits) ∧
      (∀ path ∈ walker.walk.visits, path.depth ≤ walker.maxDepth) ∧
      ((walker.tree.get? walker.tree.root).isSome → walker.rootPath ∈ walker.walk.visits) := by
  cases found : walker.tree.get? walker.tree.root with
  | none => simp [walk, found]
  | some node =>
      obtain ⟨trail, cycle, traversed, walked⟩ := walker.walk_of_root found
      have rooted := walker.rooting.visitSubtree walker.maxDepth walker.rootPath node {} rfl
        (by simp [rootPath, Path.below, Path.frames]) ⟨by simp, by simp⟩
      rw [traversed] at rooted
      rw [walked]
      exact ⟨rooted.1.above, rooted.1.shallow, fun _ => rooted.2 List.mem_cons_self⟩

theorem chain_subset_nodes (walker : Walker) {path : Path} (visited : path ∈ walker.walk.visits) :
    path.chain ⊆ walker.walk.nodes := by
  have reached := walker.walk_sound.2.1 path visited
  induction reached with
  | root _ =>
      intro id member
      obtain rfl := List.mem_singleton.mp member
      exact List.mem_map.mpr ⟨_, visited, rfl⟩
  | child _ _ _ ih =>
      apply List.cons_subset.mpr
      exact ⟨List.mem_map.mpr ⟨_, visited, rfl⟩, ih (walker.walk_rooted.1 visited)⟩

end Walker
end Spellspan.Tree
