import Mathlib
import Spellspan.Proofs.References
import Spellspan.Proofs.WalkReachability

/-!
Every problem that a walk reports is there. A slot that is reported holds what it is said to hold, a
missing child is missing, and a shared node can be reached in two ways. So a tree whose nodes are
referred to at most once, each from an earlier node, is walked without a cycle, a shared node or a
missing child.
-/
set_option autoImplicit false

namespace Spellspan.Tree

open Relation (ReflTransGen TransGen)

/-! ## Paths below paths -/

namespace Path

def Under (path visit : Path) : Prop :=
  path.frames <:+ visit.frames

theorem Under.refl (path : Path) : path.Under path :=
  List.suffix_refl _

theorem Under.of_below {path visit : Path} {key : SlotKey} {id : NodeId}
    (under : (path.below key id).Under visit) :
    path.Under visit :=
  (List.suffix_cons _ _).trans under

theorem not_under_below (path : Path) (key : SlotKey) (id : NodeId) :
    ¬ (path.below key id).Under path := by
  intro under
  have longer := under.length_le
  simp only [frames, below, List.length_cons] at longer
  omega

theorem Under.same_child {path visit : Path} {key other : SlotKey} {id second : NodeId}
    (under : (path.below key id).Under visit) (underOther : (path.below other second).Under visit) :
    (key, id) = (other, second) := by
  have same : (path.below key id).frames = (path.below other second).frames :=
    (List.suffix_of_suffix_length_le under underOther (by simp [frames, below])).eq_of_length
      (by simp [frames, below])
  simp only [frames, below, List.cons.injEq, Frame.mk.injEq, Option.some.injEq] at same
  rw [same.1.1, same.1.2]

end Path

namespace Walker

/-! ## Problems are there -/

def Justified (walker : Walker) : TraversalError → Prop
  | .malformedSlot id kind slot found =>
    ∃ node key, walker.tree.get? id = some node ∧ node.kind = kind ∧ key.render = slot ∧
      (key, found) ∈ node.misfitsIn (walker.table.slotsFor kind).1
  | .unknownKind id kind =>
    ∃ node, walker.tree.get? id = some node ∧ node.kind = kind ∧
      (walker.table.slotsFor kind).2 = .fallback
  | .sharedNode id _ _ =>
    ∃ path other, walker.Reaches path ∧ walker.Reaches other ∧ path ≠ other ∧ path.node = id ∧
      other.node = id
  | .danglingChild id parent slot =>
    walker.tree.get? id = none ∧
      ∃ node key, walker.tree.get? parent = some node ∧ key.render = slot ∧
        (key, id) ∈ walker.childrenOf node
  | .tooDeep id depth => depth = walker.maxDepth ∧ ∃ path, walker.Reaches path ∧ path.node = id ∧
      path.depth = depth
  | .missingRoot id => id = walker.tree.root ∧ walker.tree.get? id = none

/-- A trail of chains from the root, with problems that are there. -/
structure Grounded (walker : Walker) (trail : Trail) : Prop where
  reached : ∀ path ∈ trail.visits, walker.Reaches path
  justified : ∀ error ∈ trail.errors, walker.Justified error

namespace Grounded

variable {walker : Walker} {trail : Trail} {path : Path} {node : Node}

theorem report (grounded : walker.Grounded trail) {errors : List TraversalError}
    (justified : ∀ error ∈ errors, walker.Justified error) :
    walker.Grounded (trail.report errors) where
  reached := grounded.reached
  justified error member :=
    (List.mem_append.mp member).elim (grounded.justified error) (justified error)

theorem arrive (grounded : walker.Grounded trail) (found : walker.tree.get? path.node = some node)
    (reached : walker.Reaches path) : walker.Grounded (walker.arrive path node trail) where
  reached visit member := by
    rcases List.mem_append.mp member with earlier | last
    · exact grounded.reached visit earlier
    · exact List.mem_singleton.mp last ▸ reached
  justified error member := by
    rcases List.mem_append.mp member with earlier | last
    · exact grounded.justified error earlier
    · split at last
      · next unknown =>
          obtain rfl := List.mem_singleton.mp last
          exact ⟨node, found, rfl, unknown.1⟩
      · cases last

end Grounded

theorem justified_malformedSlots {walker : Walker} {id : NodeId} {node : Node}
    (found : walker.tree.get? id = some node) :
    ∀ error ∈ walker.malformedSlots id node, walker.Justified error := by
  intro error member
  obtain ⟨misfit, held, rfl⟩ := List.mem_map.mp member
  exact ⟨node, misfit.1, found, rfl, rfl, held⟩

theorem mem_visits_arrive (walker : Walker) {path visit : Path} (node : Node) {trail : Trail}
    (member : visit ∈ (walker.arrive path node trail).visits) :
    visit ∈ trail.visits ∨ visit = path := by
  simpa [Walker.arrive] using member

theorem under_of_mem_arrive (walker : Walker) {path visit : Path} (node : Node) {trail : Trail}
    (member : visit ∈ (walker.arrive path node trail).visits) :
    visit ∈ trail.visits ∨ path.Under visit := by
  rcases walker.mem_visits_arrive node member with earlier | rfl
  · exact .inl earlier
  · exact .inr (Path.Under.refl visit)

/-- Nothing at or below a node is visited before the node is entered, when the table lists no
child of a node twice: whatever a traversal adds lies below the node, or the child, that it was
added for. -/
theorem grounding (walker : Walker)
    (unrepeated : ∀ {id node}, walker.tree.get? id = some node → (walker.childrenOf node).Nodup) :
    walker.TraversalCases
      (fun levels path node trail result =>
        walker.tree.get? path.node = some node → walker.Reaches path →
          levels + path.depth = walker.maxDepth →
        walker.Grounded trail → (∀ visit ∈ trail.visits, ¬ path.Under visit) →
        walker.Grounded result.1 ∧ ∀ visit ∈ result.1.visits, visit ∈ trail.visits ∨
          path.Under visit)
      (fun levels path children trail result =>
        walker.Lists path children → children.Nodup → walker.Reaches path →
          levels + path.depth + 1 = walker.maxDepth →
        walker.Grounded trail →
        (∀ child ∈ children, ∀ visit ∈ trail.visits, ¬ (path.below child.1 child.2).Under visit) →
        walker.Grounded result.1 ∧
          ∀ visit ∈ result.1.visits, visit ∈ trail.visits ∨
            ∃ child ∈ children, (path.below child.1 child.2).Under visit) where
  tooDeep path node trail := by
    intro found reached limit grounded _
    have deep : walker.Justified (.tooDeep path.node path.depth) :=
      ⟨by omega, path, reached, rfl, rfl⟩
    exact ⟨(grounded.arrive found reached).report (by simpa using deep), fun visit =>
      walker.under_of_mem_arrive node⟩
  entered levels path node trail result := by
    intro children found reached limit grounded before
    have arrived := (grounded.arrive found reached).report (justified_malformedSlots found)
    obtain ⟨after, added⟩ := children (.all found) (unrepeated found) reached (by omega) arrived (by
      intro child _ visit member under
      rcases walker.mem_visits_arrive node member with earlier | rfl
      · exact before visit earlier under.of_below
      · exact visit.not_under_below child.1 child.2 under)
    refine ⟨after, fun visit member => ?_⟩
    rcases added visit member with earlier | ⟨child, _, under⟩
    · exact walker.under_of_mem_arrive node earlier
    · exact .inr under.of_below
  finished levels path trail := by
    intro _ _ _ _ grounded _
    exact ⟨grounded, fun visit member => .inl member⟩
  dangling levels path key id rest trail result := by
    intro missing later listed unique reached limit grounded before
    have dangles : walker.Justified (.danglingChild id path.node key.render) := by
      obtain ⟨node, found, included⟩ := listed
      exact ⟨missing, node, key, found, rfl, included List.mem_cons_self⟩
    obtain ⟨after, added⟩ :=
      later listed.tail unique.of_cons reached limit (grounded.report (by simpa using dangles))
      fun child member => before child (List.mem_cons_of_mem _ member)
    exact ⟨after, fun visit member => (added visit member).imp_right fun ⟨child, listed, under⟩ =>
      ⟨child, List.mem_cons_of_mem _ listed, under⟩⟩
  cyclic levels path key id rest trail node := by
    intro _ _ _ _ _ _ grounded _
    exact ⟨grounded, fun visit member => .inl member⟩
  shared levels path key id rest trail result node := by
    intro existing apart seen later listed unique reached limit grounded before
    have twice : walker.Justified (.sharedNode id path.node key.render) := by
      obtain ⟨visit, member, same⟩ := List.mem_map.mp seen
      refine ⟨visit, path.below key id, grounded.reached visit member,
        .child reached (listed.refers existing) apart, ?_, same, rfl⟩
      rintro rfl
      exact before (key, id) List.mem_cons_self _ member (Path.Under.refl _)
    obtain ⟨after, added⟩ :=
      later listed.tail unique.of_cons reached limit (grounded.report (by simpa using twice))
      fun child member => before child (List.mem_cons_of_mem _ member)
    exact ⟨after, fun visit member => (added visit member).imp_right fun ⟨child, listed, under⟩ =>
      ⟨child, List.mem_cons_of_mem _ listed, under⟩⟩
  stopped levels path key id rest trail node after cycle := by
    intro existing apart _ subtree listed _ reached limit grounded before
    obtain ⟨below, added⟩ := subtree existing (.child reached (listed.refers existing) apart)
      (by rw [Path.depth_below]; omega) grounded (before (key, id) List.mem_cons_self)
    exact ⟨below, fun visit member => (added visit member).imp_right fun under =>
      ⟨(key, id), List.mem_cons_self, under⟩⟩
  returned levels path key id rest trail node after result := by
    intro existing apart _ subtree later listed unique reached limit grounded before
    obtain ⟨below, added⟩ := subtree existing (.child reached (listed.refers existing) apart)
      (by rw [Path.depth_below]; omega) grounded (before (key, id) List.mem_cons_self)
    -- the visits below this child are not below a later one
    obtain ⟨final, addedLater⟩ := later listed.tail unique.of_cons reached limit below (by
      intro child member visit visited under
      rcases added visit visited with earlier | underThis
      · exact before child (List.mem_cons_of_mem _ member) visit earlier under
      · exact (List.nodup_cons.mp unique).1 (underThis.same_child under ▸ member))
    refine ⟨final, fun visit member => ?_⟩
    rcases addedLater visit member with earlier | ⟨child, member, under⟩
    · exact (added visit earlier).imp_right fun under => ⟨(key, id), List.mem_cons_self, under⟩
    · exact .inr ⟨child, List.mem_cons_of_mem _ member, under⟩

/-- What a walk reports is so. -/
theorem walk_justified (walker : Walker)
    (unrepeated : ∀ {id node}, walker.tree.get? id = some node → (walker.childrenOf node).Nodup) :
    ∀ error ∈ walker.walk.errors, walker.Justified error := by
  cases found : walker.tree.get? walker.tree.root with
  | none =>
      have missing : walker.Justified (.missingRoot walker.tree.root) := ⟨rfl, found⟩
      simpa [walk, found] using missing
  | some node =>
      have rooted : (walker.tree.get? walker.tree.root).isSome :=
        Option.isSome_iff_exists.mpr ⟨node, found⟩
      obtain ⟨trail, cycle, visited, walked⟩ := walker.walk_of_root found
      have grounded := (walker.grounding unrepeated).visitSubtree walker.maxDepth walker.rootPath
        node {} found (.root rooted)
        rfl ⟨by simp, by simp⟩ (by simp)
      rw [visited] at grounded
      rw [walked]
      exact grounded.1.justified

/-! ## Trees that branch -/

/-- A table lists the slots of a kind without repetition when what is registered in it does. -/
theorem nodup_slotsFor {table : ChildTable} (unrepeated : ∀ entry ∈ table.registered, entry.2.Nodup)
    (kind : String) :
    (table.slotsFor kind).1.Nodup := by
  have standard : ∀ entry ∈ standardSlots, entry.2.Nodup := by decide
  simp only [ChildTable.slotsFor, slotsIn?_eq_lookup]
  split
  · next found => exact unrepeated _ (mem_of_lookup found)
  · split
    · next found => exact standard _ (mem_of_lookup found)
    · decide

section
variable {walker : Walker}

theorem nodup_childrenOf (branching : walker.tree.Branching)
    (unrepeated : ∀ kind, (walker.table.slotsFor kind).1.Nodup) {id : NodeId} {node : Node}
    (found : walker.tree.get? id = some node) : ((walker.childrenOf node).map Prod.snd).Nodup := by
  obtain ⟨picked, same, among⟩ := node.map_childrenIn_subperm (unrepeated node.kind)
  exact same.nodup_iff.mp ((branching.nodup_references found).sublist among)

theorem mem_references_of_mem_childrenOf
    (unrepeated : ∀ kind, (walker.table.slotsFor kind).1.Nodup) {node : Node} {key : SlotKey}
    {id : NodeId} (member : (key, id) ∈ walker.childrenOf node) :
    id ∈ node.references :=
  (node.map_childrenIn_subperm (unrepeated node.kind)).subset (List.mem_map.mpr ⟨_, member, rfl⟩)

/-- A node of a tree that branches can be reached in one way only. -/
theorem Reaches.unique (branching : walker.tree.Branching)
    (unrepeated : ∀ kind, (walker.table.slotsFor kind).1.Nodup) {path other : Path}
    (reached : walker.Reaches path) (reachedOther : walker.Reaches other)
    (same : path.node = other.node) :
    path = other := by
  have listed : ∀ {parent key id}, walker.Refers parent key id →
      ∃ node, walker.tree.get? parent = some node ∧ (key, id) ∈ walker.childrenOf node := by
    rintro parent key id ⟨_, node, found, named, held⟩
    exact ⟨node, found, Node.mem_childrenIn.mpr ⟨named, held⟩⟩
  induction reached generalizing other with
  | root _ =>
      cases reachedOther with
      | root _ => rfl
      | child _ refers _ =>
          obtain ⟨node, found, member⟩ := listed refers
          have held := mem_references_of_mem_childrenOf unrepeated member
          change walker.tree.root = _ at same
          exact absurd (same ▸ held) (branching.root_notMem found)
  | @child path key id reached refers _ ih =>
      obtain ⟨node, found, member⟩ := listed refers
      have held := mem_references_of_mem_childrenOf unrepeated member
      cases reachedOther with
      | root _ =>
          change id = walker.tree.root at same
          exact absurd (same ▸ held) (branching.root_notMem found)
      | @child second secondKey secondId reachedSecond refersSecond _ =>
          obtain rfl : id = secondId := same
          obtain ⟨secondNode, foundSecond, memberSecond⟩ := listed refersSecond
          have owner := branching.owner_unique found held foundSecond
            (mem_references_of_mem_childrenOf unrepeated memberSecond)
          obtain rfl := ih reachedSecond owner
          obtain rfl := Option.some.inj (found.symm.trans foundSecond)
          obtain ⟨rfl, _⟩ := Prod.mk.inj
            (List.inj_on_of_nodup_map (nodup_childrenOf branching unrepeated found) member
              memberSecond rfl)
          rfl

theorem lt_of_edge (branching : walker.tree.Branching)
    (unrepeated : ∀ kind, (walker.table.slotsFor kind).1.Nodup) {parent child : NodeId}
    (edge : walker.Edge parent child) : parent < child := by
  obtain ⟨key, _, node, found, named, held⟩ := edge
  have member : (key, child) ∈ walker.childrenOf node := Node.mem_childrenIn.mpr ⟨named, held⟩
  exact branching.onward found (mem_references_of_mem_childrenOf unrepeated member)

theorem le_of_chain (branching : walker.tree.Branching)
    (unrepeated : ∀ kind, (walker.table.slotsFor kind).1.Nodup) {first last : NodeId}
    (chain : ReflTransGen walker.Edge first last) : first ≤ last := by
  induction chain with
  | refl => exact Nat.le_refl _
  | tail _ edge ih => exact Nat.le_trans ih (Nat.le_of_lt (lt_of_edge branching unrepeated edge))

/-- A tree that branches is walked without a cycle, a shared node or a missing child. -/
theorem walk_of_branching (branching : walker.tree.Branching)
    (unrepeated : ∀ kind, (walker.table.slotsFor kind).1.Nodup) :
    walker.walk.cycle = none ∧ (∀ id parent slot, .sharedNode id parent slot ∉ walker.walk.errors) ∧
      ∀ id parent slot, .danglingChild id parent slot ∉ walker.walk.errors := by
  have justified := walker.walk_justified fun found =>
    (nodup_childrenOf branching unrepeated found).of_map
  refine ⟨Option.eq_none_iff_forall_ne_some.mpr fun cycle found => ?_,
    fun id parent slot member => ?_, fun id parent slot member => ?_⟩
  · obtain ⟨_, returns, key, _, refers⟩ := walker.walk_sound.2.2 cycle found
    exact absurd (lt_of_edge branching unrepeated ⟨key, refers⟩)
      (Nat.not_lt.mpr (le_of_chain branching unrepeated returns))
  · obtain ⟨path, other, reached, reachedOther, different, here, there⟩ := justified _ member
    exact different (reached.unique branching unrepeated reachedOther (here.trans there.symm))
  · obtain ⟨missing, node, key, found, _, listed⟩ := justified _ member
    have inBounds := branching.existing id
      (SyntaxTree.mem_references found (mem_references_of_mem_childrenOf unrepeated listed))
    exact absurd inBounds (Nat.not_lt.mpr (SyntaxTree.get?_eq_none_iff.mp missing))

end
end Walker
end Spellspan.Tree
