import Mathlib
import Spellspan.Proofs.VisitedPaths

/-!
The links that a walk leaves behind. A node is visited once, so its link is set at most once, to the
node above it on its path, and that node was visited with the rest of the path. Following the links
from a node gives its path back.
-/
set_option autoImplicit false

namespace Spellspan.Tree

/-! ## Links of visits -/

theorem Path.getElem?_one_frames (path : Path) : path.frames[1]? = path.parent? := by
  rw [parent?, List.head?_eq_getElem?]
  rfl

theorem size_parentLinks (size : Nat) (visits : List Path) :
    (parentLinks size visits).size = size := by
  induction visits using List.reverseRecOn with
  | nil => simp [parentLinks]
  | append_singleton visits path ih =>
      rw [parentLinks_append]
      cases path.parent? with
      | none => exact ih
      | some parent => rw [Array.size_setIfInBounds, ih]

/-- Each link leads from the last node of a visit to the one above it. A later visit is to another
node and leaves it alone. -/
theorem parentLinks_join_eq_some_iff {size : Nat} {visits : List Path}
    (unique : (visits.map Path.node).Nodup) (bounded : ∀ path ∈ visits, path.node < size)
    {id parent : NodeId} :
    (parentLinks size visits)[id]?.join = some parent ↔
      ∃ path ∈ visits, path.node = id ∧ path.parent?.map Frame.node = some parent := by
  induction visits using List.reverseRecOn with
  | nil =>
      simp only [parentLinks, List.foldl_nil, Array.getElem?_replicate]
      split <;> simp
  | append_singleton visits path ih =>
      rw [List.map_append, List.nodup_append'] at unique
      obtain ⟨earlierUnique, _, apart⟩ := unique
      have fresh : ∀ earlier ∈ visits, earlier.node ≠ path.node := by
        intro earlier member same
        exact apart (List.mem_map.mpr ⟨earlier, member, same⟩) (List.mem_singleton.mpr rfl)
      have before := ih earlierUnique fun earlier member =>
        bounded earlier (List.mem_append_left _ member)
      rw [parentLinks_append]
      simp only [List.mem_append, List.mem_singleton, or_and_right, exists_or, exists_eq_left]
      cases above : path.parent? with
      | none => simp [before]
      | some frame =>
          dsimp only
          rw [Array.getElem?_setIfInBounds]
          by_cases same : path.node = id
          · subst same
            have inBounds : path.node < (parentLinks size visits).size := by
              rw [size_parentLinks]
              exact bounded path (by simp)
            have none_earlier : ¬ ∃ earlier ∈ visits, earlier.node = path.node ∧
                earlier.parent?.map Frame.node = some parent := by
              intro visited
              obtain ⟨earlier, member, node, _⟩ := visited
              exact fresh earlier member node
            rw [or_iff_right none_earlier]
            simp [inBounds]
          · simp [same, before]

namespace Walk

/-- The nodes above a node by its links, up to a node without one. -/
inductive Climbs (walk : Walk) : NodeId → List NodeId → Prop where
  | top {id : NodeId} (unlinked : walk.parent? id = none) : Climbs walk id []
  | up {id parent : NodeId} {ids : List NodeId} (linked : walk.parent? id = some parent)
      (rest : Climbs walk parent ids) :
      Climbs walk id (parent :: ids)

theorem Climbs.ancestorsWithin_eq {walk : Walk} {id : NodeId} {ids : List NodeId}
    (climbs : walk.Climbs id ids) {fuel : Nat} (enough : ids.length ≤ fuel)
    : walk.ancestorsWithin fuel id = ids := by
  induction climbs generalizing fuel with
  | top unlinked =>
      cases fuel with
      | zero => rfl
      | succ fuel => rw [ancestorsWithin, unlinked]
  | up linked _ ih =>
      cases fuel with
      | zero => cases enough
      | succ fuel =>
          rw [ancestorsWithin, linked]
          dsimp only
          rw [ih (Nat.le_of_succ_le_succ enough)]

end Walk

/-! ## Links of a walk -/

namespace Walker

theorem parents_walk (walker : Walker) :
    walker.walk.parents = parentLinks walker.tree.size walker.walk.visits := by
  cases found : walker.tree.get? walker.tree.root with
  | none =>
      simp only [walk, found]
      rfl
  | some node =>
      obtain ⟨trail, cycle, _, walked⟩ := walker.walk_of_root found
      rw [walked]

theorem lt_size_of_visited (walker : Walker) {path : Path} (visited : path ∈ walker.walk.visits) :
    path.node < walker.tree.size :=
  SyntaxTree.get?_isSome_iff.mp
    ((walker.walk_sound.2.1 path visited).isSome_of_mem_chain path.node List.mem_cons_self)

theorem parent?_eq_some_iff (walker : Walker) {id parent : NodeId} :
    walker.walk.parent? id = some parent ↔
      ∃ path ∈ walker.walk.visits, path.node = id ∧ path.parent?.map Frame.node = some parent := by
  rw [Walk.parent?, parents_walk]
  exact parentLinks_join_eq_some_iff walker.walk_sound.1 fun _ => walker.lt_size_of_visited

theorem eq_of_node_eq (walker : Walker) {path other : Path} (visited : path ∈ walker.walk.visits)
    (otherVisited : other ∈ walker.walk.visits) (same : path.node = other.node) : path = other :=
  List.inj_on_of_nodup_map walker.walk_sound.1 visited otherVisited same

theorem parent?_of_visited (walker : Walker) {path : Path} (visited : path ∈ walker.walk.visits) :
    walker.walk.parent? path.node = path.parent?.map Frame.node := by
  apply Option.ext
  intro parent
  rw [parent?_eq_some_iff]
  constructor
  · intro linked
    obtain ⟨other, otherVisited, same, above⟩ := linked
    rwa [← walker.eq_of_node_eq otherVisited visited same]
  · intro above
    exact ⟨path, visited, rfl, above⟩

theorem parent?_of_unvisited (walker : Walker) {id : NodeId} (unvisited : id ∉ walker.walk.nodes) :
    walker.walk.parent? id = none := by
  rw [Option.eq_none_iff_forall_ne_some]
  intro parent linked
  obtain ⟨path, visited, rfl, _⟩ := walker.parent?_eq_some_iff.mp linked
  exact unvisited (List.mem_map.mpr ⟨path, visited, rfl⟩)

theorem climbs_of_visited (walker : Walker) {path : Path} (visited : path ∈ walker.walk.visits) :
    walker.walk.Climbs path.node (path.above.map Frame.node) := by
  have reached := walker.walk_sound.2.1 path visited
  induction reached with
  | root _ => exact .top (walker.parent?_of_visited visited)
  | child _ _ _ ih =>
      exact .up (walker.parent?_of_visited visited) (ih (walker.walk_rooted.1 visited))

theorem ancestors_of_climbs (walker : Walker) {id : NodeId} {ids : List NodeId}
    (climbs : walker.walk.Climbs id ids) (bounded : ids.length ≤ walker.tree.size)
    : walker.walk.ancestors id = ids := by
  rw [Walk.ancestors, parents_walk, size_parentLinks]
  exact climbs.ancestorsWithin_eq bounded

/-! ## Paths as chains of frames -/

/-- A frame below another one has the key of a slot under which the upper node refers to the lower
one. -/
def Hangs (walker : Walker) (lower upper : Frame) : Prop :=
  ∃ key, lower.key = some key ∧ walker.Refers upper.node key lower.node

theorem Reaches.frames_chain {walker : Walker} {path : Path} (reached : walker.Reaches path) :
    path.frames.IsChain walker.Hangs ∧ path.frames.getLast? = some ⟨walker.tree.root, none⟩ := by
  induction reached with
  | root _ => exact ⟨List.isChain_singleton _, rfl⟩
  | @child path key id _ refers _ ih =>
      obtain ⟨chained, last⟩ := ih
      constructor
      · exact List.isChain_cons_cons.mpr ⟨⟨key, rfl, refers⟩, chained⟩
      · exact last

theorem isSome_parent?_iff (walker : Walker) {id : NodeId} :
    (walker.walk.parent? id).isSome ↔ id ∈ walker.walk.nodes ∧ id ≠ walker.tree.root := by
  by_cases visited : id ∈ walker.walk.nodes
  · obtain ⟨path, member, rfl⟩ := List.mem_map.mp visited
    have reached := walker.walk_sound.2.1 path member
    rw [walker.parent?_of_visited member]
    cases reached with
    | root _ => simp [rootPath, Path.parent?, Path.node]
    | @child above key id reached _ apart =>
        have root : walker.tree.root ∈ above.chain := by
          have last := List.mem_of_getLast? reached.frames_chain.2
          exact List.mem_map.mpr ⟨_, last, rfl⟩
        have different : id ≠ walker.tree.root := fun same => apart (same ▸ root)
        exact ⟨fun _ => ⟨visited, different⟩, fun _ => rfl⟩
  · simp [walker.parent?_of_unvisited visited, visited]

/-- The path of a visit is a chain of references that ends at the root, within the depth limit. The
links of a walk lead from each visited node to the next one on its path and from nowhere else, so
following them ends, and gives the rest of the path. -/
theorem links_follow_paths (walker : Walker) :
    (∀ path ∈ walker.walk.visits,
      path.frames.getLast? = some ⟨walker.tree.root, none⟩ ∧ path.frames.IsChain walker.Hangs ∧
      path.depth = path.frames.length - 1 ∧ path.depth ≤ walker.maxDepth) ∧
    (∀ id parent, walker.walk.parent? id = some parent ↔
      ∃ path ∈ walker.walk.visits, path.node = id ∧ path.frames[1]?.map Frame.node = some parent) ∧
    (∀ id, (walker.walk.parent? id).isSome ↔ id ∈ walker.walk.nodes ∧ id ≠ walker.tree.root) ∧
    (∀ id, walker.tree.size ≤ id → walker.walk.parent? id = none) ∧
    (∀ path ∈ walker.walk.visits,
      walker.walk.Climbs path.node (path.frames.tail.map Frame.node) ∧
      walker.walk.ancestors path.node = path.frames.tail.map Frame.node) ∧
    ∀ id, id ∉ walker.walk.nodes → walker.walk.Climbs id [] ∧ walker.walk.ancestors id = [] := by
  have reached := walker.walk_sound.2.1
  refine ⟨?_, ?_, fun _ => walker.isSome_parent?_iff, ?_, ?_, ?_⟩
  · intro path visited
    obtain ⟨chained, last⟩ := (reached path visited).frames_chain
    exact ⟨last, chained, rfl, walker.walk_rooted.2.1 path visited⟩
  · intro id parent
    simp only [Path.getElem?_one_frames]
    exact walker.parent?_eq_some_iff
  · intro id outside
    apply walker.parent?_of_unvisited
    intro visited
    obtain ⟨path, member, rfl⟩ := List.mem_map.mp visited
    exact absurd (walker.lt_size_of_visited member) (Nat.not_lt.mpr outside)
  · intro path visited
    have climbs := walker.climbs_of_visited visited
    have shorter := (reached path visited).depth_lt
    refine ⟨climbs, walker.ancestors_of_climbs climbs ?_⟩
    rw [List.length_map]
    exact Nat.le_of_lt shorter
  · intro id unvisited
    have climbs : walker.walk.Climbs id [] := .top (walker.parent?_of_unvisited unvisited)
    exact ⟨climbs, walker.ancestors_of_climbs climbs (Nat.zero_le _)⟩

/-- The shared node belongs to the path that came to it first, and a node that does not exist to
none. -/
theorem links_follow_paths_sharing :
    ⟨⟨3, some ⟨"left", none⟩⟩, [⟨1, some ⟨"left", none⟩⟩, ⟨0, none⟩]⟩ ∈ sharing.walk.visits ∧
      7 ∉ sharing.walk.nodes ∧
      sharing.walk.parent? 3 = some 1 ∧ sharing.walk.parent? 0 = none ∧
        sharing.walk.Climbs 3 [1, 0] ∧
      sharing.walk.ancestors 3 = [1, 0] ∧ sharing.walk.ancestors 7 = [] := by
  have visits : sharing.walk.visits = [
      ⟨⟨0, none⟩, []⟩, ⟨⟨1, some ⟨"left", none⟩⟩, [⟨0, none⟩]⟩,
      ⟨⟨3, some ⟨"left", none⟩⟩, [⟨1, some ⟨"left", none⟩⟩, ⟨0, none⟩]⟩,
        ⟨⟨2, some ⟨"right", some 0⟩⟩, [⟨0, none⟩]⟩] := by cbv
  have shared : ⟨⟨3, some ⟨"left", none⟩⟩,
    [⟨1, some ⟨"left", none⟩⟩, ⟨0, none⟩]⟩ ∈ sharing.walk.visits := by simp [visits]
  have missing : 7 ∉ sharing.walk.nodes := by simp [Walk.nodes, visits, Path.node]
  obtain ⟨_, linked, links, _, climbed, unclimbed⟩ := sharing.links_follow_paths
  have root : sharing.walk.parent? 0 = none := by
    rw [← Option.not_isSome_iff_eq_none, links]
    exact fun below => below.2 rfl
  exact ⟨shared, missing, (linked 3 1).mpr ⟨_, shared, rfl, rfl⟩, root, (climbed _ shared).1,
    (climbed _ shared).2, (unclimbed 7 missing).2⟩

end Walker
end Spellspan.Tree
