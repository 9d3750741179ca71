import Mathlib
import Spellspan.Proofs.ConversionGrowth
import Spellspan.Proofs.WalkProblems
import Spellspan.Select.Candidate

/-!
The tree of a parse is walked without a problem. The whole table is one run of nodes below its root:
it branches, every node fits the table of the file, and no chain comes near the depth limit.
-/
set_option autoImplicit false

namespace Spellspan.Tree

/-! ## The table of a file -/

theorem registered_registerAll (table : ChildTable) (kinds : List (String × List String)) :
    (table.registerAll kinds).registered = kinds.reverse ++ table.registered := by
  induction kinds generalizing table with
  | nil => rfl
  | cons entry rest ih =>
      rw [ChildTable.registerAll, List.foldl_cons, ← ChildTable.registerAll, ih,
        ChildTable.register, List.reverse_cons, List.append_assoc, List.singleton_append]

section
variable {kinds : List (String × List String)} {kind : String}

theorem slotsFor_noted (once : (kinds.map Prod.fst).Nodup) {names : List String}
    (noted : slotsIn? kind kinds = some names) :
    (ChildTable.registerAll {} kinds).slotsFor kind = (names, .registered) := by
  have registered : slotsIn? kind (ChildTable.registerAll {} kinds).registered = some names := by
    rw [registered_registerAll, List.append_nil, slotsIn?_eq_lookup]
    exact lookup_of_mem (by simpa using once) (List.mem_reverse.mpr (mem_of_slotsIn? noted))
  rw [ChildTable.slotsFor, registered]

theorem slotsFor_standard (absent : kind ∉ kinds.map Prod.fst) {names : List String}
    (standard : slotsIn? kind standardSlots = some names) :
    (ChildTable.registerAll {} kinds).slotsFor kind = (names, .core) := by
  have unregistered : slotsIn? kind (ChildTable.registerAll {} kinds).registered = none := by
    rw [registered_registerAll, List.append_nil, slotsIn?_eq_lookup]
    exact lookup_eq_none_iff_notMem.mpr (by simpa using absent)
  rw [ChildTable.slotsFor, unregistered]
  simp only [standard]

end

/-- A node that fits the kinds of a file is known to the table of the file, and holds nodes where
the table expects them. -/
theorem Node.Fits.slotsFor {kinds : List (String × List String)} (once : (kinds.map Prod.fst).Nodup)
    (foreign : ∀ entry ∈ kinds, entry.1 ∉ standardSlots.map Prod.fst) {node : Node}
    (fits : node.Fits kinds) :
    ((ChildTable.registerAll {} kinds).slotsFor node.kind).2 ≠ .fallback ∧
      node.misfitsIn ((ChildTable.registerAll {} kinds).slotsFor node.kind).1 = [] := by
  have expected : ∀ {names : List String}, (∀ name ∈ names, ∀ slot, node.slot? name = some slot →
    slot.OnlyNodes) →
      node.misfitsIn names = [] := by
    intro names only
    refine List.flatMap_eq_nil_iff.mpr fun name listed => ?_
    cases found : node.slot? name with
    | none => rfl
    | some slot => exact (only name listed slot found).misfits_eq_nil name
  rcases fits with standard | noted
  · obtain ⟨names, listed⟩ : ∃ names, slotsIn? node.kind standardSlots = some names := by
      rw [← Option.ne_none_iff_exists', slotsIn?_eq_lookup]
      exact fun absent => lookup_eq_none_iff_notMem.mp absent standard.known
    have absent : node.kind ∉ kinds.map Prod.fst := by
      intro noted
      obtain ⟨entry, member, same⟩ := List.mem_map.mp noted
      exact foreign entry member (same ▸ standard.known)
    rw [slotsFor_standard absent listed]
    refine ⟨nofun, expected fun name member slot found => ?_⟩
    exact (standard.held _ (Node.mem_of_slot? found)).resolve_left
      (notMem_markSlots_of_slotsIn? listed member)
  · obtain ⟨names, known, _⟩ := noted.known
    rw [slotsFor_noted once known]
    exact ⟨nofun, expected fun name _ slot found => noted.held _ (Node.mem_of_slot? found)⟩

/-- What a node of a noted kind refers to, the table of the file gives as its children. -/
theorem Node.Noted.exists_children {kinds : List (String × List String)}
    (once : (kinds.map Prod.fst).Nodup) {node : Node} (noted : node.Noted kinds) {child : NodeId}
    (member : child ∈ node.references) :
    ∃ key, (key, child) ∈ node.childrenIn
      ((ChildTable.registerAll {} kinds).slotsFor node.kind).1 := by
  obtain ⟨names, known, listed⟩ := noted.known
  obtain ⟨⟨name, slot⟩, held, inSlot⟩ := List.mem_flatMap.mp member
  obtain ⟨key, found⟩ := (noted.held _ held).exists_children name inSlot
  rw [slotsFor_noted once known]
  refine ⟨key, List.mem_flatMap.mpr ⟨name, listed _ held, ?_⟩⟩
  have stored : node.slot? name = some slot := Node.slot?_of_mem noted.unique held
  rw [stored]
  exact found

/-! ## Walking one run of nodes -/

namespace NodeRun

variable {kinds : List (String × List String)} {height : Nat} {tree : SyntaxTree}

theorem branching (nodeRun : NodeRun kinds 0 tree.nodes.toList {0} height) (rooted : tree.root = 0)
    : tree.Branching where
  rooted := rooted
  onward {id node child} found held := by
    have later := nodeRun.onward ((Array.getElem?_toList ..).trans found) held
    rwa [Nat.zero_add] at later
  existing id member := by
    have bounds := nodeRun.inside (Multiset.mem_add.mpr (.inl (Multiset.mem_coe.mpr member)))
    simpa [SyntaxTree.size] using bounds.2
  unique := Multiset.coe_nodup.mp (Multiset.nodup_of_le (Multiset.le_add_right _ _) nodeRun.unique)

theorem positive (nodeRun : NodeRun kinds 0 tree.nodes.toList {0} height) : 0 < tree.size := by
  have bounds := nodeRun.inside (Multiset.mem_add.mpr (.inr (Multiset.mem_singleton_self 0)))
  simpa [SyntaxTree.size] using bounds.2

end NodeRun

/-- A rank that falls along the references of a tree bounds the length of its chains. -/
theorem Walker.Reaches.depth_add_rank_le {walker : Walker}
    (unrepeated : ∀ kind, (walker.table.slotsFor kind).1.Nodup) {rank : Nat → Nat}
    (falls : Falls rank 0 walker.tree.nodes.toList) {path : Path} (reached : walker.Reaches path) :
    path.depth + rank path.node ≤ rank walker.tree.root := by
  induction reached with
  | root _ => exact Nat.le_of_eq (Nat.zero_add _)
  | @child path key id reached refers _ ih =>
      obtain ⟨_, node, found, named, held⟩ := refers
      have member := Walker.mem_references_of_mem_childrenOf unrepeated
        (Node.mem_childrenIn.mpr ⟨named, held⟩)
      have lower := falls ((Array.getElem?_toList ..).trans found) member
      rw [Nat.zero_add] at lower
      rw [Path.depth_below]
      change path.depth + 1 + rank id ≤ _
      omega

end Spellspan.Tree

namespace Spellspan.Parse

open Spellspan.Tree (NodeId Node Slot Walker NodeRun ChildTable standardSlots)

/-! ## A whole parse -/

def programNode (source : List Char) : Node :=
  { kind := "Program", span := ⟨0, Text.byteLength source⟩ }

/-- The table of a parse is one run of nodes: the program takes the phrases of its body and all
comments. -/
theorem convertProgram_nodeRun (source : List Char) {parse : ParseTree} (foreign : parse.Foreign) :
    Ensures (convertProgram source parse) {} fun program after =>
      program = 0 ∧ Tidy after.extraKinds ∧
        NodeRun after.extraKinds 0 after.builder.nodes.toList {0} (2 * maxDepth + 2) := by
  refine Ensures.bind (show Ensures (pushNode (programNode source)) {} fun id after =>
    id = 0 ∧ Grows {} after [programNode source] 0 0 from ⟨rfl, Grows.opening {} _⟩) ?_
  rintro _ opened ⟨rfl, grown⟩
  rw [fillProgram, bind_assoc]
  refine (Collects.foldlM (2 * maxDepth + 1) (Draft.declareList "body" []) opened
    fun child member draft state => ?_).bind
    fun draft collected ⟨added, same, grows⟩ => ?_
  · exact addChild_collects (convert_descends source maxDepth) draft "body"
      (foreign.namedChild (List.mem_filter.mp member).1) true
      state
  have loosened := (grown.raise (Nat.zero_le _)).trans grows
  refine (applyDraft_grows draft loosened).bind fun _ applied ⟨_, grown⟩ => ?_
  -- the comments are the last slot of the program, and all that is loose besides its body
  have listed := @Grows.change _ _ [] [] _ _ _ grown _ rfl
    (·.setSlot "comments" (.nodes applied.comments.toList))
  obtain ⟨nodes, comments, placed, commented, nodeRun⟩ := listed.nodeRun
  have standard : (draft.applied (programNode source)).Standard :=
    draft.standard_applied (standard_of_bare (show "Program" ∈ _ by decide) rfl)
  have takes : (((draft.applied (programNode source)).setSlot "comments"
    (.nodes applied.comments.toList)).references :
      Multiset NodeId) + 0 ≤ 0 + added + comments := by
    calc _ ≤ ((Slot.nodes applied.comments.toList).ids : Multiset NodeId) +
      (draft.applied (programNode source)).references := by
          rw [add_zero]
          exact Node.references_setSlot_le _ _ _
      _ ≤ ((Slot.nodes applied.comments.toList).ids : Multiset NodeId) +
        (draft.ids + (programNode source).references) :=
          add_le_add_right (draft.references_applied_le _) _
      _ = 0 + added + comments := by
          have all : applied.comments.toList = comments := commented
          rw [Slot.ids_nodes, all, same, Draft.ids_declareList, Draft.ids_nil]
          simp [programNode, Node.references, add_comm]
  have whole := nodeRun.cons (.inl (standard.setSlot (.inr (.inr ⟨applied.comments.toList, rfl⟩))))
    takes
  refine ⟨rfl, listed.tidy ⟨List.nodup_nil, by simp, by simp⟩, ?_⟩
  exact (show _ = _ :: nodes from placed) ▸ whole

/-- A table that is one run of nodes, not too high, is walked without a cycle and without a problem,
and what the walk visits refers only to what it visits. -/
theorem walk_of_nodeRun {kinds : List (String × List String)} {height : Nat} {walker : Walker}
    (table : walker.table = ChildTable.registerAll {} kinds) (tidy : Tidy kinds)
    (rooted : walker.tree.root = 0) (nodeRun : NodeRun kinds 0 walker.tree.nodes.toList {0} height)
    (shallow : height < walker.maxDepth) :
    walker.walk.cycle = none ∧ walker.walk.errors = [] ∧
      walker.Settled (· ∈ walker.walk.nodes) := by
  have branching := nodeRun.branching rooted
  have existing : (walker.tree.get? walker.tree.root).isSome :=
    SyntaxTree.get?_isSome_iff.mpr (rooted.symm ▸ nodeRun.positive)
  have unrepeated : ∀ kind, (walker.table.slotsFor kind).1.Nodup := by
    refine Walker.nodup_slotsFor fun entry member => tidy.slotsOnce entry ?_
    rw [table, Tree.registered_registerAll] at member
    simpa using member
  have fitting : ∀ {id node}, walker.tree.get? id = some node →
    (walker.table.slotsFor node.kind).2 ≠ .fallback ∧
      node.misfitsIn (walker.table.slotsFor node.kind).1 = [] := by
    intro id node found
    rw [table]
    exact (nodeRun.fitting node (Array.mem_toList_iff.mpr (Array.mem_of_getElem? found))).slotsFor
      tidy.once tidy.foreign
  have bounded : ∀ {path}, walker.Reaches path → path.depth < walker.maxDepth := by
    intro path reached
    obtain ⟨rank, falls, top⟩ := nodeRun.ranked
    have below := reached.depth_add_rank_le unrepeated falls
    have root := top 0 (Multiset.mem_singleton_self 0)
    rw [rooted] at below
    omega
  obtain ⟨acyclic, unshared, complete⟩ := Walker.walk_of_branching branching unrepeated
  obtain ⟨uncut, settled⟩ := walker.walk_settled_of_bounded existing bounded
  refine ⟨acyclic, List.eq_nil_iff_forall_not_mem.mpr fun error member => ?_, (settled acyclic).1⟩
  have justified := walker.walk_justified
    (fun found => (Walker.nodup_childrenOf branching unrepeated found).of_map) error member
  cases error with
  | malformedSlot id kind slot text =>
      obtain ⟨node, key, found, rfl, _, misfit⟩ := justified
      rw [(fitting found).2] at misfit
      cases misfit
  | unknownKind id kind =>
      obtain ⟨node, found, rfl, unknown⟩ := justified
      exact (fitting found).1 unknown
  | sharedNode id parent slot => exact unshared id parent slot member
  | danglingChild id parent slot => exact complete id parent slot member
  | tooDeep id depth => exact uncut id depth member
  | missingRoot id =>
      obtain ⟨rfl, missing⟩ := justified
      rw [missing] at existing
      cases existing

/-- The tree of a parse whose kinds are not spelled like standard ones is walked without a cycle and
without a problem. The kinds of the file are noted once, each slot once, and the walk visits all
that a node of such a kind refers to. -/
theorem load_walks_clean (filename : String) (source : List Char) {parse : ParseTree}
    (foreign : ∀ row ∈ parse.rows, row.kind ∉ standardSlots.map Prod.fst) :
    let file := load filename source parse
    let walk := Walker.walk { tree := file.tree, table := Select.fileTable {} file }
    walk.cycle = none ∧ walk.errors = [] ∧ (file.extraKinds.map Prod.fst).Nodup ∧
      (∀ entry ∈ file.extraKinds, entry.2.Nodup) ∧
      ∀ id ∈ walk.nodes, ∀ node, file.tree.get? id = some node →
        node.kind ∈ file.extraKinds.map Prod.fst →
        ∀ child ∈ node.references, child ∈ walk.nodes := by
  intro file walk
  let walker : Walker := { tree := file.tree, table := Select.fileTable {} file }
  obtain ⟨rooted, tidy, nodeRun⟩ : file.tree.root = 0 ∧ Tidy file.extraKinds ∧
    NodeRun file.extraKinds 0 file.tree.nodes.toList {0} (2 * maxDepth + 2) :=
      convertProgram_nodeRun source foreign
  obtain ⟨acyclic, clean, settled⟩ := @walk_of_nodeRun _ _ walker rfl tidy rooted nodeRun
    (show 2 * maxDepth + 2 < Tree.defaultMaxDepth by decide)
  refine ⟨acyclic, clean, tidy.once, tidy.slotsOnce, fun id visited node found kind child held =>
    settled.closed visited ?_⟩
  have noted : node.Noted file.extraKinds := by
    rcases nodeRun.fitting node (Array.mem_toList_iff.mpr (Array.mem_of_getElem? found))
      with standard | noted
    · obtain ⟨entry, listed, same⟩ := List.mem_map.mp kind
      exact absurd standard.known (same ▸ tidy.foreign entry listed)
    · exact noted
  obtain ⟨key, listed⟩ := noted.exists_children tidy.once held
  obtain ⟨named, holds⟩ := Node.mem_childrenIn.mp listed
  have existing := (nodeRun.branching rooted).existing child (SyntaxTree.mem_references found held)
  exact ⟨key, SyntaxTree.get?_isSome_iff.mpr existing, node, found, named, holds⟩

/-- A phrase of an unknown kind with two children in one field, a comment, a method, and an
attribute with a part too many. -/
def unusualParse : ParseTree :=
  .mk none "program" true ⟨0, 9⟩ [
    .mk none "type_alias" true ⟨0, 9⟩ [
      .mk (some "name") "type_identifier" true ⟨0, 1⟩ [],
      .mk none "comment" true ⟨1, 2⟩ [],
      .mk (some "name") "arguments" true ⟨2, 6⟩ [
        .mk none "method_definition" true ⟨3, 5⟩ [
          .mk (some "name") "property_identifier" true ⟨3, 4⟩ [],
          .mk (some "parameters") "formal_parameters" true ⟨4, 5⟩
            [.mk none "identifier" true ⟨4, 5⟩ []]]],
      .mk none "jsx_attribute" true ⟨6, 9⟩ [
        .mk none "property_identifier" true ⟨6, 7⟩ [], .mk none "string" true ⟨7, 8⟩ [],
          .mk none "number" true ⟨8, 9⟩ []]]]

theorem load_walks_clean_unusual :
    (∀ row ∈ unusualParse.rows, row.kind ∉ standardSlots.map Prod.fst) ∧
    let file := load "unusual.ts" "abcdefghi".toList unusualParse
    let walk := Walker.walk { tree := file.tree, table := Select.fileTable {} file }
    file.extraKinds = [("type_alias", ["name", "children"])] ∧ walk.cycle = none ∧
      walk.errors = [] ∧
      ∀ id ∈ walk.nodes, ∀ node, file.tree.get? id = some node →
        node.kind ∈ file.extraKinds.map Prod.fst →
        ∀ child ∈ node.references, child ∈ walk.nodes := by
  have foreign : ∀ row ∈ unusualParse.rows, row.kind ∉ standardSlots.map Prod.fst := by decide
  obtain ⟨acyclic, clean, _, _, visited⟩ := load_walks_clean "unusual.ts" "abcdefghi".toList foreign
  exact ⟨foreign, by decide +kernel, acyclic, clean, visited⟩

end Spellspan.Parse
