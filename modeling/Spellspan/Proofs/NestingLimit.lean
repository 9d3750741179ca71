import Mathlib
import Spellspan.Proofs.ConvertedHeights
import Spellspan.Proofs.CutPhrases

/-!
The limit on nested phrases holds for every parse. Phrases are counted, and no more of them are
converted at a time than the limit allows. What lies deeper is cut off: each such phrase has a node
without slots, and one problem of the file names it.
-/
set_option autoImplicit false

namespace Spellspan.SyntaxTree

open Spellspan.Tree (NodeId Builder)

/-- A node at the end of a chain of references from the root, with the length of the chain. -/
inductive ReachedAt (tree : SyntaxTree) : Nat → NodeId → Prop where
  | root : ReachedAt tree 0 tree.root
  | step {depth : Nat} {id other : NodeId} {node : Tree.Node} (reached : ReachedAt tree depth id)
      (found : tree.get? id = some node) (refers : other ∈ node.references) :
      ReachedAt tree (depth + 1) other

theorem ReachedAt.depth_le {builder : Builder} {offset root id : NodeId} {height depth : Nat}
    (shallow : builder.Shallow offset height root)
    (reached : (builder.finish root).ReachedAt depth id) : depth ≤ height := by
  -- what is left of the height after so many references
  have left : ∃ rest, depth + rest = height ∧ builder.Shallow offset rest id := by
    induction reached with
    | root => exact ⟨height, Nat.zero_add height, shallow⟩
    | step _ found refers ih =>
        obtain ⟨rest, total, below⟩ := ih
        cases below with
        | bare _ same none =>
            cases found.symm.trans same
            rw [none] at refers
            cases refers
        | above _ same below =>
            cases found.symm.trans same
            exact ⟨_, by omega, below _ refers⟩
  obtain ⟨rest, total, _⟩ := left
  omega

end Spellspan.SyntaxTree

namespace Spellspan.Parse

open Spellspan.Tree (NodeId Node)

/-- The nodes over phrases that were cut off have their spans and no slots. -/
theorem map_cut {after : Conversion} {ids : List NodeId} {rows : List ParseTree}
    (matched : ids.map (fun id => after.spans[id]?) = rows.map fun row => some row.span)
    (bare : ∀ id ∈ ids, after.builder.Bare 0 id) :
    ids.map (fun id => (after.builder.get? id).map fun node => (node.span, node.slots)) =
      rows.map fun row => some (row.span, []) := by
  have paired : ids.map (fun id => (after.builder.get? id).map fun node =>
    (node.span, node.slots)) =
      ids.map fun id => (after.spans[id]?).map fun span => (span, []) := by
    refine List.map_congr_left fun id member => ?_
    obtain ⟨_, node, found, slots⟩ := bare id member
    have span : after.spans[id]? = some node.span := by
      rw [Conversion.spans, List.getElem?_map, Array.getElem?_toList]
      exact congrArg (Option.map Node.span) found
    rw [found, span, Option.map_some, Option.map_some, slots]
  calc _ = (ids.map fun id => after.spans[id]?).map (Option.map fun span =>
    (span, [])) := by rw [paired, List.map_map]; rfl
    _ = _ := by rw [matched, List.map_map]; rfl

/-- However deep a parse is, no more phrases than the limit are converted inside one another, and
all are done in the end. There is one diagnostic for every phrase that lies too deep, and none where
nothing does. No chain of references is longer than twice the limit and one more. -/
theorem nesting_is_limited (filename : String) (source : List Char) (parse : ParseTree) :
    let file := load filename source parse
    (∀ beyond further,
      (convertProgramBy source (convertByCount source beyond (maxDepth + further)) parse).run {} =
      (convertProgram source parse).run {}) ∧
    ((convertProgram source parse).run {}).2.depth = 0 ∧
    (∃ ids : List NodeId,
      file.diagnostics = ids.map (fun id => Diagnostic.ofTraversal (.tooDeep id 512)) ∧
      ids.Nodup ∧
      ids.map (fun id => (file.tree.get? id).map fun node => (node.span, node.slots)) =
        parse.cutPhrases.map fun row => some (row.span, [])) ∧
    ((∀ levels row, parse.LiesBelow levels row → levels ≤ 512) → file.diagnostics = []) ∧
    ∀ depth id, file.tree.ReachedAt depth id → depth ≤ 2 * 512 + 1 := by
  intro file
  have built := convertProgram_builds source parse
  obtain ⟨depth, ids, noted, laid⟩ := convertProgram_cuts source parse
  have diagnostics : file.diagnostics = ids.map fun id =>
      Diagnostic.ofTraversal (.tooDeep id 512) := by
    show (((convertProgram source parse).run {}).2.problems.toList).map Diagnostic.ofTraversal = _
    rw [noted, List.map_append, List.map_map]
    rfl
  have bare : ∀ id ∈ ids, ((convertProgram source parse).run {}).2.builder.Bare 0 id := by
    intro id member
    have problem : .tooDeep id maxDepth ∈ ((convertProgram source parse).run {}).2.problems := by
      rw [← Array.mem_toList_iff, noted]
      exact List.mem_append_right _ (List.mem_map_of_mem member)
    exact (built.bare id (.inr ⟨maxDepth, problem⟩)).resolve_left (not_setsAside_start id)
  refine ⟨fun beyond further => ?_, depth, ⟨ids, diagnostics, ?_, map_cut laid.matched bare⟩,
    fun near => ?_, fun depth id reached => ?_⟩
  · exact (convertProgram_agrees source parse beyond (Nat.le_add_right _ _) {} rfl).1
  · exact laid.ordered.imp Nat.ne_of_lt
  · have none : parse.cutPhrases = [] := List.eq_nil_iff_forall_not_mem.mpr fun row cut => by
      obtain ⟨levels, deep, lies⟩ := ParseTree.liesBelow_of_mem_cutPhrases cut
      exact absurd (near levels row lies) (Nat.not_le_of_lt deep)
    have empty : ids = [] := by
      have matched := laid.matched
      rw [none] at matched
      exact List.map_eq_nil_iff.mp matched
    rw [diagnostics, empty, List.map_nil]
  · exact SyntaxTree.ReachedAt.depth_le (built.shallow _ (Multiset.mem_singleton_self _)) reached

def nestedTemplates : Nat → ParseTree
  | 0 => .mk none "template_string" true ⟨0, 2⟩ []
  | levels + 1 => .mk none "template_string" true ⟨0, 2⟩
      [.mk none "template_substitution" true ⟨0, 2⟩ [nestedTemplates levels]]

example : (ParseTree.mk none "program" true ⟨0, 2⟩ [nestedTemplates 512]).cutPhrases.map
    ParseTree.kind = ["template_string"] := by
  decide +kernel

end Spellspan.Parse
