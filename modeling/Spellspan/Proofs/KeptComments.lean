import Mathlib
import Spellspan.Proofs.LiftedComments

/-!
The program of a file lists the comments of its parse: as many nodes as there are comments, over the
same stretches of text, in source order. This holds for comments in reach of the conversion. A
comment between the names of an imported namespace is lost.
-/
set_option autoImplicit false

namespace Spellspan.Tree.Node

theorem slot?_setSlot_self (node : Node) (name : String) (slot : Slot) :
    (node.setSlot name slot).slot? name = some slot := by
  have stored : ∀ slots, slotIn? name (setSlotIn name slot slots) = some slot := by
    intro slots
    induction slots with
    | nil => simp [setSlotIn, slotIn?]
    | cons entry rest ih =>
        rw [setSlotIn]
        split
        · simp [slotIn?]
        · next other => simpa [slotIn?, other] using ih
  exact stored node.slots

end Spellspan.Tree.Node

namespace Spellspan.Parse

open Spellspan.Tree (NodeId Node Slot Span)
open ParseTree (Clear HtmlInReach)

/-- The conversion of a parse meets all its comments. -/
structure CommentsInReach (parse : ParseTree) : Prop where
  other : ¬ isCommentKind parse.kind
  orderly : parse.Orderly
  html : ∀ part ∈ parse.programParts, HtmlInReach maxDepth part

instance (parse : ParseTree) : Decidable (CommentsInReach parse) :=
  decidable_of_iff
    (¬ isCommentKind parse.kind ∧ parse.Orderly ∧
      ∀ part ∈ parse.programParts, HtmlInReach maxDepth part)
    ⟨fun ⟨other, orderly, html⟩ => ⟨other, orderly, html⟩,
      fun ⟨other, orderly, html⟩ => ⟨other, orderly, html⟩⟩

/-- A program starts as a node without slots, takes its body and then all comments noted so far. -/
theorem run_convertProgram (source : List Char) (parse : ParseTree) :
    ∃ opened : Conversion, opened.spans.length = 1 ∧ opened.comments = #[] ∧
      (convertProgram source parse).run {} =
        (let filled := ((fillProgram (convert source maxDepth) parse 0).run opened).2
        (0, ((setSlot 0 "comments" (.nodes filled.comments.toList)).run filled).2)) :=
  ⟨((pushNode { kind := "Program", span := ⟨0, Text.byteLength source⟩ }).run {}).2, rfl, rfl, rfl⟩

theorem fillProgram_lifts (source : List Char) {parse : ParseTree} (reach : CommentsInReach parse)
    (program : NodeId) :
    Lifts (fillProgram (convert source maxDepth) parse program) parse.comments := by
  have inPhrases :
      (parse.namedChildren.filter fun child => child.kind != "hash_bang_line").flatMap
        ParseTree.comments = parse.comments := by
    rw [reach.orderly.comments_of_phrase reach.other]
    refine ParseTree.flatMap_filter_comments fun child member first => ?_
    have kind : child.kind = "hash_bang_line" := by simpa using first
    exact (reach.orderly.named member).comments_of_leaf (by rw [kind]; decide)
      (by rw [kind]; decide)
  rw [← inPhrases]
  refine (Lifts.foldlM ParseTree.comments _ fun child member draft => ?_).before
    fun draft => applyDraft_lifts draft program
  have orderly := reach.orderly.named (List.mem_filter.mp member).1
  refine addChild_lifts (convert_lifts source maxDepth) draft "body" orderly
    (fun item inside => ?_) true
  exact ⟨orderly.row (ParseTree.mem_rows_of_mem_items inside),
    reach.html item (List.mem_flatMap.mpr ⟨child, member, inside⟩)⟩

/-- The comments of a program are nodes over the comments of its parse, each once and in source
order. -/
theorem load_keeps_comments (filename : String) (source : List Char) {parse : ParseTree}
    (reach : CommentsInReach parse) :
    let tree := (load filename source parse).tree
    ∃ program ids, tree.get? tree.root = some program ∧
      program.slot? "comments" = some (.nodes ids) ∧ ids.Nodup ∧
      ids.map (fun id => (tree.get? id).map Node.span) =
        parse.comments.map fun row => some row.span := by
  intro tree
  obtain ⟨opened, length, uncommented, run⟩ := run_convertProgram source parse
  let filled := ((fillProgram (convert source maxDepth) parse 0).run opened).2
  let final := ((setSlot 0 "comments" (.nodes filled.comments.toList)).run filled).2
  have built : tree = final.builder.finish 0 := by
    show ((convertProgram source parse).run {}).2.builder.finish
      ((convertProgram source parse).run {}).1 = _
    rw [run]
  have lifted : Lifted opened filled parse.comments := fillProgram_lifts source reach 0 opened
  have listed : Lifted filled final [] := setSlot_lifts 0 _ _ filled
  obtain ⟨ids, noted, matched, ordered, _⟩ := (lifted.trans listed).comments
  obtain ⟨program, found⟩ : ∃ program, filled.builder.get? 0 = some program := by
    have nonempty := lifted.kept.length_le
    rw [length, Conversion.spans, List.length_map, Array.length_toList] at nonempty
    exact ⟨_, Array.getElem?_eq_getElem nonempty⟩
  refine ⟨program.setSlot "comments" (.nodes filled.comments.toList), ids, ?_, ?_, ?_, ?_⟩
  · rw [built]
    exact Tree.Builder.get?_setSlot_self found
  · have all : filled.comments.toList = ids := by
      rw [uncommented] at noted
      exact noted
    rw [Node.slot?_setSlot_self, all]
  · exact ordered.imp Nat.ne_of_lt
  · rw [List.append_nil] at matched
    rw [← matched, built]
    refine List.map_congr_left fun id _ => ?_
    rw [Conversion.spans, List.getElem?_map, Array.getElem?_toList]
    rfl

/-- Comments of both kinds: before all phrases, in the body of a function, beside a condition and
between the parts of a branch, and before the argument of a module call. -/
def scatteredComments : ParseTree :=
  .mk none "program" true ⟨0, 73⟩ [
    .mk none "html_comment" true ⟨0, 6⟩ [],
    .mk none "expression_statement" true ⟨7, 52⟩ [
      .mk none "call_expression" true ⟨7, 51⟩ [
        .mk (some "function") "identifier" true ⟨7, 8⟩ [],
        .mk (some "arguments") "arguments" true ⟨8, 51⟩ [
          .mk none "arrow_function" true ⟨9, 50⟩ [
            .mk (some "parameters") "formal_parameters" true ⟨9, 11⟩ [],
            .mk (some "body") "statement_block" true ⟨15, 50⟩ [
              .mk none "html_comment" true ⟨17, 23⟩ [],
              .mk none "if_statement" true ⟨24, 48⟩ [
                .mk (some "condition") "parenthesized_expression" true ⟨27, 38⟩ [
                  .mk none "identifier" true ⟨28, 29⟩ [],
                  .mk none "comment" true ⟨30, 37⟩ []],
                .mk none "comment" true ⟨39, 46⟩ [],
                .mk (some "consequence") "expression_statement" true ⟨47, 48⟩ [
                  .mk none "identifier" true ⟨47, 48⟩ []]]]]]]],
    .mk none "expression_statement" true ⟨53, 73⟩ [
      .mk none "call_expression" true ⟨53, 72⟩ [
        .mk (some "function") "import" true ⟨53, 59⟩ [],
        .mk (some "arguments") "arguments" true ⟨59, 72⟩ [
          .mk none "comment" true ⟨60, 67⟩ [],
          .mk none "string" true ⟨68, 71⟩ []]]]]

theorem load_keeps_comments_scattered :
    CommentsInReach scatteredComments ∧
    scatteredComments.comments.map ParseTree.span =
      [⟨0, 6⟩, ⟨17, 23⟩, ⟨30, 37⟩, ⟨39, 46⟩, ⟨60, 67⟩] ∧
    let tree := (load "scattered.js"
      "<!-- a\nf(() => \x7b <!-- b\nif (x /* c */) /* d */ y \x7d);\nimport(/* e */ 'm');".toList
      scatteredComments).tree
    ∃ program ids, tree.get? tree.root = some program ∧
      program.slot? "comments" = some (.nodes ids) ∧ ids.Nodup ∧
      ids.map (fun id => (tree.get? id).map Node.span) =
        scatteredComments.comments.map fun row => some row.span := by
  have reach : CommentsInReach scatteredComments := by decide +kernel
  exact ⟨reach, by decide +kernel, load_keeps_comments _ _ reach⟩

/-- The import of a namespace, with a comment on either side of its keyword. -/
def commentedNamespace : ParseTree :=
  .mk none "program" true ⟨0, 44⟩ [
    .mk none "import_statement" true ⟨0, 44⟩ [
      .mk none "import" false ⟨0, 6⟩ [],
      .mk none "import_clause" true ⟨7, 32⟩ [
        .mk none "namespace_import" true ⟨7, 32⟩ [
          .mk none "*" false ⟨7, 8⟩ [],
          .mk none "comment" true ⟨9, 17⟩ [],
          .mk none "as" false ⟨18, 20⟩ [],
          .mk none "comment" true ⟨21, 28⟩ [],
          .mk none "identifier" true ⟨29, 32⟩ []]],
      .mk none "from" false ⟨33, 37⟩ [],
      .mk (some "source") "string" true ⟨38, 43⟩ []]]

/-- The comments of an imported namespace are lost. -/
theorem load_loses_namespace_comments :
    commentedNamespace.comments.map ParseTree.span = [⟨9, 17⟩, ⟨21, 28⟩] ∧
    let tree := (load "namespace.js" "import * /* ns */ as /* x */ all from 'all';".toList
      commentedNamespace).tree
    ((tree.get? tree.root).bind (·.slot? "comments")).map Slot.ids = some [] := by
  decide +kernel

end Spellspan.Parse
