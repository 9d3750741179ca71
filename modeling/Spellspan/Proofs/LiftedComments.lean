import Mathlib
import Spellspan.Proofs.CommentRows
import Spellspan.Proofs.Lookup
import Spellspan.Proofs.References

/-!
No comment is lost and none is taken twice, where the comments of a parse stand in reach. A step
lifts some rows when it adds nodes over them, in their order, to the comments. What a loop lifts is
what its items lift, so a construct lifts the comments of its parts one after another, whether it
converts them or leaves them out.
-/
set_option autoImplicit false

namespace Spellspan.Parse

open Spellspan.Tree (NodeId NodeValue Node Slot Span)
open ParseTree (Clear Reached)

/-! ## What a step lifts -/

/-- The spans of all nodes. They never change. -/
def Conversion.spans (state : Conversion) : List Span :=
  state.builder.nodes.toList.map Node.span

/-- Nodes over some rows were added, in their order. -/
structure Laid (before after : List Span) (ids : List NodeId) (rows : List ParseTree) : Prop where
  kept : before <+: after
  matched : ids.map (fun id => after[id]?) = rows.map (fun row => some row.span)
  ordered : ids.Pairwise (· < ·)
  fresh : ∀ id ∈ ids, before.length ≤ id

namespace Laid

variable {before middle after : List Span} {ids later : List NodeId} {rows more : List ParseTree}

theorem nothing (kept : before <+: after) : Laid before after [] [] :=
  ⟨kept, rfl, .nil, by simp⟩

theorem lt_length (laid : Laid before after ids rows) : ∀ id ∈ ids, id < after.length := by
  intro id member
  have listed : after[id]? ∈ rows.map fun row => some row.span :=
    laid.matched ▸ List.mem_map_of_mem member
  obtain ⟨row, _, found⟩ := List.mem_map.mp listed
  exact (List.getElem?_eq_some_iff.mp found.symm).1

theorem trans (first : Laid before middle ids rows) (second : Laid middle after later more) :
    Laid before after (ids ++ later) (rows ++ more) := by
  refine ⟨first.kept.trans second.kept, ?_, ?_, ?_⟩
  · have still : ids.map (fun id => after[id]?) = ids.map fun id => middle[id]? :=
      List.map_congr_left fun id member => by
        obtain ⟨added, extended⟩ := second.kept
        rw [← extended, List.getElem?_append_left (first.lt_length id member)]
    rw [List.map_append, List.map_append, still, first.matched, second.matched]
  · refine List.pairwise_append.mpr ⟨first.ordered, second.ordered, fun id early other late => ?_⟩
    exact Nat.lt_of_lt_of_le (first.lt_length id early) (second.fresh other late)
  · intro id member
    rcases List.mem_append.mp member with early | late
    · exact first.fresh id early
    · exact Nat.le_trans first.kept.length_le (second.fresh id late)

theorem push {before after : Conversion} {node : Node} {row : ParseTree}
    (pushed : after.builder.nodes = before.builder.nodes.push node) (same : node.span = row.span) :
    Laid before.spans after.spans [before.builder.nodes.size] [row] := by
  have spans : after.spans = before.spans ++ [row.span] := by simp [Conversion.spans, pushed, same]
  have length : before.builder.nodes.size = before.spans.length := by simp [Conversion.spans]
  rw [spans, length]
  exact ⟨List.prefix_append _ _, by simp, List.pairwise_singleton _ _, by simp⟩

end Laid

/-- From one state to a later one: nodes over some rows were added and noted as comments. -/
structure Lifted (before after : Conversion) (rows : List ParseTree) : Prop where
  kept : before.spans <+: after.spans
  comments : ∃ ids : List NodeId, after.comments.toList = before.comments.toList ++ ids ∧
    ids.map (fun id => after.spans[id]?) = rows.map (fun row => some row.span) ∧
    ids.Pairwise (· < ·) ∧ ∀ id ∈ ids, before.spans.length ≤ id

namespace Lifted

variable {before middle after : Conversion} {rows more : List ParseTree}

theorem nothing (kept : before.spans <+: after.spans) (same : after.comments = before.comments) :
    Lifted before after [] where
  kept := kept
  comments := ⟨[], by rw [same, List.append_nil], rfl, .nil, by simp⟩

theorem trans (first : Lifted before middle rows) (second : Lifted middle after more) :
    Lifted before after (rows ++ more) := by
  obtain ⟨ids, noted, matched, ordered, fresh⟩ := first.comments
  obtain ⟨later, notedLater, matchedLater, orderedLater, freshLater⟩ := second.comments
  have both := Laid.trans ⟨first.kept, matched, ordered, fresh⟩ ⟨second.kept, matchedLater,
    orderedLater, freshLater⟩
  exact ⟨both.kept, ids ++
    later, by rw [notedLater, noted, List.append_assoc], both.matched, both.ordered, both.fresh⟩

end Lifted

/-- A step lifts some rows, from whatever state it starts. -/
def Lifts {α : Type} (step : Convert α) (rows : List ParseTree) : Prop :=
  ∀ before, Lifted before (step.run before).2 rows

namespace Lifts

variable {α β γ : Type} {rows more : List ParseTree}

theorem pure (value : α) : Lifts (Pure.pure value) [] :=
  fun _ => .nothing (List.prefix_refl _) rfl

theorem bind {step : Convert α} {next : α → Convert β} (first : Lifts step rows)
    (later : ∀ value, Lifts (next value) more) :
    Lifts (step >>= next) (rows ++ more) :=
  fun before => (first before).trans (later _ _)

theorem after {step : Convert α} {next : α → Convert β} (first : Lifts step [])
    (later : ∀ value, Lifts (next value) rows) :
    Lifts (step >>= next) rows :=
  first.bind later

theorem before {step : Convert α} {next : α → Convert β} (first : Lifts step rows)
    (later : ∀ value, Lifts (next value) []) :
    Lifts (step >>= next) rows :=
  List.append_nil rows ▸ first.bind later

theorem map {step : Convert α} {change : α → β} (lifts : Lifts step rows) :
    Lifts (change <$> step) rows :=
  lifts

theorem ite {condition : Prop} [Decidable condition] {first second : Convert α}
    (yes : condition → Lifts first rows) (no : ¬ condition → Lifts second rows)
    : Lifts (if condition then first else second) rows := by
  split
  · next holds => exact yes holds
  · next fails => exact no fails

/-- A loop lifts what its items lift, in their order. -/
theorem foldlM {items : List γ} {step : β → γ → Convert β} (each : γ → List ParseTree) (initial : β)
    (lifts : ∀ item ∈ items, ∀ value, Lifts (step value item) (each item)) :
    Lifts (items.foldlM step initial) (items.flatMap each) := by
  induction items generalizing initial with
  | nil => exact .pure initial
  | cons item rest ih =>
      rw [List.foldlM_cons, List.flatMap_cons]
      exact (lifts item List.mem_cons_self initial).bind fun value =>
        ih value fun item member => lifts item (List.mem_cons_of_mem _ member)

theorem forM {items : List γ} {step : γ → Convert Unit} (each : γ → List ParseTree)
    (lifts : ∀ item ∈ items, Lifts (step item) (each item)) :
    Lifts (items.forM step) (items.flatMap each) := by
  induction items with
  | nil => exact .pure ()
  | cons item rest ih =>
      rw [List.forM_eq_forM, List.forM_cons, List.flatMap_cons]
      exact (lifts item List.mem_cons_self).bind fun _ => ih fun item member =>
        lifts item (List.mem_cons_of_mem _ member)

end Lifts

/-! ## Steps that lift nothing, and comments -/

theorem Lifted.of_modify (state : Conversion) (id : NodeId) {change : Node → Node}
    (same : ∀ node, (change node).span = node.span) :
    Lifted state { state with builder := state.builder.modify id change } [] := by
  refine .nothing ?_ rfl
  have spans : (state.builder.modify id change).nodes.toList.map Node.span =
      state.builder.nodes.toList.map Node.span := by
    rw [Tree.Builder.modify, Array.toList_modify]
    refine List.ext_getElem? fun index => ?_
    rw [List.getElem?_map, List.getElem?_map, List.getElem?_modify]
    cases state.builder.nodes.toList[index]? with
    | none => rfl
    | some node =>
        by_cases here : id = index
        · simp [here, same]
        · simp [here]
  rw [Conversion.spans, Conversion.spans, spans]

theorem pushNode_lifts (node : Node) : Lifts (pushNode node) [] := fun before =>
  .nothing ⟨[node.span], show _ = (before.builder.nodes.push node).toList.map
    Node.span by simp [Conversion.spans]⟩ rfl

theorem pushKind_lifts (kind : String) (phrase : ParseTree) : Lifts (pushKind kind phrase) [] :=
  pushNode_lifts _

theorem setSlot_lifts (id : NodeId) (name : String) (slot : Slot) :
    Lifts (setSlot id name slot) [] := fun before =>
  .of_modify before id fun _ => rfl

theorem applyDraft_lifts (draft : Draft) (id : NodeId) : Lifts (applyDraft draft id) [] := by
  have applied : ∀ before : Conversion,
      Lifted before { before with builder := draft.apply id before.builder } [] := by
    induction draft with
    | nil => exact fun before => .nothing (List.prefix_refl _) rfl
    | cons entry rest ih => exact fun before =>
        (setSlot_lifts id entry.name (Draft.contents entry) before).trans (ih _)
  exact applied

theorem noteKind_lifts (kind : String) (slots : List String) :
    Lifts (noteKind kind slots) [] := fun _ =>
  .nothing (List.prefix_refl _) rfl

theorem markElementName_lifts (id : NodeId) : Lifts (markElementName id) [] := fun before =>
  .of_modify before id fun node => by split <;> rfl

theorem finishMapped_lifts (kind : String) (id : NodeId) : Lifts (finishMapped kind id) [] := by
  refine .ite (fun _ => setSlot_lifts _ _ _) fun _ =>
    .ite (fun _ => setSlot_lifts _ _ _) fun _ => ?_
  refine .ite (fun _ => ?_) fun _ => .pure ()
  refine Lifts.after (fun before => .nothing (List.prefix_refl _) rfl) fun state => ?_
  split
  · exact markElementName_lifts _
  · exact .pure ()

theorem liftComment_lifts (source : List Char) (phrase : ParseTree) :
    Lifts (liftComment source phrase) [phrase] := by
  intro before
  have laid : Laid before.spans ((liftComment source phrase).run before).2.spans
    [before.builder.nodes.size] [phrase] := .push rfl rfl
  exact ⟨laid.kept, [before.builder.nodes.size], Array.toList_push .., laid.matched,
    laid.ordered, laid.fresh⟩

/-! ## Constructs -/

section
variable (source : List Char)

theorem liftNestedComments_lifts {phrase : ParseTree} (searchable : phrase.Searchable) :
    Lifts (liftNestedComments source phrase) phrase.comments := by
  have found := ParseTree.nestedComments_eq [phrase] (by simpa using searchable)
  rw [List.flatMap_singleton] at found
  rw [liftNestedComments, found]
  have lifted := Lifts.forM (fun row => [row])
    fun (row : ParseTree) (_ : row ∈ phrase.comments) => liftComment_lifts source row
  rwa [List.flatMap_singleton'] at lifted

theorem truncate_lifts {phrase : ParseTree} (clear : Clear 0 phrase) :
    Lifts (truncate source phrase) phrase.comments := by
  refine .ite (fun comment => ?_) fun other => ?_
  · rw [clear.orderly.comments_of_comment comment]
    exact (liftComment_lifts source phrase).before fun _ => .pure none
  · rw [clear.orderly.comments_of_phrase other]
    have searchable := clear.searchable other
    refine (pushKind_lifts _ _).after fun id => (noteKind_lifts _ _).after fun _ => ?_
    refine (Lifts.forM ParseTree.comments fun child member => ?_).before fun _ => ?_
    · exact liftNestedComments_lifts source (searchable.named member)
    · exact Lifts.after (fun _ => .nothing (List.prefix_refl _) rfl) fun _ => .pure _

theorem convertShorthand_lifts (phrase : ParseTree) : Lifts (convertShorthand source phrase) [] :=
  (pushKind_lifts _ _).after fun _ => (pushNode_lifts _).after fun _ =>
    (pushNode_lifts _).after fun _ => (setSlot_lifts _ _ _).after fun _ =>
      (setSlot_lifts _ _ _).after fun _ => (setSlot_lifts _ _ _).after fun _ => .pure _

theorem convertLocal_lifts (kind : String) (phrase name : ParseTree) :
    Lifts (convertLocal source kind phrase name) [] :=
  (pushKind_lifts _ _).after fun _ => (pushNode_lifts _).after fun _ =>
    (setSlot_lifts _ _ _).after fun _ => .pure _

end

section Descent

variable {source : List Char} {descend : ParseTree → Convert (Option NodeId)} {levels : Nat}

/-- A construct that goes through its phrases lifts what it lifts for each of them. -/
theorem overChildren_lifts {β γ : Type} {phrase : ParseTree} (orderly : phrase.Orderly)
    (other : ¬ isCommentKind phrase.kind) {kind : String} {initial : β}
    {step : NodeId → β → ParseTree → Convert β} {finish : NodeId → β → Convert γ}
    (each : ∀ id, ∀ child ∈ phrase.namedChildren, ∀ value,
      Lifts (step id value child) child.comments)
    (last : ∀ id value, Lifts (finish id value) []) :
    Lifts (do
      let id ← pushKind kind phrase
      let value ← phrase.namedChildren.foldlM (step id) initial
      finish id value) phrase.comments := by
  rw [orderly.comments_of_phrase other]
  exact (pushKind_lifts _ _).after fun id =>
    (Lifts.foldlM ParseTree.comments initial (each id)).before (last id)

theorem leaveOut_lifts {child : ParseTree} (searchable : child.Searchable) (draft : Draft) :
    Lifts (leaveOut source draft child) child.comments :=
  (liftNestedComments_lifts source searchable).before fun _ => .pure draft

theorem keepComment_lifts {β : Type} {child : ParseTree} (orderly : child.Orderly)
    (comment : child.kind = "comment") (value : β) :
    Lifts (do liftComment source child; pure value) child.comments := by
  rw [orderly.comments_of_comment (by rw [comment]; decide)]
  exact (liftComment_lifts source child).before fun _ => .pure value

variable (descends : ∀ phrase, Clear levels phrase → Lifts (descend phrase) phrase.comments)
include descends

theorem addOne_lifts (draft : Draft) (name : String) {child : ParseTree}
    (clear : Clear levels child) (many : Bool) :
    Lifts (do
      match ← descend child with
      | some id => pure (Draft.push name id many draft)
      | none => pure draft) child.comments := by
  refine (descends child clear).before fun result => ?_
  cases result with
  | none => exact .pure _
  | some id => exact .pure _

theorem addChild_lifts (draft : Draft) (name : String) {child : ParseTree} (orderly : child.Orderly)
    (clear : ∀ item ∈ child.items, Clear levels item) (many : Bool) :
    Lifts (addChild descend draft name child many) child.comments := by
  rw [ParseTree.items] at clear
  refine .ite (fun wrapper => ?_) fun single => ?_
  · have other : ¬ isCommentKind child.kind := by
      have all : ∀ kind ∈ listWrappers, ¬ isCommentKind kind := by decide
      exact all child.kind (List.contains_iff_mem.mp wrapper)
    rw [if_pos wrapper] at clear
    rw [orderly.comments_of_phrase other]
    exact Lifts.foldlM ParseTree.comments _ fun item member draft =>
      addOne_lifts descends draft name (clear item member) true
  · rw [if_neg single] at clear
    exact addOne_lifts descends draft name (clear child List.mem_cons_self) many

theorem setConverted_lifts (id : NodeId) (slot : String) {child : Option ParseTree}
    (silent : ∀ part, child = some part → Clear levels part ∧ part.comments = []) :
    Lifts (setConverted descend id slot child) [] := by
  cases child with
  | none => exact .pure ()
  | some child =>
      obtain ⟨clear, none⟩ := silent child rfl
      refine Lifts.after (none ▸ descends child clear) fun result => ?_
      cases result with
      | none => exact .pure ()
      | some converted => exact setSlot_lifts _ _ _

theorem convertMapped_lifts {phrase : ParseTree} {mapping : Mapping}
    (reached : Reached levels phrase
      { converted := phrase.mappedParts mapping, searched := phrase.mappedRest mapping })
    (other : ¬ isCommentKind phrase.kind) :
    Lifts (convertMapped source descend phrase mapping) phrase.comments := by
  refine overChildren_lifts reached.orderly other (fun id child member draft => ?_)
    fun id draft => ?_
  · cases place : mapping.place? child.field with
    | some place =>
        refine addChild_lifts descends draft _ (reached.orderly.named member)
          (fun item inside => ?_) _
        exact reached.converted item (List.mem_flatMap.mpr ⟨child, member, by simpa [place]⟩)
    | none =>
        have left : child ∈ phrase.mappedRest mapping :=
          List.mem_filter.mpr ⟨member, by simp [place]⟩
        exact leaveOut_lifts (reached.searched child left) draft
  · exact (applyDraft_lifts _ _).after fun _ => (finishMapped_lifts _ _).after fun _ => .pure id

theorem convertUnmapped_lifts {phrase : ParseTree}
    (reached : Reached levels phrase
      { converted := phrase.namedChildren.flatMap ParseTree.items })
    (other : ¬ isCommentKind phrase.kind) :
    Lifts (convertUnmapped descend phrase) phrase.comments := by
  refine overChildren_lifts reached.orderly other (fun id child member draft => ?_)
    fun id draft => ?_
  · have clear : ∀ item ∈ child.items, Clear levels item := fun item inside =>
      reached.converted item (List.mem_flatMap.mpr ⟨child, member, inside⟩)
    split
    · exact addChild_lifts descends draft _ (reached.orderly.named member) clear _
    · exact addChild_lifts descends draft _ (reached.orderly.named member) clear _
  · exact (noteKind_lifts _ _).after fun _ => (applyDraft_lifts _ _).after fun _ => .pure id

theorem convertTransparent_lifts {phrase : ParseTree}
    (reached : Reached levels phrase { converted := phrase.transparentParts })
    (other : ¬ isCommentKind phrase.kind) :
    Lifts (convertTransparent source descend phrase) phrase.comments := by
  rw [ParseTree.transparentParts] at reached
  refine .ite (fun single => ?_) fun more => ?_
  · rw [if_pos single] at reached
    rw [reached.orderly.comments_of_phrase other]
    refine Lifts.foldlM ParseTree.comments _ fun child member converted => ?_
    refine .ite (fun comment => ?_) fun plain => ?_
    · exact keepComment_lifts (reached.orderly.named member) comment converted
    · exact descends child
        (reached.converted child (List.mem_filter.mpr ⟨member, bne_iff_ne.mpr plain⟩))
  · rw [if_neg more] at reached
    exact (convertUnmapped_lifts descends reached other).before fun _ => .pure _

theorem convertTemplate_lifts {phrase : ParseTree}
    (reached : Reached levels phrase { converted := phrase.templateParts })
    (template : phrase.kind = "template_string") :
    Lifts (convertTemplate source descend phrase) phrase.comments := by
  have other : ¬ isCommentKind phrase.kind := by rw [template]; decide
  have inSubstitutions : phrase.substitutions.flatMap ParseTree.comments =
      phrase.namedChildren.flatMap ParseTree.comments := by
    refine ParseTree.flatMap_filter_comments fun child member plain => ?_
    exact reached.orderly.self.template template child
      (ParseTree.mem_children_of_mem_namedChildren member) (by simpa using plain)
  rw [reached.orderly.comments_of_phrase other, ← inSubstitutions]
  refine (pushKind_lifts _ _).after fun id => ?_
  refine (Lifts.foldlM ParseTree.comments _ fun child member parts => ?_).before fun parts => ?_
  · obtain ⟨listed, substitution⟩ := List.mem_filter.mp member
    have plain : ¬ isCommentKind child.kind := by rw [beq_iff_eq.mp substitution]; decide
    rw [(reached.orderly.named listed).comments_of_phrase plain]
    refine (pushNode_lifts _).after fun _ => ?_
    refine (Lifts.foldlM ParseTree.comments _ fun inner inside expressions => ?_).before
      fun _ => .pure _
    have clear := reached.converted inner (List.mem_flatMap.mpr ⟨child, member, inside⟩)
    refine (descends inner clear).before fun result => ?_
    cases result with
    | none => exact .pure _
    | some expression => exact .pure _
  · exact (pushNode_lifts _).after fun _ => (setSlot_lifts _ _ _).after fun _ =>
      (setSlot_lifts _ _ _).after fun _ => .pure id

/-- The names of a specifier hold no comments, so converting one of them twice does no harm. -/
theorem convertSpecifier_lifts (kind nameSlot aliasSlot : String) {phrase : ParseTree}
    (searchable : phrase.Searchable) (specifier : phrase.kind ∈ ParseTree.specifierKinds) :
    Lifts (convertSpecifier descend kind nameSlot aliasSlot phrase) [] := by
  have silent : ∀ field part, phrase.childIn? field = some part →
      Clear levels part ∧ part.comments = [] := by
    intro field part found
    have inside := ParseTree.mem_children_of_childIn? found
    have below := searchable.row (ParseTree.rows_subset_of_mem inside part.self_mem_rows)
    have leaf := searchable.orderly.self.leaf (.inr (List.mem_append_right _ specifier))
    exact ⟨below.clear levels, leaf part inside⟩
  refine (pushKind_lifts _ _).after fun id => ?_
  refine (setConverted_lifts descends _ _ (silent "name")).after fun _ => ?_
  refine (setConverted_lifts descends _ _ fun part found => ?_).after fun _ => .pure id
  rcases Option.or_eq_some_iff.mp found with second | ⟨_, first⟩
  · exact silent "alias" part second
  · exact silent "name" part first

theorem addSpecifiers_lifts {kind : String} (listed : kind ∈ ParseTree.specifierKinds)
    (specifierKind nameSlot aliasSlot : String) (draft : Draft) {clause : ParseTree}
    (searchable : clause.Searchable) (other : ¬ isCommentKind clause.kind) :
    Lifts (addSpecifiers source descend kind specifierKind nameSlot aliasSlot draft clause)
      clause.comments := by
  rw [searchable.orderly.comments_of_phrase other]
  refine Lifts.foldlM ParseTree.comments _ fun child member draft => ?_
  have below := searchable.named member
  refine .ite (fun same => ?_) fun _ => leaveOut_lifts below draft
  have plain : ∀ kind ∈ ParseTree.specifierKinds, ¬ isCommentKind kind := by decide
  have specifier : child.kind ∈ ParseTree.specifierKinds := same ▸ listed
  rw [below.orderly.comments_of_leaf (plain _ specifier) (List.mem_append_right _ specifier)]
  exact (convertSpecifier_lifts descends _ _ _ below specifier).after fun _ => .pure _

theorem addClausePart_lifts (draft : Draft) {part : ParseTree} (searchable : part.Searchable) :
    Lifts (addClausePart source descend draft part) part.comments := by
  have silent : ∀ kind ∈ ParseTree.leafKinds ++ ParseTree.specifierKinds, part.kind = kind →
      part.comments = [] := by
    have plain : ∀ kind ∈ ParseTree.leafKinds ++ ParseTree.specifierKinds,
        ¬ isCommentKind kind := by decide
    rintro kind listed rfl
    exact searchable.orderly.comments_of_leaf (plain _ listed) listed
  refine .ite (fun name => ?_) fun _ => .ite (fun space => ?_) fun _ => ?_
  · rw [silent "identifier" (by decide) name]
    exact (convertLocal_lifts _ _ _ _).after fun _ => .pure _
  · rw [silent "namespace_import" (by decide) space]
    split
    · exact (convertLocal_lifts _ _ _ _).after fun _ => .pure _
    · exact .pure _
  · refine .ite (fun clause => ?_) fun _ => leaveOut_lifts searchable draft
    exact addSpecifiers_lifts descends (by decide) _ _ _ draft searchable (by rw [clause]; decide)

theorem convertImport_lifts {phrase : ParseTree}
    (reached : Reached levels phrase
      { converted := phrase.importParts, searched := phrase.importRest })
    (kind : phrase.kind = "import_statement") :
    Lifts (convertImport source descend phrase) phrase.comments := by
  have other : ¬ isCommentKind phrase.kind := by rw [kind]; decide
  refine overChildren_lifts reached.orderly other (fun id child member draft => ?_)
    fun id draft => ?_
  · have orderly := reached.orderly.named member
    have searched : child.kind = "import_clause" ∨ child.field ≠ some "source" →
        child.Searchable := fun left =>
      reached.searched child (List.mem_filter.mpr ⟨member, by simpa using left⟩)
    refine .ite (fun comment => keepComment_lifts orderly comment draft) fun plain => ?_
    refine .ite (fun clause => ?_) fun noClause => ?_
    · rw [orderly.comments_of_phrase (by rw [clause]; decide)]
      exact Lifts.foldlM ParseTree.comments _ fun part inside draft =>
        addClausePart_lifts descends draft ((searched (.inl clause)).named inside)
    refine .ite (fun inSource => ?_) fun elsewhere =>
      leaveOut_lifts (searched (.inr elsewhere)) draft
    refine addChild_lifts descends draft _ orderly (fun item inside => ?_) _
    refine reached.converted item (List.mem_flatMap.mpr ⟨child, member, ?_⟩)
    rwa [if_neg plain, if_neg noClause, if_pos inSource]
  · exact (applyDraft_lifts _ _).after fun _ => .pure id

theorem convertExport_lifts {phrase : ParseTree}
    (reached : Reached levels phrase
      { converted := phrase.exportParts, searched := phrase.exportRest })
    (kind : phrase.kind = "export_statement") :
    Lifts (convertExport source descend phrase) phrase.comments := by
  have other : ¬ isCommentKind phrase.kind := by rw [kind]; decide
  refine overChildren_lifts reached.orderly other (fun id child member draft => ?_)
    fun id draft => ?_
  · have orderly := reached.orderly.named member
    have converted := fun item inside =>
      reached.converted item (List.mem_flatMap.mpr ⟨child, member, inside⟩)
    have searched := fun left => reached.searched child (List.mem_filter.mpr ⟨member, left⟩)
    refine .ite (fun comment => keepComment_lifts orderly comment draft) fun plain => ?_
    rw [if_neg plain] at converted
    refine .ite (fun clause => ?_) fun noClause => ?_
    · exact addSpecifiers_lifts descends (by decide) _ _ _ _ (searched (by simp [clause]))
        (by rw [clause]; decide)
    rw [if_neg noClause] at converted
    refine .ite (fun space => ?_) fun noSpace => ?_
    · rw [if_pos space] at converted
      rw [orderly.comments_of_phrase (by rw [space]; decide)]
      refine Lifts.foldlM ParseTree.comments _ fun name inside draft => ?_
      exact addChild_lifts descends draft _ (orderly.named inside)
        (fun item below => converted item (List.mem_flatMap.mpr ⟨name, inside, below⟩)) _
    rw [if_neg noSpace] at converted
    refine .ite (fun inSource => ?_) fun noSource => ?_
    · rw [if_pos inSource] at converted
      exact addChild_lifts descends draft _ orderly converted _
    rw [if_neg noSource] at converted
    refine .ite (fun declared => ?_) fun elsewhere => ?_
    · rw [if_pos declared] at converted
      exact addChild_lifts descends draft _ orderly converted _
    · exact leaveOut_lifts (searched (by simp_all)) draft
  · exact (applyDraft_lifts _ _).after fun _ => .pure id

/-- The arguments of a module call, from some position on: the first two are converted and the
others left out. -/
theorem moduleArguments_lifts (arguments : List ParseTree) (draft : Draft) (position : Nat)
    (orderly : ∀ part ∈ arguments, part.Orderly)
    (converted : ∀ part ∈ (arguments.filter fun part => part.kind != "comment").take (2 - position),
      ∀ item ∈ part.items, Clear levels item)
    (searched : ∀ part ∈ (arguments.filter fun part => part.kind != "comment").drop (2 - position),
      part.Searchable) :
    Lifts (arguments.foldlM (fun (draft, position) child =>
      if child.kind = "comment" then do
        liftComment source child
        pure (draft, position)
      else do
        let draft ←
          if position = 0 then addChild descend draft "source" child false
          else if position = 1 then addChild descend draft "options" child false
          else leaveOut source draft child
        pure (draft, position + 1)) (draft, position)) (arguments.flatMap ParseTree.comments) := by
  induction arguments generalizing draft position with
  | nil => exact .pure _
  | cons child rest ih =>
      have later := fun draft position =>
        ih draft position fun part member => orderly part (List.mem_cons_of_mem _ member)
      have first := orderly child List.mem_cons_self
      rw [List.foldlM_cons, List.flatMap_cons]
      by_cases comment : child.kind = "comment"
      · simp only [comment, if_true, bind_assoc, pure_bind]
        rw [List.filter_cons_of_neg (by simp [comment])] at converted searched
        rw [first.comments_of_comment (by rw [comment]; decide)]
        exact (liftComment_lifts source child).bind fun _ => later draft position converted searched
      · simp only [comment, if_false]
        rw [List.filter_cons_of_pos (by simpa using comment)] at converted searched
        -- The position after the step is known only once the cases are told apart.
        match position with
        | 0 =>
            simp only [if_true, bind_assoc, pure_bind]
            have clear := converted child List.mem_cons_self
            exact (addChild_lifts descends draft _ first clear _).bind fun draft =>
              later draft 1 (fun part member => converted part (List.mem_cons_of_mem _ member))
                searched
        | 1 =>
            simp only [Nat.one_ne_zero, if_true, if_false, bind_assoc, pure_bind]
            have clear := converted child List.mem_cons_self
            exact (addChild_lifts descends draft _ first clear _).bind fun draft =>
              later draft 2 (by simp) searched
        | position + 2 =>
            simp only [show position + 2 ≠ 0 by omega, show position + 2 ≠ 1 by omega, if_false,
              bind_assoc, pure_bind]
            rw [Nat.sub_eq_zero_of_le (by omega), List.drop_zero] at searched
            have none : 2 - (position + 3) = 0 := by omega
            refine (leaveOut_lifts (searched child List.mem_cons_self) draft).bind fun draft =>
              later draft (position + 3) ?_ ?_
            · simp [none]
            · rw [none, List.drop_zero]
              exact fun part member => searched part (List.mem_cons_of_mem _ member)

theorem convertModuleCall_lifts {phrase : ParseTree}
    (reached : Reached levels phrase
      { converted := phrase.moduleParts, searched := phrase.moduleArguments.drop 2 })
    (call : phrase.kind = "call_expression")
    (loads : (phrase.childIn? "function").map ParseTree.kind = some "import") :
    Lifts (convertModuleCall source descend phrase) phrase.comments := by
  rw [reached.orderly.comments_of_moduleCall call loads]
  refine (pushKind_lifts _ _).after fun id => ?_
  refine (moduleArguments_lifts descends _ _ _ ?_ ?_ ?_).before fun acc =>
    (applyDraft_lifts _ _).after fun _ => .pure id
  · intro part member
    cases found : phrase.childIn? "arguments" with
    | none => simp [found] at member
    | some arguments =>
        rw [found] at member
        exact (reached.orderly.child (ParseTree.mem_children_of_childIn? found)).named member
  · exact fun part taken item inside =>
      reached.converted item (List.mem_flatMap.mpr ⟨part, taken, inside⟩)
  · exact reached.searched

theorem convertCall_lifts {phrase : ParseTree}
    (reached : Reached levels phrase
      { converted := phrase.fieldParts ["function", "arguments"]
        searched := phrase.fieldRest ["function", "arguments"] })
    (call : phrase.kind = "call_expression")
    (plain : (phrase.childIn? "function").map ParseTree.kind ≠ some "import") :
    Lifts (convertCall source descend phrase) phrase.comments := by
  have other : ¬ isCommentKind phrase.kind := by rw [call]; decide
  rw [convertCall, if_neg plain]
  refine overChildren_lifts reached.orderly other (fun id child member draft => ?_)
    fun id draft => ?_
  · have orderly := reached.orderly.named member
    obtain ⟨taken, left⟩ := reached.inField member
    refine .ite (fun callee => ?_) fun noCallee => .ite (fun arguments => ?_) fun noArguments => ?_
    · exact addChild_lifts descends draft _ orderly (taken (by simp [callee])) _
    · have clear := taken (by simp [arguments])
      exact .ite (fun _ => addChild_lifts descends draft _ orderly clear _)
        fun _ => addChild_lifts descends draft _ orderly clear _
    · exact leaveOut_lifts (left (by cases field : child.field <;> simp_all)) draft
  · exact (applyDraft_lifts _ _).after fun _ => .pure id

theorem convertMethod_lifts {phrase : ParseTree}
    (reached : Reached levels phrase
      { converted := phrase.fieldParts ["name", "parameters", "body"]
        searched := phrase.fieldRest ["name", "parameters", "body"] })
    (kind : phrase.kind = "method_definition") :
    Lifts (convertMethod source descend phrase) phrase.comments := by
  have other : ¬ isCommentKind phrase.kind := by rw [kind]; decide
  rw [reached.orderly.comments_of_phrase other]
  refine (pushKind_lifts _ _).after fun id => (pushKind_lifts _ _).after fun function => ?_
  refine (Lifts.foldlM ParseTree.comments _ fun child member drafts => ?_).before fun drafts => ?_
  · obtain ⟨draft, inner⟩ := drafts
    have orderly := reached.orderly.named member
    obtain ⟨taken, left⟩ := reached.inField member
    refine .ite (fun name => ?_) fun noName => .ite (fun parameters => ?_) fun noParameters =>
      .ite (fun body => ?_) fun noBody => ?_
    · have clear := taken (by simp [name])
      exact (addChild_lifts descends draft _ orderly clear _).before fun _ => .pure _
    · have clear := taken (by simp [parameters])
      exact (addChild_lifts descends inner _ orderly clear _).before fun _ => .pure _
    · have clear := taken (by simp [body])
      exact (addChild_lifts descends inner _ orderly clear _).before fun _ => .pure _
    · have searchable := left (by cases field : child.field <;> simp_all)
      exact (liftNestedComments_lifts source searchable).before fun _ => .pure _
  · exact (applyDraft_lifts _ _).after fun _ => (applyDraft_lifts _ _).after fun _ => .pure id

theorem convertAttribute_lifts {phrase : ParseTree}
    (reached : Reached levels phrase
      { converted := phrase.namedChildren.filter fun child => child.kind != "comment" })
    (other : ¬ isCommentKind phrase.kind) :
    Lifts (convertAttribute source descend phrase) phrase.comments := by
  refine overChildren_lifts reached.orderly other (fun id child member position => ?_)
    fun id _ => .pure id
  refine .ite (fun comment => ?_) fun plain => ?_
  · exact keepComment_lifts (reached.orderly.named member) comment _
  · have clear := reached.converted child (List.mem_filter.mpr ⟨member, bne_iff_ne.mpr plain⟩)
    refine (descends child clear).before fun result => ?_
    split
    · exact (markElementName_lifts _).after fun _ => (setSlot_lifts _ _ _).after fun _ => .pure _
    · exact (setSlot_lifts _ _ _).after fun _ => .pure _
    · exact .pure _

/-! ## Phrases -/

theorem Construct.lifts {phrase : ParseTree} {handling : ParseTree.Handling}
    {step : (ParseTree → Convert (Option NodeId)) → Convert (Option NodeId)}
    (construct : Construct source phrase step handling) (orderly : phrase.Orderly)
    (reached : ¬ isCommentKind phrase.kind → Reached levels phrase handling) :
    Lifts (step descend) phrase.comments := by
  have plain : ∀ kind ∈ ParseTree.leafKinds, ¬ isCommentKind kind := by decide
  have silent : phrase.kind ∈ ParseTree.leafKinds → phrase.comments = [] := fun listed =>
    orderly.comments_of_leaf (plain _ listed) (List.mem_append_left _ listed)
  cases construct with
  | comment comment =>
      rw [orderly.comments_of_comment comment]
      exact (liftComment_lifts source phrase).before fun _ => .pure none
  | firstLine kind =>
      rw [silent (by rw [kind]; decide)]
      exact .pure none
  | leaf listed =>
      rw [silent listed]
      exact (pushNode_lifts _).map
  | shorthand listed =>
      rw [silent listed]
      exact (convertShorthand_lifts source phrase).map
  | template kind =>
      exact (convertTemplate_lifts descends (reached (by rw [kind]; decide)) kind).map
  | imports kind => exact (convertImport_lifts descends (reached (by rw [kind]; decide)) kind).map
  | exports kind => exact (convertExport_lifts descends (reached (by rw [kind]; decide)) kind).map
  | moduleCall kind loads =>
      simp only [convertCall, if_pos loads]
      exact (convertModuleCall_lifts descends (reached (by rw [kind]; decide)) kind loads).map
  | call kind plain =>
      exact (convertCall_lifts descends (reached (by rw [kind]; decide)) kind plain).map
  | method kind => exact (convertMethod_lifts descends (reached (by rw [kind]; decide)) kind).map
  | elementAttribute kind =>
      have other : ¬ isCommentKind phrase.kind := by rw [kind]; decide
      exact (convertAttribute_lifts descends (reached other) other).map
  | transparent other => exact convertTransparent_lifts descends (reached other) other
  | mapped other => exact (convertMapped_lifts descends (reached other) other).map
  | unmapped other => exact (convertUnmapped_lifts descends (reached other) other).map

theorem convertPhrase_lifts {phrase : ParseTree} (clear : Clear (levels + 1) phrase) :
    Lifts (convertPhrase source descend phrase) phrase.comments :=
  (convertPhrase_construct source phrase).lifts descends clear.orderly clear.reached

end Descent

theorem counted_lifts {step : Convert (Option NodeId)} {rows : List ParseTree}
    (lifts : Lifts step rows) : Lifts (counted step) rows :=
  Lifts.after (fun _ => .nothing (List.prefix_refl _) rfl) fun _ => lifts.before fun _ =>
    Lifts.after (fun _ => .nothing (List.prefix_refl _) rfl) fun _ => .pure _

/-- A phrase lifts its comments, at whatever level. -/
theorem convert_lifts (source : List Char) (levels : Nat) :
    ∀ phrase, Clear levels phrase → Lifts (convert source levels phrase) phrase.comments := by
  induction levels with
  | zero => exact fun phrase clear => truncate_lifts source clear
  | succ levels ih => exact fun phrase clear => counted_lifts (convertPhrase_lifts ih clear)

end Spellspan.Parse
