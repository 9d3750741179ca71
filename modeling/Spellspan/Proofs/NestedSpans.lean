import Mathlib
import Spellspan.Proofs.ConversionSteps
import Spellspan.Proofs.LiftedComments

/-!
A converted node covers what it refers to, where the rows of a parse cover what they consist of. The
node of a phrase takes nodes that lie inside the phrase, whether they come from its children, from
below a wrapper that is left out, or are made for it without a row of their own. Comments leave
their phrase and lie inside the program.
-/
set_option autoImplicit false

namespace Spellspan

open Spellspan.Tree (Span)

namespace Tree.Span

variable {outer middle inner : Span}

theorem contains_iff :
    outer.contains inner ↔ outer.start ≤ inner.start ∧ inner.start ≤ inner.stop ∧
      inner.stop ≤ outer.stop := by
  simp only [contains, Bool.and_eq_true, decide_eq_true_eq]
  omega

theorem contains_trans (first : outer.contains middle) (second : middle.contains inner) :
    outer.contains inner := by
  rw [contains_iff] at first second ⊢
  omega

theorem contains_self (inside : outer.contains inner) : inner.contains inner := by
  rw [contains_iff] at inside ⊢
  omega

end Tree.Span

namespace ParseTree

variable {whole outer : Span} {phrase part : ParseTree}

/-- Every row of a parse lies inside a text, and what it consists of lies inside the row. -/
def Enclosed (whole : Span) (parse : ParseTree) : Prop :=
  ∀ row ∈ parse.rows, whole.contains row.span ∧ ∀ child ∈ row.children, row.span.contains child.span

/-- A phrase of such a parse inside a stretch of the text. -/
structure Within (whole outer : Span) (phrase : ParseTree) : Prop where
  enclosed : phrase.Enclosed whole
  inside : outer.contains phrase.span

theorem Enclosed.inside (enclosed : phrase.Enclosed whole) : whole.contains phrase.span :=
  (enclosed phrase phrase.self_mem_rows).1

theorem Enclosed.within (enclosed : phrase.Enclosed whole) : phrase.Within whole phrase.span :=
  ⟨enclosed, Span.contains_self enclosed.inside⟩

theorem Within.child (within : phrase.Within whole outer) (member : part ∈ phrase.children) :
    part.Within whole outer where
  enclosed row below := within.enclosed row (rows_subset_of_mem member below)
  inside := Span.contains_trans within.inside
    ((within.enclosed phrase phrase.self_mem_rows).2 part member)

theorem Within.namedChild (within : phrase.Within whole outer)
    (member : part ∈ phrase.namedChildren) : part.Within whole outer :=
  within.child (mem_children_of_mem_namedChildren member)

theorem Within.childIn? (within : phrase.Within whole outer) {field : String}
    (found : phrase.childIn? field = some part) :
    part.Within whole outer :=
  within.child (mem_children_of_childIn? found)

end ParseTree

namespace Parse

open Spellspan.Tree (NodeId NodeValue Node Slot)
open ParseTree (mem_children_of_mem_namedChildren)

/-! ## Nodes inside a stretch of the text -/

def Conversion.Holds (state : Conversion) (outer : Span) (id : NodeId) : Prop :=
  ∃ span, state.spans[id]? = some span ∧ outer.contains span

/-- What the nodes refer to lies inside them, and the comments lie inside the text. -/
structure Nested (whole : Span) (state : Conversion) : Prop where
  references : ∀ {id node}, state.builder.get? id = some node →
    ∀ child ∈ node.references, state.Holds node.span child
  comments : ∀ id ∈ state.comments, state.Holds whole id

section
variable {state after : Conversion} {whole outer inner span : Span} {id : NodeId} {node : Node}

theorem spans_getElem? (state : Conversion) (id : NodeId) :
    state.spans[id]? = (state.builder.get? id).map Node.span := by
  rw [Conversion.spans, List.getElem?_map, Array.getElem?_toList, Tree.Builder.get?]

theorem span_of_prefix (kept : state.spans <+: after.spans) (found : state.spans[id]? = some span) :
    after.spans[id]? = some span := by
  obtain ⟨added, extended⟩ := kept
  rw [← extended, List.getElem?_append_left (List.getElem?_eq_some_iff.mp found).1, found]

theorem Conversion.Holds.mono (holds : state.Holds outer id) (kept : state.spans <+: after.spans) :
    after.Holds outer id := by
  obtain ⟨span, found, inside⟩ := holds
  exact ⟨span, span_of_prefix kept found, inside⟩

theorem Conversion.Holds.widen (holds : state.Holds inner id) (inside : outer.contains inner) :
    state.Holds outer id := by
  obtain ⟨span, found, deeper⟩ := holds
  exact ⟨span, found, Span.contains_trans inside deeper⟩

theorem spans_push (state : Conversion) (node : Node) :
    (state.push node).spans = state.spans ++ [node.span] := by
  simp [Conversion.spans, Conversion.push, Tree.Builder.push]

theorem prefix_spans_push (state : Conversion) (node : Node) :
    state.spans <+: (state.push node).spans :=
  ⟨[node.span], (spans_push state node).symm⟩

theorem span_push_self (state : Conversion) (node : Node) :
    (state.push node).spans[state.builder.size]? = some node.span := by
  rw [spans_getElem?]
  exact congrArg (Option.map Node.span) Tree.Builder.get?_push_self

namespace Nested

theorem push (nested : Nested whole state) (bare : node.slots = []) :
    Nested whole (state.push node) where
  references {id other} found child member := by
    have kept := prefix_spans_push state node
    rcases Nat.lt_or_ge id state.builder.size with earlier | later
    · have same : state.builder.get? id = some other :=
        (Tree.Builder.get?_push_of_lt earlier).symm.trans found
      exact (nested.references same child member).mono kept
    · have bound : id < state.builder.size + 1 := by
        simpa [Conversion.push] using Tree.Builder.lt_size_of_get? found
      obtain rfl : id = state.builder.size := Nat.le_antisymm (Nat.le_of_lt_succ bound) later
      obtain rfl : node = other := Option.some.inj (Tree.Builder.get?_push_self.symm.trans found)
      rw [Node.references, bare, List.flatMap_nil] at member
      cases member
  comments id member := (nested.comments id member).mono (prefix_spans_push state node)

/-- A node changes, but keeps its span, and takes only what lies inside it. -/
theorem modify (nested : Nested whole state) {change : Node → Node}
    (same : ∀ node, (change node).span = node.span)
    (takes : ∀ node, state.builder.get? id = some node →
      ∀ child ∈ (change node).references, child ∈ node.references ∨ state.Holds node.span child) :
    Nested whole { state with builder := state.builder.modify id change } := by
  have kept := (Lifted.of_modify state id same).kept
  refine ⟨fun {other changed} found child member => ?_, fun comment member =>
    (nested.comments comment member).mono kept⟩
  simp only [Tree.Builder.modify, Tree.Builder.get?, Array.getElem?_modify] at found
  split at found
  · next here =>
      obtain ⟨node, there, rfl⟩ := Option.map_eq_some_iff.mp found
      rw [same]
      subst here
      rcases takes node there child member with earlier | holds
      · exact (nested.references there child earlier).mono kept
      · exact holds.mono kept
  · exact (nested.references found child member).mono kept

end Nested
end

/-! ## Steps -/

/-- From one state to a later one: the nodes stay where they are, they still cover what they refer
to, and some nodes lie inside a stretch of the text. -/
structure Encloses (whole : Span) (before after : Conversion) (outer : Span) (ids : Multiset NodeId)
    : Prop where
  kept : before.spans <+: after.spans
  nested : Nested whole before → Nested whole after
  held : ∀ id ∈ ids, after.Holds outer id

namespace Encloses

variable {whole outer inner : Span} {before opened state after : Conversion}
    {ids more : Multiset NodeId} {id : NodeId}

theorem refl (state : Conversion) : Encloses whole state state outer 0 :=
  ⟨List.prefix_refl _, id, by simp⟩

theorem extend (enclosing : Encloses whole before state outer ids)
    (added : Encloses whole state after inner more) (inside : outer.contains inner)
    : Encloses whole before after outer (more + ids) where
  kept := enclosing.kept.trans added.kept
  nested nested := added.nested (enclosing.nested nested)
  held id member := by
    rcases Multiset.mem_add.mp member with new | old
    · exact (added.held id new).widen inside
    · exact (enclosing.held id old).mono added.kept

theorem restart (enclosing : Encloses whole before state outer ids) :
    Encloses whole state state outer ids :=
  ⟨List.prefix_refl _, id, enclosing.held⟩

theorem fewer (enclosing : Encloses whole before after outer ids) (among : more ⊆ ids) :
    Encloses whole before after outer more :=
  ⟨enclosing.kept, enclosing.nested, fun id member => enclosing.held id (among member)⟩

theorem left (enclosing : Encloses whole before after outer (ids + more)) :
    Encloses whole before after outer ids :=
  enclosing.fewer (Multiset.subset_of_le (Multiset.le_add_right ids more))

theorem right (enclosing : Encloses whole before after outer (more + ids)) :
    Encloses whole before after outer ids :=
  enclosing.fewer (Multiset.subset_of_le (Multiset.le_add_left ids more))

theorem cons (enclosing : Encloses whole before after outer ids) (holds : after.Holds outer id) :
    Encloses whole before after outer (id ::ₘ ids) :=
  ⟨enclosing.kept, enclosing.nested, Multiset.forall_mem_cons.mpr ⟨holds, enclosing.held⟩⟩

theorem unchanged (enclosing : Encloses whole before state outer ids)
    (builder : after.builder = state.builder) (comments : after.comments = state.comments)
    : Encloses whole before after outer ids := by
  obtain ⟨_, _, kinds, problems⟩ := after
  subst builder comments
  exact ⟨enclosing.kept, fun nested =>
    ⟨(enclosing.nested nested).references, (enclosing.nested nested).comments⟩, enclosing.held⟩

theorem push (enclosing : Encloses whole before state outer ids) {node : Node}
    (bare : node.slots = []) :
    Encloses whole before (state.push node) outer ids where
  kept := enclosing.kept.trans (prefix_spans_push state node)
  nested nested := (enclosing.nested nested).push bare
  held id member := (enclosing.held id member).mono (prefix_spans_push state node)

theorem modify (enclosing : Encloses whole before state outer ids) {change : Node → Node}
    (same : ∀ node, (change node).span = node.span)
    (takes : ∀ node, state.builder.get? id = some node →
      ∀ child ∈ (change node).references, child ∈ node.references ∨ state.Holds node.span child) :
    Encloses whole before { state with builder := state.builder.modify id change } outer ids where
  kept := enclosing.kept.trans (Lifted.of_modify state id same).kept
  nested nested := (enclosing.nested nested).modify same takes
  held id member := (enclosing.held id member).mono (Lifted.of_modify state _ same).kept

theorem mark (enclosing : Encloses whole before state outer ids) (id : NodeId) :
    Ensures (markElementName id) state fun _ after => Encloses whole before after outer ids := by
  refine enclosing.modify (fun node => ?_) fun node _ child member => .inl ?_
  · split <;> rfl
  · split at member <;> exact member

theorem setSlot (enclosing : Encloses whole before state outer ids)
    (own : before.spans[id]? = some outer) (name : String) {slot : Slot}
    (among : ∀ child ∈ slot.ids, child ∈ ids) :
    Ensures (setSlot id name slot) state fun _ after => Encloses whole before after outer ids := by
  refine enclosing.modify (fun _ => rfl) fun node found child member => ?_
  have covers : node.span = outer := by
    have still := span_of_prefix enclosing.kept own
    rw [spans_getElem?, found] at still
    exact Option.some.inj still
  rcases Multiset.mem_add.mp (Multiset.mem_of_le (node.references_setSlot_le name slot) member)
    with new | old
  · exact .inr (covers ▸ enclosing.held child (among child new))
  · exact .inl old

theorem applyDraft {draft : Draft} (enclosing : Encloses whole before state outer ids)
    (own : before.spans[id]? = some outer) (among : ∀ child ∈ draft.ids, child ∈ ids) :
    Ensures (applyDraft draft id) state fun _ after => Encloses whole before after outer ids := by
  induction draft generalizing state with
  | nil => exact enclosing
  | cons entry rest ih =>
      rw [Draft.ids_cons] at among
      have first : ∀ child ∈ (Draft.contents entry).ids, child ∈ ids := fun child member =>
        among child (Multiset.mem_add.mpr (.inl (Draft.ids_contents entry ▸ member)))
      exact ih (enclosing.setSlot own entry.name first) fun child member =>
        among child (Multiset.mem_add.mpr (.inr member))

/-- A comment lies inside the text, wherever it stands. -/
theorem comment (enclosing : Encloses whole before state outer ids) (source : List Char)
    {phrase : ParseTree} (inside : whole.contains phrase.span) :
    Ensures (liftComment source phrase) state fun _ after =>
      Encloses whole before after outer ids := by
  let node : Node :=
    { kind := (commentParts (phraseText source phrase)).1, span := phrase.span,
      value := some (.string (String.ofList (commentParts (phraseText source phrase)).2)) }
  have pushed := enclosing.push (show node.slots = [] from rfl)
  refine ⟨pushed.kept, fun nested =>
    ⟨(pushed.nested nested).references, fun id member => ?_⟩, pushed.held⟩
  rcases Array.mem_push.mp member with earlier | rfl
  · exact (pushed.nested nested).comments id earlier
  · exact ⟨phrase.span, span_push_self state node, inside⟩

end Encloses

/-- A node is added that covers a stretch of the text, and is left open. -/
structure Opens (whole : Span) (before opened : Conversion) (outer : Span) (id : NodeId)
    : Prop where
  own : opened.spans[id]? = some outer
  ordered : outer.contains outer
  added : Encloses whole before opened outer 0

namespace Opens

variable {whole outer : Span} {before opened after : Conversion} {ids : Multiset NodeId}
    {id : NodeId}

theorem start (_ : Opens whole before opened outer id) : Encloses whole opened opened outer 0 :=
  .refl opened

theorem holds (opens : Opens whole before opened outer id) (kept : opened.spans <+: after.spans) :
    after.Holds outer id :=
  ⟨outer, span_of_prefix kept opens.own, opens.ordered⟩

theorem close (opens : Opens whole before opened outer id)
    (filled : Encloses whole opened after outer ids) :
    Encloses whole before after outer {id} :=
  ((opens.added.extend filled opens.ordered).fewer (Multiset.zero_subset _)).cons
    (opens.holds filled.kept)

end Opens

/-! ## Leaves and comments -/

section
variable {whole outer : Span} {before state : Conversion} {ids : Multiset NodeId}
    (source : List Char)

theorem pushNode_opens {node : Node} (bare : node.slots = [])
    (ordered : node.span.contains node.span) (before : Conversion) :
    Ensures (pushNode node) before fun id opened => Opens whole before opened node.span id :=
  ⟨span_push_self before node, ordered, (Encloses.refl before).push bare⟩

theorem pushKind_opens_inside (kind : String) {phrase : ParseTree}
    (enclosed : phrase.Enclosed whole) (before : Conversion) :
    Ensures (pushKind kind phrase) before fun id opened =>
      Opens whole before opened phrase.span id :=
  pushNode_opens rfl (Span.contains_self enclosed.inside) before

theorem pushNode_encloses {node : Node} (bare : node.slots = []) (inside : outer.contains node.span)
    (enclosing : Encloses whole before state outer ids) :
    Ensures (pushNode node) state fun id after => Encloses whole before after outer (id ::ₘ ids) :=
  (enclosing.push bare).cons ⟨node.span, span_push_self state node, inside⟩

theorem convertName_encloses (kind : String) {phrase : ParseTree}
    (inside : outer.contains phrase.span) (enclosing : Encloses whole before state outer ids) :
    Ensures (convertName source kind phrase) state fun id after =>
      Encloses whole before after outer (id ::ₘ ids) :=
  pushNode_encloses rfl inside enclosing

/-- The text between two substitutions ends where it starts when they overlap. -/
theorem pushQuasi_encloses {start stop : Nat} (lower : outer.start ≤ start)
    (upper : start ≤ outer.stop) (last : stop ≤ outer.stop)
    (enclosing : Encloses whole before state outer ids) :
    Ensures (pushQuasi source start stop) state fun id after =>
      Encloses whole before after outer (id ::ₘ ids) :=
  pushNode_encloses rfl
    (Span.contains_iff.mpr ⟨lower, Nat.le_max_right .., Nat.max_le.mpr ⟨last, upper⟩⟩) enclosing

theorem nestedComments_below (stack : List ParseTree) :
    ∀ comment ∈ nestedComments stack, ∃ phrase ∈ stack, comment ∈ phrase.rows := by
  induction stack using nestedComments.induct with
  | case1 => simp [nestedComments]
  | case2 phrase rest comment ih =>
      rw [nestedComments, if_pos comment]
      refine List.forall_mem_cons.mpr ⟨⟨phrase, List.mem_cons_self, phrase.self_mem_rows⟩,
        fun found member => ?_⟩
      obtain ⟨other, listed, below⟩ := ih found member
      exact ⟨other, List.mem_cons_of_mem _ listed, below⟩
  | case3 phrase rest other ih =>
      rw [nestedComments, if_neg other]
      intro found member
      obtain ⟨part, listed, below⟩ := ih found member
      rcases List.mem_append.mp listed with child | later
      · exact ⟨phrase, List.mem_cons_self,
          ParseTree.rows_subset_of_mem (mem_children_of_mem_namedChildren child) below⟩
      · exact ⟨part, List.mem_cons_of_mem _ later, below⟩

theorem liftNestedComments_encloses {phrase : ParseTree} (enclosed : phrase.Enclosed whole)
    (enclosing : Encloses whole before state outer ids) :
    Ensures (liftNestedComments source phrase) state fun _ after =>
      Encloses whole before after outer ids := by
  refine .forM (fun state => Encloses whole before state outer ids) enclosing
    fun comment member state enclosing => ?_
  obtain ⟨_, listed, below⟩ := nestedComments_below [phrase] comment member
  obtain rfl := List.mem_singleton.mp listed
  exact enclosing.comment source (enclosed comment below).1

theorem truncate_encloses {phrase : ParseTree} (enclosed : phrase.Enclosed whole)
    (before : Conversion) :
    Ensures (truncate source phrase) before fun result after =>
      Encloses whole before after phrase.span (result.toList : Multiset NodeId) := by
  refine .ite (fun _ => ((Encloses.refl before).comment source enclosed.inside).bind
    fun _ _ lifted => .pure lifted) fun _ => ?_
  refine (pushKind_opens_inside phrase.kind enclosed before).bind fun id opened opens => ?_
  refine Ensures.bind (show Ensures (noteKind phrase.kind []) opened fun _ noted =>
    Encloses whole opened noted phrase.span 0 from
    (Encloses.refl opened).unchanged rfl rfl) fun _ noted kept => ?_
  refine (Ensures.forM (fun state => Encloses whole opened state phrase.span 0) kept
    fun child member state kept => ?_).bind
    fun _ lifted kept => (opens.close kept).unchanged rfl rfl
  exact liftNestedComments_encloses source (enclosed.within.namedChild member).enclosed kept

/-! ## Constructs without children of their own -/

theorem convertShorthand_encloses {phrase : ParseTree} (enclosed : phrase.Enclosed whole)
    (before : Conversion) :
    Ensures (convertShorthand source phrase) before fun id after =>
      Encloses whole before after phrase.span {id} := by
  have inside := enclosed.within.inside
  refine (pushKind_opens_inside "Property" enclosed before).bind fun id opened opens => ?_
  refine (convertName_encloses source "Identifier" inside opens.start).bind fun key _ named => ?_
  refine (convertName_encloses source "Identifier" inside named).bind fun value _ named => ?_
  refine (named.setSlot opens.own "key" (by simp [Slot.ids])).bind fun _ _ filled => ?_
  refine (filled.setSlot opens.own "value" (by simp [Slot.ids])).bind fun _ _ filled => ?_
  exact (filled.setSlot opens.own "shorthand" (by simp [Slot.ids])).bind fun _ _ filled =>
    .pure (opens.close filled)

theorem convertLocal_encloses (kind : String) {phrase name : ParseTree}
    (enclosed : phrase.Enclosed whole) (inside : phrase.span.contains name.span)
    (before : Conversion) :
    Ensures (convertLocal source kind phrase name) before fun id after =>
      Encloses whole before after phrase.span {id} := by
  refine (pushKind_opens_inside kind enclosed before).bind fun id opened opens => ?_
  refine (convertName_encloses source "Identifier" inside opens.start).bind fun localName _ named =>
    ?_
  exact (named.setSlot opens.own "local" (by simp [Slot.ids])).bind fun _ _ filled =>
    .pure (opens.close filled)

end

/-! ## Drafts that gather nodes inside a phrase -/

/-- From an open node to a later state: the nodes of a draft lie inside the open one. -/
def Gathers (whole : Span) (opened : Conversion) (outer : Span) (draft : Draft) (state : Conversion)
    : Prop :=
  Encloses whole opened state outer draft.ids

/-- What is needed of the conversion of the phrases below: what it returns lies inside the
phrase. -/
def StaysInside (whole : Span) (descend : ParseTree → Convert (Option NodeId)) : Prop :=
  ∀ phrase, phrase.Enclosed whole → ∀ before,
    Ensures (descend phrase) before fun result after =>
      Encloses whole before after phrase.span (result.toList : Multiset NodeId)

section Descent

variable {whole outer : Span} {source : List Char} {descend : ParseTree → Convert (Option NodeId)}
    {opened state : Conversion}
  {draft : Draft} {child : ParseTree}

theorem leaveOut_gathers (within : child.Within whole outer)
    (gathers : Gathers whole opened outer draft state) :
    Ensures (leaveOut source draft child) state (Gathers whole opened outer) :=
  (liftNestedComments_encloses source within.enclosed gathers).bind fun _ _ lifted => .pure lifted

theorem keepComment_gathers (within : child.Within whole outer)
    (gathers : Gathers whole opened outer draft state) :
    Ensures (do liftComment source child; pure draft) state (Gathers whole opened outer) :=
  (Encloses.comment gathers source within.enclosed.inside).bind fun _ _ lifted => .pure lifted

theorem Gathers.push {id : NodeId} (gathers : Encloses whole opened state outer ({id} + draft.ids))
    (name : String) (many : Bool) :
    Gathers whole opened outer (draft.push name id many) state := by
  rwa [Gathers, Draft.ids_push, ← Multiset.singleton_add]

theorem Gathers.declareList (gathers : Gathers whole opened outer draft state) (name : String) :
    Gathers whole opened outer (draft.declareList name) state := by
  rwa [Gathers, Draft.ids_declareList]

theorem Opens.gathers {before : Conversion} {id : NodeId} (_ : Opens whole before opened outer id) :
    Gathers whole opened outer [] opened :=
  Encloses.refl opened

theorem Opens.fill {before : Conversion} {id : NodeId} (opens : Opens whole before opened outer id)
    (gathers : Gathers whole opened outer draft state) :
    Ensures (do applyDraft draft id; pure id) state fun id after =>
      Encloses whole before after outer {id} :=
  (Encloses.applyDraft gathers opens.own fun _ member => member).bind fun _ _ filled =>
    .pure (opens.close filled)

theorem Opens.fillFrom {before : Conversion} {id : NodeId}
    (opens : Opens whole before opened outer id) {items : List ParseTree}
    {step : Draft → ParseTree → Convert Draft} (empty : Gathers whole opened outer draft opened)
    (each : ∀ item ∈ items, ∀ draft state, Gathers whole opened outer draft state →
      Ensures (step draft item) state (Gathers whole opened outer)) :
    Ensures (do let draft ← items.foldlM step draft; applyDraft draft id; pure id) opened
      fun id after =>
      Encloses whole before after outer {id} :=
  (Ensures.foldlM (Gathers whole opened outer) empty each).bind fun _ _ gathers =>
    opens.fill gathers

theorem finishMapped_encloses (kind : String) {id : NodeId} {ids : Multiset NodeId}
    (own : opened.spans[id]? = some outer) (enclosing : Encloses whole opened state outer ids) :
    Ensures (finishMapped kind id) state fun _ after => Encloses whole opened after outer ids := by
  refine .ite (fun _ => enclosing.setSlot own "computed" (by simp [Slot.ids])) fun _ => ?_
  refine .ite (fun _ => enclosing.setSlot own "computed" (by simp [Slot.ids])) fun _ => ?_
  refine .ite (fun _ => ?_) fun _ => .pure enclosing
  refine Ensures.bind (show Ensures get state fun _ after => after = state from rfl) ?_
  rintro _ _ rfl
  split
  · exact enclosing.mark _
  · exact .pure enclosing

variable (stays : StaysInside whole descend)
include stays

theorem descend_encloses {ids : Multiset NodeId} (within : child.Within whole outer)
    (enclosing : Encloses whole opened state outer ids) :
    Ensures (descend child) state fun result after =>
      Encloses whole opened after outer ((result.toList : Multiset NodeId) + ids) :=
  (stays child within.enclosed state).mono fun _ _ added => enclosing.extend added within.inside

theorem addOne_gathers (name : String) (within : child.Within whole outer) (many : Bool)
    (gathers : Gathers whole opened outer draft state) :
    Ensures (do
      match ← descend child with
      | some id => pure (Draft.push name id many draft)
      | none => pure draft) state (Gathers whole opened outer) := by
  refine (descend_encloses stays within gathers).bind fun result after enclosing => ?_
  cases result with
  | none => exact .pure enclosing.right
  | some id => exact .pure (.push enclosing name many)

theorem addChild_gathers (name : String) (within : child.Within whole outer) (many : Bool)
    (gathers : Gathers whole opened outer draft state) :
    Ensures (addChild descend draft name child many) state (Gathers whole opened outer) := by
  refine .ite (fun _ => ?_) fun _ => addOne_gathers stays name within many gathers
  exact .foldlM _ (gathers.declareList name) fun item member draft state gathers =>
    addOne_gathers stays name (within.namedChild member) true gathers

theorem setConverted_encloses (slot : String) {part : Option ParseTree} {id : NodeId}
    (within : ∀ phrase, part = some phrase → phrase.Within whole outer)
    (own : opened.spans[id]? = some outer) (enclosing : Encloses whole opened state outer 0) :
    Ensures (setConverted descend id slot part) state fun _ after =>
      Encloses whole opened after outer 0 := by
  cases part with
  | none => exact .pure enclosing
  | some phrase =>
      refine (descend_encloses stays (within phrase rfl) enclosing).bind
        fun result after enclosing => ?_
      cases result with
      | none => exact .pure enclosing
      | some converted =>
          exact (enclosing.setSlot own slot (by simp [Slot.ids])).mono fun _ _ filled =>
            filled.fewer (Multiset.zero_subset _)

/-! ## Constructs -/

variable {phrase : ParseTree} (enclosed : phrase.Enclosed whole) (before : Conversion)

include enclosed

theorem convertMapped_encloses (mapping : Mapping) :
    Ensures (convertMapped source descend phrase mapping) before fun id after =>
      Encloses whole before after phrase.span {id} := by
  refine (pushKind_opens_inside mapping.kind enclosed before).bind fun id opened opens => ?_
  refine (Ensures.foldlM (Gathers whole opened phrase.span) opens.gathers
    fun child member draft state gathers => ?_).bind
    fun draft collected gathers => ?_
  · have within := enclosed.within.namedChild member
    split
    · exact addChild_gathers stays _ within _ gathers
    · exact leaveOut_gathers within gathers
  · refine (Encloses.applyDraft gathers opens.own fun _ member => member).bind fun _ _ filled => ?_
    exact (finishMapped_encloses phrase.kind opens.own filled).bind fun _ _ filled =>
      .pure (opens.close filled)

theorem convertUnmapped_encloses :
    Ensures (convertUnmapped descend phrase) before fun id after =>
      Encloses whole before after phrase.span {id} := by
  refine (pushKind_opens_inside phrase.kind enclosed before).bind fun id opened opens => ?_
  refine (Ensures.foldlM (Gathers whole opened phrase.span) opens.gathers
    fun child member draft state gathers => ?_).bind
    fun draft collected gathers => ?_
  · have within := enclosed.within.namedChild member
    split
    · exact addChild_gathers stays _ within _ gathers
    · exact addChild_gathers stays _ within _ gathers
  · refine Ensures.bind (show Ensures (noteKind phrase.kind draft.names) collected fun _ noted =>
      Gathers whole opened phrase.span draft noted from Encloses.unchanged gathers rfl rfl)
        fun _ _ gathers => ?_
    exact opens.fill gathers

/-- What stands for a phrase in parentheses lies inside the parentheses. -/
theorem convertTransparent_encloses :
    Ensures (convertTransparent source descend phrase) before fun result after =>
      Encloses whole before after phrase.span (result.toList : Multiset NodeId) := by
  refine .ite (fun _ => ?_) fun _ => ?_
  · refine .foldlM (fun (converted : Option NodeId) state =>
      Encloses whole before state phrase.span (converted.toList : Multiset NodeId)) (.refl before)
      fun child member converted state enclosing => ?_
    have within := enclosed.within.namedChild member
    refine .ite (fun _ => ?_) fun _ => ?_
    · exact (enclosing.comment source within.enclosed.inside).bind fun _ _ lifted => .pure lifted
    · exact (descend_encloses stays within enclosing).mono fun _ _ both => both.left
  · exact (convertUnmapped_encloses stays enclosed before).bind fun _ _ enclosing => .pure enclosing

theorem convertTemplate_encloses :
    Ensures (convertTemplate source descend phrase) before fun id after =>
      Encloses whole before after phrase.span {id} := by
  have ordered := (Span.contains_iff.mp enclosed.within.inside).2.1
  refine (pushKind_opens_inside "TemplateLiteral" enclosed before).bind fun id opened opens => ?_
  -- the cursor starts behind the first byte, or at the end of an empty template, and moves only
  -- to the ends of substitutions
  refine (Ensures.foldlM (fun (parts : List NodeId × List NodeId × Nat) state =>
    (phrase.span.start ≤ parts.2.2 ∧ parts.2.2 ≤ phrase.span.stop) ∧
      Encloses whole opened state phrase.span (parts.1 + parts.2.1 : Multiset NodeId))
    ⟨⟨Nat.le_min.mpr ⟨Nat.le_succ _, ordered⟩, Nat.min_le_right ..⟩, opens.start⟩ ?_).bind ?_
  · rintro child member ⟨quasis, expressions, last⟩ state ⟨⟨lower, upper⟩, enclosing⟩
    have within := enclosed.within.namedChild (List.mem_filter.mp member).1
    obtain ⟨starts, forward, stops⟩ := Span.contains_iff.mp within.inside
    refine (pushQuasi_encloses source lower upper (Nat.le_trans forward stops) enclosing).bind
      fun quasi pushed enclosing => ?_
    refine (Ensures.foldlM (fun (expressions : List NodeId) state =>
      Encloses whole opened state phrase.span (quasi ::ₘ (quasis + expressions : Multiset NodeId)))
        enclosing
      fun inner innerMember expressions state enclosing => ?_).bind
        fun expressions after enclosing => .pure ⟨?_, ?_⟩
    · refine (descend_encloses stays (within.namedChild innerMember) enclosing).bind
        fun result after enclosing => ?_
      cases result with
      | none => exact .pure enclosing.right
      | some expression =>
          exact .pure (enclosing.fewer fun other member => by grind [Multiset.mem_coe])
    · exact ⟨Nat.le_trans starts forward, stops⟩
    · exact enclosing.fewer fun other member => by grind [Multiset.mem_coe]
  · rintro ⟨quasis, expressions, last⟩ collected ⟨⟨lower, upper⟩, enclosing⟩
    refine (pushQuasi_encloses source lower upper (Nat.sub_le ..) enclosing).bind
      fun quasi pushed enclosing => ?_
    have texts : ∀ child ∈ (Slot.nodes (quasis ++ [quasi])).ids,
        child ∈ quasi ::ₘ (quasis + expressions : Multiset NodeId) := by
      grind [Multiset.mem_coe, Slot.ids_nodes]
    have substituted : ∀ child ∈ (Slot.nodes expressions).ids,
        child ∈ quasi ::ₘ (quasis + expressions : Multiset NodeId) := by
      grind [Multiset.mem_coe, Slot.ids_nodes]
    refine (enclosing.setSlot opens.own "quasis" texts).bind fun _ _ filled => ?_
    exact (filled.setSlot opens.own "expressions" substituted).bind fun _ _ filled =>
      .pure (opens.close filled)

theorem convertSpecifier_encloses (kind nameSlot aliasSlot : String) :
    Ensures (convertSpecifier descend kind nameSlot aliasSlot phrase) before fun id after =>
      Encloses whole before after phrase.span {id} := by
  refine (pushKind_opens_inside kind enclosed before).bind fun id opened opens => ?_
  refine (setConverted_encloses stays nameSlot (fun _ => enclosed.within.childIn?) opens.own
    opens.start).bind
    fun _ _ filled => ?_
  refine (setConverted_encloses stays aliasSlot (fun part found => ?_) opens.own filled).bind
    fun _ _ filled => .pure (opens.close filled)
  rcases Option.or_eq_some_iff.mp found with second | ⟨_, first⟩
  · exact enclosed.within.childIn? second
  · exact enclosed.within.childIn? first

omit enclosed in
theorem addSpecifiers_gathers (kind specifierKind nameSlot aliasSlot : String)
    (within : child.Within whole outer) (gathers : Gathers whole opened outer draft state) :
    Ensures (addSpecifiers source descend kind specifierKind nameSlot aliasSlot draft child) state
      (Gathers whole opened outer) := by
  refine .foldlM _ gathers fun item member draft state gathers => ?_
  have within := within.namedChild member
  refine .ite (fun _ => ?_) fun _ => leaveOut_gathers within gathers
  refine (convertSpecifier_encloses stays within.enclosed state specifierKind nameSlot
    aliasSlot).bind fun id after added => ?_
  exact .pure (.push (Encloses.extend gathers added within.inside) "specifiers" true)

omit enclosed in
theorem addClausePart_gathers (within : child.Within whole outer)
    (gathers : Gathers whole opened outer draft state) :
    Ensures (addClausePart source descend draft child) state (Gathers whole opened outer) := by
  have local_gathers : ∀ (kind : String) (name : ParseTree), child.span.contains name.span →
      Ensures (do let id ← convertLocal source kind child name; pure (Draft.push "specifiers" id true draft)) state
        (Gathers whole opened outer) := fun kind name inside =>
    (convertLocal_encloses source kind within.enclosed inside state).bind fun id _ added =>
      .pure (.push (Encloses.extend gathers added within.inside) "specifiers" true)
  refine .ite (fun _ => local_gathers _ child within.enclosed.within.inside) fun _ => ?_
  refine .ite (fun _ => ?_) fun _ => ?_
  · split
    · next name found =>
        exact local_gathers _ name
          (within.enclosed.within.namedChild (List.mem_of_find?_eq_some found)).inside
    · exact .pure gathers
  · refine .ite (fun _ => addSpecifiers_gathers stays _ _ _ _ within gathers) fun _ => ?_
    exact leaveOut_gathers within gathers

theorem convertImport_encloses :
    Ensures (convertImport source descend phrase) before fun id after =>
      Encloses whole before after phrase.span {id} := by
  refine (pushKind_opens_inside "ImportDeclaration" enclosed before).bind fun id opened opens => ?_
  refine opens.fillFrom (opens.gathers.declareList "specifiers")
    fun child member draft state gathers => ?_
  have within := enclosed.within.namedChild member
  refine .ite (fun _ => keepComment_gathers within gathers) fun _ => ?_
  refine .ite (fun _ => ?_) fun _ => ?_
  · exact .foldlM _ gathers fun part partMember draft state gathers =>
      addClausePart_gathers stays (within.namedChild partMember) gathers
  · refine .ite (fun _ => addChild_gathers stays "source" within false gathers) fun _ => ?_
    exact leaveOut_gathers within gathers

theorem convertExport_encloses :
    Ensures (convertExport source descend phrase) before fun id after =>
      Encloses whole before after phrase.span {id} := by
  refine (pushKind_opens_inside (exportKind phrase) enclosed before).bind fun id opened opens => ?_
  refine opens.fillFrom opens.gathers fun child member draft state gathers => ?_
  have within := enclosed.within.namedChild member
  refine .ite (fun _ => keepComment_gathers within gathers) fun _ => ?_
  refine .ite (fun _ => addSpecifiers_gathers stays _ _ _ _ within (gathers.declareList _)) fun _ =>
    ?_
  refine .ite (fun _ => ?_) fun _ => ?_
  · exact .foldlM _ gathers fun name nameMember draft state gathers =>
      addChild_gathers stays "exported" (within.namedChild nameMember) false gathers
  · refine .ite (fun _ => addChild_gathers stays _ within _ gathers) fun _ => ?_
    exact .ite (fun _ => addChild_gathers stays _ within _ gathers) fun _ =>
      leaveOut_gathers within gathers

theorem convertModuleCall_encloses :
    Ensures (convertModuleCall source descend phrase) before fun id after =>
      Encloses whole before after phrase.span {id} := by
  refine (pushKind_opens_inside "ImportExpression" enclosed before).bind fun id opened opens => ?_
  -- the arguments stand one row deeper than what a node usually takes
  have arguments : ∀ child ∈ ((phrase.childIn? "arguments").map ParseTree.namedChildren).getD [],
      child.Within whole phrase.span := by
    intro child member
    cases found : phrase.childIn? "arguments" with
    | none => simp [found] at member
    | some list =>
        rw [found] at member
        exact (enclosed.within.childIn? found).namedChild member
  refine (Ensures.foldlM (fun (acc : Draft × Nat) state =>
    Gathers whole opened phrase.span acc.1 state) opens.gathers ?_).bind
    fun acc collected gathers => opens.fill gathers
  rintro child member ⟨draft, position⟩ state gathers
  have within := arguments child member
  refine .ite (fun _ => ?_) fun _ => ?_
  · exact (Encloses.comment gathers source within.enclosed.inside).bind
      fun _ _ lifted => .pure lifted
  · refine .ite (fun _ => ?_) fun _ => .ite (fun _ => ?_) fun _ => ?_
    · exact (addChild_gathers stays "source" within false gathers).bind fun _ _ later => .pure later
    · exact (addChild_gathers stays "options" within false gathers).bind
        fun _ _ later => .pure later
    · exact (leaveOut_gathers within gathers).bind fun _ _ later => .pure later

theorem convertCall_encloses :
    Ensures (convertCall source descend phrase) before fun id after =>
      Encloses whole before after phrase.span {id} := by
  refine .ite (fun _ => convertModuleCall_encloses stays enclosed before) fun _ => ?_
  refine (pushKind_opens_inside _ enclosed before).bind fun id opened opens => ?_
  refine opens.fillFrom opens.gathers fun child member draft state gathers => ?_
  have within := enclosed.within.namedChild member
  refine .ite (fun _ => addChild_gathers stays _ within _ gathers) fun _ => ?_
  refine .ite (fun _ => ?_) fun _ => leaveOut_gathers within gathers
  exact .ite (fun _ => addChild_gathers stays _ within _ gathers) fun _ =>
    addChild_gathers stays _ within _ gathers

/-- The function of a method covers the whole method, so the method covers it and it covers the
parameters and the body. -/
theorem convertMethod_encloses :
    Ensures (convertMethod source descend phrase) before fun id after =>
      Encloses whole before after phrase.span {id} := by
  refine (pushKind_opens_inside "MethodDefinition" enclosed before).bind fun id first opens => ?_
  refine (pushKind_opens_inside "FunctionExpression" enclosed first).bind
    fun function opened opensInner => ?_
  refine (Ensures.foldlM (fun (drafts : Draft × Draft) state =>
    Encloses whole opened state phrase.span (drafts.1.ids + drafts.2.ids)) opensInner.start ?_).bind
      ?_
  · rintro child member ⟨draft, inner⟩ state enclosing
    have within := enclosed.within.namedChild member
    -- what one draft has gathered stays where it is while the other one grows
    have key := enclosing.left
    have parts := enclosing.right
    refine .ite (fun _ => ?_) fun _ => .ite (fun _ => ?_) fun _ => .ite (fun _ => ?_) fun _ => ?_
    · exact (addChild_gathers stays "key" within false key.restart).bind fun _ _ gathers =>
        .pure (parts.extend gathers opens.ordered)
    · exact (addChild_gathers stays "params" within true parts.restart).bind fun _ _ gathers =>
        .pure (by simpa [add_comm] using key.extend gathers opens.ordered)
    · exact (addChild_gathers stays "body" within false parts.restart).bind fun _ _ gathers =>
        .pure (by simpa [add_comm] using key.extend gathers opens.ordered)
    · exact (liftNestedComments_encloses source within.enclosed enclosing).bind
        fun _ _ lifted => .pure lifted
  · rintro ⟨draft, inner⟩ collected enclosing
    have own := span_of_prefix opensInner.added.kept opens.own
    have both := enclosing.cons (opensInner.holds enclosing.kept)
    refine (both.applyDraft own fun child member => ?_).bind fun _ _ filled => ?_
    · rw [Draft.ids_push] at member
      grind
    · refine (filled.applyDraft opensInner.own fun child member => ?_).bind
        fun _ _ filled => .pure ?_
      · simp [member]
      · exact opens.close (opensInner.added.extend filled opensInner.ordered)

theorem convertAttribute_encloses :
    Ensures (convertAttribute source descend phrase) before fun id after =>
      Encloses whole before after phrase.span {id} := by
  refine (pushKind_opens_inside "JSXAttribute" enclosed before).bind fun id opened opens => ?_
  refine (Ensures.foldlM
    (fun (_ : Nat) state => Encloses whole opened state phrase.span 0) opens.start
    fun child member position state enclosing => ?_).bind fun _ _ filled =>
      .pure (opens.close filled)
  have within := enclosed.within.namedChild member
  refine .ite (fun _ => ?_) fun _ => ?_
  · exact (enclosing.comment source within.enclosed.inside).bind fun _ _ lifted => .pure lifted
  · refine (descend_encloses stays within enclosing).bind fun result after enclosing => ?_
    split
    · next name =>
        refine (enclosing.mark name).bind fun _ _ marked => ?_
        exact (marked.setSlot opens.own "name" (by simp [Slot.ids])).bind fun _ _ filled =>
          .pure (filled.fewer (Multiset.zero_subset _))
    · next value =>
        exact (enclosing.setSlot opens.own "value" (by simp [Slot.ids])).bind fun _ _ filled =>
          .pure (filled.fewer (Multiset.zero_subset _))
    · exact .pure (enclosing.fewer (Multiset.zero_subset _))

/-! ## Phrases -/

theorem Construct.encloses {handling : ParseTree.Handling}
    {step : (ParseTree → Convert (Option NodeId)) → Convert (Option NodeId)}
    (construct : Construct source phrase step handling) :
    Ensures (step descend) before fun result after =>
      Encloses whole before after phrase.span (result.toList : Multiset NodeId) := by
  have made : ∀ {step : Convert NodeId},
      Ensures step before (fun id after => Encloses whole before after phrase.span {id}) →
      Ensures (some <$> step) before fun result after =>
        Encloses whole before after phrase.span (result.toList : Multiset NodeId) :=
    fun step => step.map fun _ _ enclosing => enclosing
  cases construct with
  | comment =>
      exact ((Encloses.refl before).comment source enclosed.inside).bind
        fun _ _ lifted => .pure lifted
  | firstLine => exact .pure (.refl before)
  | leaf _ _ covers bare =>
      exact made (pushNode_encloses bare (covers ▸ enclosed.within.inside) (.refl before))
  | shorthand => exact made (convertShorthand_encloses source enclosed before)
  | template => exact made (convertTemplate_encloses stays enclosed before)
  | imports => exact made (convertImport_encloses stays enclosed before)
  | exports => exact made (convertExport_encloses stays enclosed before)
  | moduleCall => exact made (convertCall_encloses stays enclosed before)
  | call => exact made (convertCall_encloses stays enclosed before)
  | method => exact made (convertMethod_encloses stays enclosed before)
  | elementAttribute => exact made (convertAttribute_encloses stays enclosed before)
  | transparent => exact convertTransparent_encloses stays enclosed before
  | mapped => exact made (convertMapped_encloses stays enclosed before _)
  | unmapped => exact made (convertUnmapped_encloses stays enclosed before)

theorem convertPhrase_encloses :
    Ensures (convertPhrase source descend phrase) before fun result after =>
      Encloses whole before after phrase.span (result.toList : Multiset NodeId) :=
  (convertPhrase_construct source phrase).encloses stays enclosed before

end Descent

theorem convert_staysInside (whole : Span) (source : List Char) (levels : Nat) :
    StaysInside whole (convert source levels) := by
  induction levels with
  | zero => exact fun phrase enclosed before => truncate_encloses source enclosed before
  | succ levels ih =>
      intro phrase enclosed before
      refine .counted ((convertPhrase_encloses ih enclosed _).mono fun result after enclosing => ?_)
      have counted : Encloses whole _ { after with depth := after.depth - 1 } _ _ :=
        enclosing.unchanged rfl rfl
      exact ⟨counted.kept, fun nested =>
        counted.nested ⟨nested.references, nested.comments⟩, counted.held⟩

theorem convertProgram_nests (source : List Char) {parse : ParseTree}
    (enclosed : parse.Enclosed ⟨0, Text.byteLength source⟩) :
    Ensures (convertProgram source parse) {} fun _ after =>
      Nested ⟨0, Text.byteLength source⟩ after := by
  let whole : Span := ⟨0, Text.byteLength source⟩
  have ordered : whole.contains whole :=
    Span.contains_iff.mpr ⟨Nat.le_refl _, Nat.zero_le _, Nat.le_refl _⟩
  have within : parse.Within whole whole := ⟨enclosed, enclosed.inside⟩
  refine Ensures.bind (show Ensures (pushNode { kind := "Program", span := whole }) {}
    fun id opened =>
    Opens whole {} opened whole id from pushNode_opens rfl ordered {}) fun program opened opens =>
      ?_
  rw [fillProgram, bind_assoc]
  refine (Ensures.foldlM (Gathers whole opened whole) (opens.gathers.declareList "body")
    fun child member draft state gathers => ?_).bind fun draft collected gathers => ?_
  · have inside := within.namedChild (List.mem_filter.mp member).1
    exact addChild_gathers (convert_staysInside whole source maxDepth) "body" inside true gathers
  refine (Encloses.applyDraft gathers opens.own fun _ member => member).bind
    fun _ applied enclosing => ?_
  refine Ensures.bind (show Ensures get applied fun current after => current = applied ∧
    after = applied from ⟨rfl, rfl⟩) ?_
  rintro _ filled ⟨rfl, rfl⟩
  have start : Nested whole {} := ⟨fun found => by simp [Tree.Builder.get?] at found, by simp⟩
  have nested := enclosing.nested (opens.added.nested start)
  -- the comments lie inside the program because they lie inside the text
  have listed : Encloses whole opened filled whole (filled.comments.toList : Multiset NodeId) :=
    ⟨enclosing.kept, enclosing.nested, fun id member => nested.comments id (by simpa using member)⟩
  refine (listed.setSlot opens.own "comments" (by simp)).bind fun _ _ closed => .pure ?_
  exact closed.nested (opens.added.nested start)

/-- Where every row of a parse lies inside the text with its ends in order, and inside the row above
it, every node of the tree lies inside each node that refers to it. -/
theorem load_nests_spans (filename : String) (source : List Char) {parse : ParseTree}
    (enclosed : ∀ row ∈ parse.rows, (⟨0, Text.byteLength source⟩ : Span).contains row.span ∧
      ∀ child ∈ row.children, row.span.contains child.span) :
    let tree := (load filename source parse).tree
    ∀ id node, tree.get? id = some node →
      ∀ child ∈ node.references, ∃ inner, tree.get? child = some inner ∧
      node.span.start ≤ inner.span.start ∧ inner.span.start ≤ inner.span.stop ∧
        inner.span.stop ≤ node.span.stop := by
  intro tree id node found child member
  have nested := convertProgram_nests source enclosed
  obtain ⟨span, covers, inside⟩ := nested.references found child member
  rw [spans_getElem?] at covers
  obtain ⟨inner, there, rfl⟩ := Option.map_eq_some_iff.mp covers
  exact ⟨inner, there, Span.contains_iff.mp inside⟩

/-- A specifier with one name, a method, a shorthand property, and a template in parentheses whose
substitutions overlap. -/
def overlappingParse : ParseTree :=
  .mk none "program" true ⟨0, 55⟩ [
    .mk none "import_statement" true ⟨0, 20⟩ [
      .mk none "import_clause" true ⟨7, 10⟩ [
        .mk none "named_imports" true ⟨7, 10⟩ [
          .mk none "import_specifier" true ⟨8, 9⟩ [.mk (some "name") "identifier" true ⟨8, 9⟩ []]]],
      .mk (some "source") "string" true ⟨16, 19⟩ []],
    .mk none "expression_statement" true ⟨21, 50⟩ [
      .mk none "parenthesized_expression" true ⟨21, 50⟩ [
        .mk none "object" true ⟨22, 49⟩ [
          .mk none "method_definition" true ⟨23, 30⟩ [
            .mk (some "name") "property_identifier" true ⟨23, 24⟩ [],
            .mk (some "parameters") "formal_parameters" true ⟨24, 27⟩
              [.mk none "identifier" true ⟨25, 26⟩ []],
            .mk (some "body") "statement_block" true ⟨28, 30⟩ []],
          .mk none "shorthand_property_identifier" true ⟨32, 33⟩ [],
          .mk none "pair" true ⟨35, 48⟩ [
            .mk (some "key") "property_identifier" true ⟨35, 36⟩ [],
            .mk (some "value") "parenthesized_expression" true ⟨38, 48⟩ [
              .mk none "template_string" true ⟨39, 47⟩ [
                .mk none "template_substitution" true ⟨41, 47⟩
                  [.mk none "identifier" true ⟨43, 44⟩ []],
                .mk none "template_substitution" true ⟨42, 43⟩ []]]]]]],
    .mk none "comment" true ⟨51, 55⟩ []]

theorem load_nests_spans_overlapping :
    let source := "import \x7ba\x7d from 'm'; (\x7bp(x) \x7b\x7d, q, r: (`s$\x7by\x7dt`)\x7d) // c".toList
    (∀ row ∈ overlappingParse.rows, (⟨0, Text.byteLength source⟩ : Span).contains row.span ∧
      ∀ child ∈ row.children, row.span.contains child.span) ∧
    let tree := (load "nested.js" source overlappingParse).tree
    (tree.nodes.toList.filter (·.kind = "TemplateElement")).map Node.span =
      [⟨40, 41⟩, ⟨47, 47⟩, ⟨43, 46⟩] ∧
    ∀ id node, tree.get? id = some node →
      ∀ child ∈ node.references, ∃ inner, tree.get? child = some inner ∧
      node.span.start ≤ inner.span.start ∧ inner.span.start ≤ inner.span.stop ∧
        inner.span.stop ≤ node.span.stop := by
  intro source
  have enclosed : ∀ row ∈ overlappingParse.rows,
    (⟨0, Text.byteLength source⟩ : Span).contains row.span ∧
      ∀ child ∈ row.children, row.span.contains child.span := by decide +kernel
  exact ⟨enclosed, by decide +kernel, load_nests_spans "nested.js" source enclosed⟩

end Parse
end Spellspan
