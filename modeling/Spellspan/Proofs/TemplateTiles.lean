import Mathlib
import Spellspan.Proofs.ConvertedHeights
import Spellspan.Proofs.ConvertedParts

/-!
The texts of a template lie between its substitutions. A cursor stands behind what was covered so
far: each substitution adds the text from there up to its start and moves the cursor to its end.
Texts and substitutions by turns then tile all that the quotes enclose. The expressions are what the
parts of the substitutions are converted into, one after another.
-/
set_option autoImplicit false

namespace Spellspan.Tree

/-! ## Tiles -/

/-- Spans that follow one another without gap or overlap, from a start to a stop. -/
inductive Tiles : Nat → Nat → List Span → Prop where
  | nil (place : Nat) : Tiles place place []
  | cons {span : Span} {stop : Nat} {rest : List Span} (forward : span.start ≤ span.stop)
      (behind : Tiles span.stop stop rest) :
      Tiles span.start stop (span :: rest)

def Span.covers (span : Span) (place : Nat) : Bool :=
  span.start ≤ place && place < span.stop

theorem Tiles.le {start stop : Nat} {spans : List Span} (tiles : Tiles start stop spans) :
    start ≤ stop := by
  induction tiles with
  | nil => exact Nat.le_refl _
  | cons forward _ ih => exact Nat.le_trans forward ih

/-- A place is covered once where there are tiles, and elsewhere never. -/
theorem Tiles.countP_covers {start stop : Nat} {spans : List Span} (tiles : Tiles start stop spans)
    (place : Nat) :
    spans.countP (fun span => span.covers place) = if start ≤ place ∧
      place < stop then 1 else 0 := by
  induction tiles with
  | nil start => rw [List.countP_nil, if_neg (by omega)]
  | cons forward behind ih =>
      have after := behind.le
      rw [List.countP_cons, ih]
      simp only [Span.covers, Bool.and_eq_true, decide_eq_true_eq]
      split_ifs <;> omega

/-- Two lists by turns, as long as both have entries, and then what is left. -/
def byTurns {α : Type} : List α → List α → List α
  | first :: rest, second :: others => first :: second :: byTurns rest others
  | firsts, [] => firsts
  | [], seconds => seconds

/-- What lies before each span when a cursor moves to its end, and then what lies before the
stop. -/
def gaps (stop : Nat) : Nat → List Span → List Span
  | cursor, [] => [⟨cursor, max stop cursor⟩]
  | cursor, span :: rest => ⟨cursor, max span.start cursor⟩ :: gaps stop span.stop rest

theorem length_gaps (stop cursor : Nat) (spans : List Span) :
    (gaps stop cursor spans).length = spans.length + 1 := by
  induction spans generalizing cursor with
  | nil => rfl
  | cons span rest ih => rw [gaps, List.length_cons, ih, List.length_cons]

/-- Spans in order, from a start to a stop, with the gaps between them are tiles. -/
theorem tiles_gaps {stop cursor : Nat} {spans : List Span} (room : cursor ≤ stop)
    (inside : ∀ span ∈ spans, cursor ≤ span.start ∧ span.start ≤ span.stop ∧ span.stop ≤ stop)
    (ordered : spans.Pairwise fun first second => first.stop ≤ second.start) :
    Tiles cursor stop (byTurns (gaps stop cursor spans) spans) := by
  induction spans generalizing cursor with
  | nil =>
      rw [gaps, byTurns, Nat.max_eq_left room]
      exact @Tiles.cons ⟨cursor, stop⟩ _ _ room (.nil stop)
  | cons span rest ih =>
      obtain ⟨early, forward, within⟩ := inside span List.mem_cons_self
      obtain ⟨before, later⟩ := List.pairwise_cons.mp ordered
      rw [gaps, byTurns, Nat.max_eq_left early]
      refine @Tiles.cons ⟨cursor, span.start⟩ _ _ early
        (.cons forward (ih within (fun other member => ?_) later))
      exact ⟨before other member, (inside other (List.mem_cons_of_mem _ member)).2⟩

end Spellspan.Tree

namespace Spellspan.Parse

open Spellspan.Tree (NodeId Node Slot Span Builder Tiles byTurns gaps)

/-! ## Phrases converted in turn -/

/-- From an offset on, the nodes of a state are those of a later one. -/
structure Keeps (offset : NodeId) (before after : Conversion) : Prop where
  size : before.builder.size ≤ after.builder.size
  nodes : ∀ id node, offset ≤ id → before.builder.get? id = some node →
    after.builder.get? id = some node

namespace Keeps

variable {offset : NodeId} {before middle after : Conversion}

theorem refl (state : Conversion) : Keeps offset state state :=
  ⟨Nat.le_refl _, fun _ _ _ found => found⟩

theorem trans (first : Keeps offset before middle) (second : Keeps offset middle after) :
    Keeps offset before after :=
  ⟨Nat.le_trans first.size second.size, fun id node behind found =>
    second.nodes id node behind (first.nodes id node behind found)⟩

theorem of_builds {ids : Multiset NodeId} {height : Nat} (builds : Builds before after 0 ids height)
    : Keeps offset before after :=
  ⟨builds.size, fun id _ _ found => (builds.kept id (Builder.lt_size_of_get? found)).trans found⟩

theorem weaken (keeps : Keeps offset before after) {start : NodeId} (later : offset ≤ start) :
    Keeps start before after :=
  ⟨keeps.size, fun id node behind => keeps.nodes id node (Nat.le_trans later behind)⟩

theorem setSlot (state : Conversion) {id : NodeId} (early : id < offset) (name : String)
    (slot : Slot) :
    Keeps offset state { state with builder := state.builder.setSlot id name slot } :=
  ⟨Nat.le_of_eq Builder.size_setSlot.symm, fun _ _ behind found =>
    (Builder.get?_setSlot_of_ne (Nat.ne_of_gt (Nat.lt_of_lt_of_le early behind))).trans found⟩

theorem push (state : Conversion) (node : Node) : Keeps offset state (state.push node) :=
  ⟨Nat.le_trans (Nat.le_succ _) (Nat.le_of_eq Builder.size_push.symm), fun _ _ _ found =>
    (Builder.get?_push_of_lt (Builder.lt_size_of_get? found)).trans found⟩

end Keeps

/-- From one state to a later one some phrases are converted in turn, into these nodes. What else
happens in between leaves the nodes from an offset on as they are. -/
inductive Yields (source : List Char) (levels : Nat) (offset : NodeId) :
    Conversion → List ParseTree → List NodeId → Conversion → Prop where
  | nil {before after : Conversion} (keeps : Keeps offset before after) :
      Yields source levels offset before [] [] after
  | cons {before state after : Conversion} {phrase : ParseTree} {phrases : List ParseTree}
      {ids : List NodeId}
      (keeps : Keeps offset before state)
      (rest : Yields source levels offset ((convert source levels phrase).run state).2
        phrases ids after) :
      Yields source levels offset before (phrase :: phrases)
        (((convert source levels phrase).run state).1.toList ++ ids) after

namespace Yields

variable {source : List Char} {levels : Nat} {offset : NodeId} {before middle after : Conversion}
    {phrases more : List ParseTree}
  {ids others : List NodeId}

theorem behind (keeps : Keeps offset before middle)
    (yields : Yields source levels offset middle phrases ids after) :
    Yields source levels offset before phrases ids after := by
  cases yields with
  | nil later => exact .nil (keeps.trans later)
  | cons later rest => exact .cons (keeps.trans later) rest

theorem append (first : Yields source levels offset before phrases ids middle)
    (second : Yields source levels offset middle more others after) :
    Yields source levels offset before (phrases ++ more) (ids ++ others) after := by
  induction first with
  | nil keeps => exact second.behind keeps
  | cons keeps _ ih =>
      rw [List.cons_append, List.append_assoc]
      exact .cons keeps (ih second)

theorem ahead (yields : Yields source levels offset before phrases ids middle)
    (keeps : Keeps offset middle after) :
    Yields source levels offset before phrases ids after := by
  have both := yields.append (.nil keeps)
  rwa [List.append_nil, List.append_nil] at both

theorem keeps (yields : Yields source levels offset before phrases ids after) :
    Keeps offset before after := by
  induction yields with
  | nil keeps => exact keeps
  | @cons _ state _ phrase _ _ keeps _ ih =>
      exact keeps.trans ((Keeps.of_builds (convert_builds source levels phrase state)).trans ih)

theorem weaken (yields : Yields source levels offset before phrases ids after) {start : NodeId}
    (later : offset ≤ start) :
    Yields source levels start before phrases ids after := by
  induction yields with
  | nil keeps => exact .nil (keeps.weaken later)
  | cons keeps _ ih => exact .cons (keeps.weaken later) ih

/-- Phrases converted in turn have nodes of their own, each behind those before it. -/
theorem ordered (yields : Yields source levels offset before phrases ids after) :
    (∀ id ∈ ids, before.builder.size ≤ id) ∧ ids.Pairwise (· < ·) := by
  induction yields with
  | nil keeps => exact ⟨by simp, .nil⟩
  | @cons before state _ phrase _ ids keeps _ ih =>
      have built : Builds state _ 0 _ _ := convert_builds source levels phrase state
      refine ⟨fun id member =>
        ?_, List.pairwise_append.mpr ⟨?_, ih.2, fun id own other later => ?_⟩⟩
      · rcases List.mem_append.mp member with own | later
        · exact Nat.le_trans keeps.size (built.shallow id (Multiset.mem_coe.mpr own)).le
        · exact Nat.le_trans (Nat.le_trans keeps.size built.size) (ih.1 id later)
      · cases ((convert source levels phrase).run state).1 with
        | none => exact .nil
        | some id => exact List.pairwise_singleton _ _
      · have existing := (built.shallow id (Multiset.mem_coe.mpr own)).lt_size
        exact Nat.lt_of_lt_of_le existing (ih.1 other later)

end Yields

theorem convert_comment (source : List Char) (levels : Nat) {comment : ParseTree}
    (kind : isCommentKind comment.kind) (state : Conversion)
    : ((convert source levels comment).run state).1 = none := by
  cases levels with
  | zero =>
      rw [convert, truncate, if_pos kind]
      rfl
  | succ levels =>
      have lifted : convertPhrase source (convert source levels) comment =
        (do liftComment source comment; pure none) := if_pos kind
      show ((counted (convertPhrase source (convert source levels) comment)).run state).1 = none
      rw [lifted]
      rfl

/-! ## The loop over substitutions -/

section
variable {source : List Char} {levels : Nat}

theorem expressions_yield (phrases : List ParseTree) (expressions : List NodeId)
    (before : Conversion) :
    Ensures (phrases.foldlM (fun expressions inner => do
      match ← convert source levels inner with
      | some expression => pure (expressions ++ [expression])
      | none => pure expressions) expressions) before fun collected after =>
      ∃ ids, collected = expressions ++ ids ∧ Yields source levels 0 before phrases ids after := by
  induction phrases generalizing expressions before with
  | nil => exact ⟨[], (List.append_nil _).symm, .nil (.refl before)⟩
  | cons phrase rest ih =>
      rw [List.foldlM_cons]
      have one : Ensures (do
          match ← convert source levels phrase with
          | some expression => pure (expressions ++ [expression])
          | none => pure expressions) before fun collected after =>
          collected = expressions ++ ((convert source levels phrase).run before).1.toList ∧
            after = ((convert source levels phrase).run before).2 := by
        refine Ensures.bind (show Ensures (convert source levels phrase) before fun result after =>
          result = ((convert source levels phrase).run before).1 ∧
            after = ((convert source levels phrase).run before).2
          from ⟨rfl, rfl⟩) fun result after ⟨same, reached⟩ => ?_
        rw [← same, ← reached]
        cases result with
        | none => exact .pure ⟨(List.append_nil _).symm, rfl⟩
        | some expression => exact .pure ⟨rfl, rfl⟩
      refine one.bind fun collected after ⟨same, reached⟩ =>
        (ih collected after).mono fun total final ⟨ids, grown, yields⟩ => ?_
      subst same reached
      exact ⟨_ ++ ids, by rw [grown, List.append_assoc], .cons (.refl before) yields⟩

/-- The texts of a template in a state: nodes behind an offset, over some spans. -/
def Texts (state : Conversion) (offset : NodeId) : List NodeId → List Span → Prop :=
  List.Forall₂ fun id span => offset ≤ id ∧
    ∃ node, state.builder.get? id = some node ∧ node.kind = "TemplateElement" ∧ node.span = span

theorem Texts.keep {before after : Conversion} {offset : NodeId} {ids : List NodeId}
    {spans : List Span} (texts : Texts before offset ids spans)
    (keeps : Keeps offset before after) :
    Texts after offset ids spans :=
  texts.imp fun id _ ⟨behind, node, found, kind, span⟩ =>
    ⟨behind, node, keeps.nodes id node behind found, kind, span⟩

theorem Texts.map_eq {state : Conversion} {offset : NodeId} {ids : List NodeId} {spans : List Span}
    (texts : Texts state offset ids spans) :
    ids.map (fun id => (state.builder.get? id).map fun node => (node.kind, node.span)) =
      spans.map fun span => some ("TemplateElement", span) := by
  induction texts with
  | nil => rfl
  | cons text _ ih =>
      obtain ⟨_, node, found, kind, span⟩ := text
      rw [List.map_cons, List.map_cons, ih, found, Option.map_some, kind, span]

theorem pushQuasi_text (start stop : Nat) (before : Conversion) :
    Ensures (pushQuasi source start stop) before fun id after =>
      Texts after before.builder.size [id] [⟨start, max stop start⟩] ∧ Keeps 0 before after :=
  ⟨.cons ⟨Nat.le_refl _, _, Builder.get?_push_self, rfl, rfl⟩ .nil, .push before _⟩

/-- What one substitution adds to the texts and to the expressions, and where the cursor stands
behind it. -/
def splice (source : List Char) (descend : ParseTree → Convert (Option NodeId)) :
    List NodeId × List NodeId × Nat → ParseTree → Convert (List NodeId × List NodeId × Nat)
  | (quasis, expressions, last), child => do
    let quasi ← pushQuasi source last child.span.start
    let expressions ← child.namedChildren.foldlM (fun expressions inner => do
      match ← descend inner with
      | some expression => pure (expressions ++ [expression])
      | none => pure expressions) expressions
    pure (quasis ++ [quasi], expressions, child.span.stop)

theorem convertTemplate_eq (descend : ParseTree → Convert (Option NodeId)) (phrase : ParseTree) :
    convertTemplate source descend phrase = (do
      let id ← pushKind "TemplateLiteral" phrase
      let (quasis, expressions, last) ← phrase.substitutions.foldlM (splice source descend)
        ([], [], min (phrase.span.start + 1) phrase.span.stop)
      let quasi ← pushQuasi source last (phrase.span.stop - 1)
      setSlot id "quasis" (.nodes (quasis ++ [quasi]))
      setSlot id "expressions" (.nodes expressions)
      pure id) :=
  rfl

theorem splice_yields (substitutions : List ParseTree) (quasis expressions : List NodeId)
    (cursor offset : Nat) (before : Conversion) (start : offset ≤ before.builder.size) :
    Ensures (substitutions.foldlM (splice source (convert source levels))
      (quasis, expressions, cursor)) before fun acc after =>
      ∃ ids more texts, acc.1 = quasis ++ ids ∧ acc.2.1 = expressions ++ more ∧
        Texts after offset ids texts ∧
        (∀ stop, gaps stop cursor (substitutions.map ParseTree.span) = texts ++
          [⟨acc.2.2, max stop acc.2.2⟩]) ∧
        Yields source levels 0 before
          (substitutions.flatMap ParseTree.namedChildren) more after := by
  induction substitutions generalizing quasis expressions cursor before with
  | nil => exact ⟨[], [], [], (List.append_nil _).symm, (List.append_nil _).symm, .nil, fun _ =>
      rfl, .nil (.refl before)⟩
  | cons child rest ih =>
      rw [List.foldlM_cons]
      have one : Ensures (splice source (convert source levels) (quasis, expressions, cursor) child)
        before fun acc after =>
          ∃ id more, acc = (quasis ++ [id], expressions ++ more, child.span.stop) ∧
            Texts after before.builder.size [id] [⟨cursor, max child.span.start cursor⟩] ∧
            Yields source levels 0 before child.namedChildren more after := by
        refine (pushQuasi_text cursor child.span.start before).bind
          fun quasi pushed ⟨text, keeps⟩ => ?_
        refine (expressions_yield child.namedChildren expressions pushed).bind
          fun collected after ⟨more, same, yields⟩ => .pure ?_
        exact ⟨quasi, more, by
          rw [same], text.keep (yields.keeps.weaken (Nat.zero_le _)), yields.behind keeps⟩
      refine one.bind fun acc middle ⟨id, more, same, text, yields⟩ => ?_
      rw [same]
      have further := Nat.le_trans start yields.keeps.size
      refine (ih _ _ _ middle further).mono
        fun final after ⟨ids, others, texts, added, grown, written, left, later⟩ => ?_
      have text : Texts middle offset [id] [⟨cursor, max child.span.start cursor⟩] :=
        text.imp fun _ _ ⟨behind, node⟩ => ⟨Nat.le_trans start behind, node⟩
      refine ⟨id :: ids, more ++ others, ⟨cursor, max child.span.start cursor⟩ :: texts, ?_, ?_, ?_,
        fun stop => ?_, ?_⟩
      · rw [added, List.append_assoc, List.singleton_append]
      · rw [grown, List.append_assoc]
      · exact List.rel_append (text.keep (later.keeps.weaken (Nat.zero_le _))) written
      · rw [List.map_cons, gaps, left, List.cons_append]
      · exact yields.append later

/-- The node of a template, the texts and the expressions that it refers to, whatever its
substitutions are like. -/
theorem convertTemplate_fills (phrase : ParseTree) (before : Conversion) :
    Ensures (convertTemplate source (convert source levels) phrase) before fun id after =>
      ∃ quasis expressions,
        after.builder.get? id = some {
          kind := "TemplateLiteral", span := phrase.span, slots :=
            [("quasis", .nodes quasis), ("expressions", .nodes expressions)] } ∧
        Texts after (id + 1) quasis
          (gaps (phrase.span.stop - 1) (min (phrase.span.start + 1) phrase.span.stop)
            (phrase.substitutions.map ParseTree.span)) ∧
        Yields source levels (id + 1) before phrase.templateParts expressions after := by
  rw [convertTemplate_eq]
  let node : Node := { kind := "TemplateLiteral", span := phrase.span }
  let own := before.builder.size
  refine Ensures.bind (show Ensures (pushKind "TemplateLiteral" phrase) before fun id after =>
    id = own ∧ after = before.push node
    from ⟨rfl, rfl⟩) fun _ _ ⟨first, second⟩ => ?_
  subst first second
  have opened : own + 1 = (before.push node).builder.size := Builder.size_push.symm
  refine (splice_yields phrase.substitutions [] [] _ (own + 1) (before.push node)
    (Nat.le_of_eq opened)).bind
    fun (quasis, expressions, cursor) spliced ⟨ids, more, texts, added, grown, written,
      left, yields⟩ => ?_
  obtain rfl : quasis = ids := added
  obtain rfl : expressions = more := grown
  refine (pushQuasi_text cursor (phrase.span.stop - 1) spliced).bind
    fun quasi pushed ⟨text, keeps⟩ => ?_
  let filled : Conversion :=
    { pushed with builder := pushed.builder.setSlot own "quasis" (.nodes (quasis ++ [quasi])) }
  let final : Conversion :=
    { filled with builder := filled.builder.setSlot own "expressions" (.nodes expressions) }
  have found : pushed.builder.get? own = some node :=
    (yields.keeps.trans keeps).nodes own node (Nat.zero_le own) Builder.get?_push_self
  have still : Keeps (own + 1) pushed final :=
    (Keeps.setSlot pushed (Nat.lt_succ_self own) _ _).trans
      (Keeps.setSlot filled (Nat.lt_succ_self own) _ _)
  have behind : Keeps (own + 1) spliced final := (keeps.weaken (Nat.zero_le _)).trans still
  refine ⟨quasis ++ [quasi], expressions,
    Builder.get?_setSlot_self (Builder.get?_setSlot_self found), ?_, ?_⟩
  · rw [left]
    have last : Texts pushed (own + 1) [quasi] [⟨cursor, max (phrase.span.stop - 1) cursor⟩] :=
      text.imp fun _ _ ⟨late, node⟩ =>
        ⟨Nat.le_trans (Nat.le_of_eq opened) (Nat.le_trans yields.keeps.size late), node⟩
    exact List.rel_append (written.keep behind) (last.keep still)
  · exact ((yields.weaken (Nat.zero_le _)).ahead behind).behind (.push before node)

end

theorem convert_template (source : List Char) (levels : Nat) {phrase : ParseTree}
    (template : phrase.kind = "template_string") (before : Conversion) :
    Ensures (convert source (levels + 1) phrase) before fun result after => ∃ id quasis expressions,
      result = some id ∧
      after.builder.get? id = some {
        kind := "TemplateLiteral", span := phrase.span, slots :=
          [("quasis", .nodes quasis), ("expressions", .nodes expressions)] } ∧
      Texts after (id + 1) quasis
        (gaps (phrase.span.stop - 1) (min (phrase.span.start + 1) phrase.span.stop)
          (phrase.substitutions.map ParseTree.span)) ∧
      Yields source levels (id + 1) before phrase.templateParts expressions after := by
  have construct : convertPhrase source (convert source levels) phrase =
      some <$> convertTemplate source (convert source levels) phrase := by
    rw [convertPhrase, template]
    rfl
  show Ensures (counted (convertPhrase source (convert source levels) phrase)) before _
  rw [construct]
  refine .counted ((convertTemplate_fills phrase _).map
    fun id after ⟨quasis, expressions, found, written, yields⟩ => ?_)
  -- the count of phrases has no part in the nodes
  have entered : Keeps (id + 1) before { before with depth := before.depth + 1 } :=
    ⟨Nat.le_refl _, fun _ _ _ found => found⟩
  have left : Keeps (id + 1) after { after with depth := after.depth - 1 } :=
    ⟨Nat.le_refl _, fun _ _ _ found => found⟩
  exact ⟨id, quasis, expressions, rfl, found, written, (yields.ahead left).behind entered⟩

/-- The texts of a template and its substitutions by turns cover what the quotes enclose, every
place once. The template has one text more than substitutions, and its expressions are the nodes of
what stands in the substitutions, comments apart. -/
theorem template_is_tiled (source : List Char) (levels : Nat) {phrase : ParseTree}
    (template : phrase.kind = "template_string") (room : phrase.span.start + 2 ≤ phrase.span.stop)
    (inside : ∀ child ∈ phrase.substitutions, phrase.span.start + 1 ≤ child.span.start ∧
      child.span.start ≤ child.span.stop ∧
      child.span.stop ≤ phrase.span.stop - 1)
    (ordered : phrase.substitutions.Pairwise fun first second =>
      first.span.stop ≤ second.span.start) (before : Conversion) :
    let after := ((convert source (levels + 1) phrase).run before).2
    ∃ id quasis expressions texts, ((convert source (levels + 1) phrase).run before).1 = some id ∧
      after.builder.get? id = some {
        kind := "TemplateLiteral", span := phrase.span, slots :=
          [("quasis", .nodes quasis), ("expressions", .nodes expressions)] } ∧
      quasis.length = phrase.substitutions.length + 1 ∧
      quasis.map (fun quasi => (after.builder.get? quasi).map fun node => (node.kind, node.span)) =
        texts.map (fun span => some ("TemplateElement", span)) ∧
      Tiles (phrase.span.start + 1) (phrase.span.stop - 1)
        (byTurns texts (phrase.substitutions.map ParseTree.span)) ∧
      (∀ place, (byTurns texts (phrase.substitutions.map ParseTree.span)).countP
        (fun span => span.covers place) =
        if phrase.span.start + 1 ≤ place ∧ place < phrase.span.stop - 1 then 1 else 0) ∧
      Yields source levels (id + 1) before (phrase.substitutions.flatMap ParseTree.namedChildren)
        expressions after ∧
      expressions.Nodup ∧
      ∀ comment state, isCommentKind comment.kind →
        ((convert source levels comment).run state).1 = none := by
  intro after
  obtain ⟨id, quasis, expressions, made, found, written, yields⟩ :=
    convert_template source levels template before
  let texts := gaps (phrase.span.stop - 1) (phrase.span.start + 1)
    (phrase.substitutions.map ParseTree.span)
  have written : Texts after (id + 1) quasis texts := by
    rwa [Nat.min_eq_left (by omega)] at written
  have tiles : Tiles (phrase.span.start + 1) (phrase.span.stop - 1)
      (byTurns texts (phrase.substitutions.map ParseTree.span)) := by
    refine Tree.tiles_gaps (by omega) (fun span member => ?_) (List.pairwise_map.mpr ordered)
    obtain ⟨child, listed, rfl⟩ := List.mem_map.mp member
    exact inside child listed
  refine ⟨id, quasis, expressions, texts, made, found, ?_, written.map_eq, tiles,
    tiles.countP_covers, yields, ?_,
    fun comment state kind => convert_comment source levels kind state⟩
  · rw [written.length_eq, Tree.length_gaps, List.length_map]
  · exact yields.ordered.2.imp Nat.ne_of_lt

/-- A template of a text, two substitutions next to each other, the second with a comment, and
another text. -/
def adjacentSubstitutions : ParseTree :=
  .mk none "template_string" true ⟨0, 17⟩ [
    .mk none "string_fragment" true ⟨1, 2⟩ [],
    .mk none "template_substitution" true ⟨2, 6⟩ [.mk none "identifier" true ⟨4, 5⟩ []],
    .mk none "template_substitution" true ⟨6, 15⟩ [.mk none "comment" true ⟨8, 13⟩ [],
      .mk none "identifier" true ⟨13, 14⟩ []],
    .mk none "string_fragment" true ⟨15, 16⟩ []]

theorem template_is_tiled_adjacent :
    let source := "`a$\x7bx\x7d$\x7b/*c*/y\x7db`".toList
    let after := ((convert source (1 + 1) adjacentSubstitutions).run {}).2
    after.builder.nodes.toList.map (fun node => (node.kind, node.span)) =
      [("TemplateLiteral", ⟨0, 17⟩), ("TemplateElement", ⟨1, 2⟩), ("Identifier", ⟨4, 5⟩),
        ("TemplateElement", ⟨6, 6⟩), ("Block", ⟨8, 13⟩), ("Identifier", ⟨13, 14⟩),
        ("TemplateElement", ⟨15, 16⟩)] ∧
    ∃ id quasis expressions texts,
      ((convert source (1 + 1) adjacentSubstitutions).run {}).1 = some id ∧
      after.builder.get? id = some {
        kind := "TemplateLiteral", span := ⟨0, 17⟩, slots :=
          [("quasis", .nodes quasis), ("expressions", .nodes expressions)] } ∧
      quasis.length = 3 ∧
      quasis.map (fun quasi => (after.builder.get? quasi).map fun node => (node.kind, node.span)) =
        texts.map (fun span => some ("TemplateElement", span)) ∧
      Tiles 1 16 (byTurns texts [⟨2, 6⟩, ⟨6, 15⟩]) ∧ expressions.Nodup := by
  intro source after
  obtain ⟨id, quasis, expressions, texts, made, found, count, written, tiles, _, _, once, _⟩ :=
    @template_is_tiled source 1 adjacentSubstitutions rfl (by decide) (by decide +kernel)
      (by decide +kernel) {}
  exact ⟨by decide +kernel, id, quasis, expressions, texts, made, found, count, written, tiles, once⟩

end Spellspan.Parse
