import Mathlib
import Spellspan.Proofs.LiftedComments

/-!
A construct converts the parts of its phrase in their order, whatever the conversion of a part does.
All that it does besides leaves the count of phrases, the problems and the spans of nodes as they
are.
-/
set_option autoImplicit false

namespace Spellspan.Parse

open Spellspan.Tree (NodeId NodeValue Node Slot Span)
open ParseTree (items specifierNames clauseNames)

/-! ## Steps that convert nothing -/

/-- A step with no part in the count of phrases and in the problems. Nodes keep their spans. -/
structure Calm {α : Type} (step : Convert α) : Prop where
  depth : ∀ before, (step.run before).2.depth = before.depth
  problems : ∀ before, (step.run before).2.problems = before.problems
  kept : ∀ before, before.spans <+: (step.run before).2.spans

namespace Calm

variable {α β γ : Type}

theorem pure (value : α) : Calm (Pure.pure value : Convert α) :=
  ⟨fun _ => rfl, fun _ => rfl, fun _ => List.prefix_refl _⟩

theorem bind {step : Convert α} {next : α → Convert β} (first : Calm step)
    (later : ∀ value, Calm (next value)) :
    Calm (step >>= next) where
  depth before := ((later _).depth _).trans (first.depth before)
  problems before := ((later _).problems _).trans (first.problems before)
  kept before := (first.kept before).trans ((later _).kept _)

theorem ite {condition : Prop} [Decidable condition] {first second : Convert α} (yes : Calm first)
    (no : Calm second) :
    Calm (if condition then first else second) := by
  split
  · exact yes
  · exact no

theorem forM {items : List γ} {step : γ → Convert Unit} (each : ∀ item, Calm (step item)) :
    Calm (items.forM step) := by
  induction items with
  | nil => exact .pure ()
  | cons item rest ih =>
      rw [List.forM_eq_forM, List.forM_cons]
      exact (each item).bind fun _ => ih

end Calm

theorem pushNode_calm (node : Node) : Calm (pushNode node) :=
  ⟨fun _ => rfl, fun _ => rfl, fun before => (pushNode_lifts node before).kept⟩

theorem pushKind_calm (kind : String) (phrase : ParseTree) : Calm (pushKind kind phrase) :=
  pushNode_calm _

theorem setSlot_calm (id : NodeId) (name : String) (slot : Slot) : Calm (setSlot id name slot) :=
  ⟨fun _ => rfl, fun _ => rfl, fun before => (setSlot_lifts id name slot before).kept⟩

theorem applyDraft_calm (draft : Draft) (id : NodeId) : Calm (applyDraft draft id) :=
  ⟨fun _ => rfl, fun _ => rfl, fun before => (applyDraft_lifts draft id before).kept⟩

theorem noteKind_calm (kind : String) (slots : List String) : Calm (noteKind kind slots) :=
  ⟨fun _ => rfl, fun _ => rfl, fun before => (noteKind_lifts kind slots before).kept⟩

theorem markElementName_calm (id : NodeId) : Calm (markElementName id) :=
  ⟨fun _ => rfl, fun _ => rfl, fun before => (markElementName_lifts id before).kept⟩

theorem finishMapped_calm (kind : String) (id : NodeId) : Calm (finishMapped kind id) := by
  refine .ite (setSlot_calm _ _ _) (.ite (setSlot_calm _ _ _) (.ite ?_ (.pure ())))
  refine Calm.bind ⟨fun _ => rfl, fun _ => rfl, fun _ => List.prefix_refl _⟩ fun state => ?_
  split
  · exact markElementName_calm _
  · exact .pure ()

theorem liftComment_calm (source : List Char) (phrase : ParseTree) :
    Calm (liftComment source phrase) :=
  ⟨fun _ => rfl, fun _ => rfl, fun before => (liftComment_lifts source phrase before).kept⟩

theorem liftNestedComments_calm (source : List Char) (phrase : ParseTree) :
    Calm (liftNestedComments source phrase) :=
  .forM (liftComment_calm source)

theorem leaveOut_calm (source : List Char) (draft : Draft) (child : ParseTree) :
    Calm (leaveOut source draft child) :=
  (liftNestedComments_calm source child).bind fun _ => .pure draft

theorem convertShorthand_calm (source : List Char) (phrase : ParseTree) :
    Calm (convertShorthand source phrase) :=
  (pushKind_calm _ _).bind fun _ => (pushNode_calm _).bind fun _ => (pushNode_calm _).bind fun _ =>
    (setSlot_calm _ _ _).bind fun _ => (setSlot_calm _ _ _).bind fun _ =>
      (setSlot_calm _ _ _).bind fun _ => .pure _

theorem convertLocal_calm (source : List Char) (kind : String) (phrase name : ParseTree) :
    Calm (convertLocal source kind phrase name) :=
  (pushKind_calm _ _).bind fun _ => (pushNode_calm _).bind fun _ =>
    (setSlot_calm _ _ _).bind fun _ => .pure _

/-! ## Steps that convert some phrases -/

/-- A construct, given the conversion of phrases, converts these phrases in this order and is calm
in between. -/
inductive Converts : {α : Type} → ((ParseTree → Convert (Option NodeId)) → Convert α) →
    List ParseTree → Prop where
  | own {α : Type} {step : Convert α} (calm : Calm step) : Converts (fun _ => step) []
  | part (phrase : ParseTree) : Converts (fun descend => descend phrase) [phrase]
  | bind {α β : Type} {first : (ParseTree → Convert (Option NodeId)) → Convert α}
      {next : α → (ParseTree → Convert (Option NodeId)) → Convert β} {phrases more : List ParseTree}
      (earlier : Converts first phrases) (later : ∀ value, Converts (next value) more) :
      Converts (fun descend => first descend >>= fun value => next value descend) (phrases ++ more)

namespace Converts

variable {α β γ : Type} {phrases : List ParseTree}

theorem pure (value : α) : Converts (fun _ => Pure.pure value) [] :=
  own (.pure value)

theorem after {step : Convert α} {next : α → (ParseTree → Convert (Option NodeId)) → Convert β}
    (calm : Calm step) (later : ∀ value, Converts (next value) phrases) :
    Converts (fun descend => step >>= fun value => next value descend) phrases :=
  bind (own calm) later

theorem before {first : (ParseTree → Convert (Option NodeId)) → Convert α} {next : α → Convert β}
    (earlier : Converts first phrases) (calm : ∀ value, Calm (next value)) :
    Converts (fun descend => first descend >>= next) phrases :=
  List.append_nil phrases ▸ bind earlier fun value => own (calm value)

theorem map {step : (ParseTree → Convert (Option NodeId)) → Convert α} (change : α → β)
    (converts : Converts step phrases) :
    Converts (fun descend => change <$> step descend) phrases :=
  converts.before fun value => .pure (change value)

theorem ite {condition : Prop} [Decidable condition]
    {first second : (ParseTree → Convert (Option NodeId)) → Convert α}
    (yes : condition → Converts first phrases) (no : ¬ condition → Converts second phrases) :
    Converts (fun descend => if condition then first descend else second descend) phrases := by
  split
  · next holds => exact yes holds
  · next fails => exact no fails

theorem foldlM {items : List γ} {step : (ParseTree → Convert (Option NodeId)) → β → γ → Convert β}
    {each : γ → List ParseTree} (initial : β)
    (converts : ∀ item ∈ items, ∀ value,
      Converts (fun descend => step descend value item) (each item)) :
    Converts (fun descend => items.foldlM (step descend) initial) (items.flatMap each) := by
  induction items generalizing initial with
  | nil => exact .pure initial
  | cons item rest ih =>
      simp only [List.foldlM_cons, List.flatMap_cons]
      exact (converts item List.mem_cons_self initial).bind fun value =>
        ih value fun item member => converts item (List.mem_cons_of_mem _ member)

theorem singly {items : List ParseTree}
    {step : (ParseTree → Convert (Option NodeId)) → β → ParseTree → Convert β} (initial : β)
    (converts : ∀ item ∈ items, ∀ value, Converts (fun descend => step descend value item) [item]) :
    Converts (fun descend => items.foldlM (step descend) initial) items := by
  have each := foldlM initial converts
  rwa [List.flatMap_singleton'] at each

/-- A construct that opens a node, goes through phrases and finishes. -/
theorem overPhrases {items : List γ} {each : γ → List ParseTree} {kind : String}
    {phrase : ParseTree} {initial : β}
    {step : (ParseTree → Convert (Option NodeId)) → NodeId → β → γ → Convert β}
    {finish : NodeId → β → Convert α}
    (converts : ∀ id, ∀ item ∈ items, ∀ value,
      Converts (fun descend => step descend id value item) (each item))
    (calm : ∀ id value, Calm (finish id value)) :
    Converts (fun descend => do
      let id ← pushKind kind phrase
      let value ← items.foldlM (step descend id) initial
      finish id value) (items.flatMap each) :=
  after (pushKind_calm _ _) fun id => (foldlM initial (converts id)).before (calm id)

end Converts

/-! ## Constructs -/

section
variable (source : List Char)

theorem addOne_converts (draft : Draft) (name : String) (child : ParseTree) (many : Bool) :
    Converts (fun descend => do
      match ← descend child with
      | some id => pure (Draft.push name id many draft)
      | none => pure draft) [child] := by
  refine (Converts.part child).before fun result => ?_
  cases result with
  | none => exact .pure _
  | some id => exact .pure _

theorem addChild_converts (draft : Draft) (name : String) (child : ParseTree) (many : Bool) :
    Converts (fun descend => addChild descend draft name child many) child.items := by
  refine .ite (fun wrapper => ?_) fun single => ?_
  · rw [items, if_pos wrapper]
    exact .singly _ fun item _ draft => addOne_converts draft name item true
  · rw [items, if_neg single]
    exact addOne_converts draft name child many

theorem setConverted_converts (id : NodeId) (slot : String) (child : Option ParseTree) :
    Converts (fun descend => setConverted descend id slot child) child.toList := by
  cases child with
  | none => exact .pure ()
  | some child =>
      refine (Converts.part child).before fun result => ?_
      cases result with
      | none => exact .pure ()
      | some converted => exact setSlot_calm _ _ _

theorem convertSpecifier_converts (kind nameSlot aliasSlot : String) (phrase : ParseTree) :
    Converts (fun descend => convertSpecifier descend kind nameSlot aliasSlot phrase)
      phrase.specifierNames :=
  .after (pushKind_calm _ _) fun id => (setConverted_converts id nameSlot _).bind fun _ =>
    (setConverted_converts id aliasSlot _).before fun _ => .pure id

theorem addSpecifiers_converts (kind specifierKind nameSlot aliasSlot : String) (draft : Draft)
    (clause : ParseTree) :
    Converts (fun descend =>
      addSpecifiers source descend kind specifierKind nameSlot aliasSlot draft clause)
      (clause.clauseNames kind) := by
  refine .foldlM draft fun child _ draft => .ite (fun specifier => ?_) fun other => ?_
  · rw [if_pos specifier]
    exact (convertSpecifier_converts specifierKind nameSlot aliasSlot child).before fun _ => .pure _
  · rw [if_neg other]
    exact .own (leaveOut_calm source draft child)

theorem addClausePart_converts (draft : Draft) (part : ParseTree) :
    Converts (fun descend => addClausePart source descend draft part)
      (if part.kind = "named_imports" then part.clauseNames "import_specifier" else []) := by
  refine .ite (fun name => ?_) fun _ => .ite (fun space => ?_) fun _ =>
    .ite (fun clause => ?_) fun other => ?_
  · rw [name]
    exact .own ((convertLocal_calm _ _ _ _).bind fun _ => .pure _)
  · rw [space]
    split
    · exact .own ((convertLocal_calm _ _ _ _).bind fun _ => .pure _)
    · exact .pure _
  · rw [if_pos clause]
    exact addSpecifiers_converts source _ _ _ _ draft part
  · rw [if_neg other]
    exact .own (leaveOut_calm source draft part)

theorem convertImport_converts (phrase : ParseTree) :
    Converts (fun descend => convertImport source descend phrase) phrase.importParts := by
  refine .overPhrases (fun id child _ draft => ?_) fun id draft =>
    (applyDraft_calm _ _).bind fun _ => .pure id
  refine .ite (fun comment => ?_) fun plain => .ite (fun clause => ?_) fun other =>
    .ite (fun inSource => ?_) fun elsewhere => ?_
  · rw [if_pos comment]
    exact .own ((liftComment_calm _ _).bind fun _ => .pure _)
  · rw [if_neg plain, if_pos clause]
    exact .foldlM draft fun part _ draft => addClausePart_converts source draft part
  · rw [if_neg plain, if_neg other, if_pos inSource]
    exact addChild_converts draft _ child _
  · rw [if_neg plain, if_neg other, if_neg elsewhere]
    exact .own (leaveOut_calm source draft child)

theorem convertExport_converts (phrase : ParseTree) :
    Converts (fun descend => convertExport source descend phrase) phrase.exportParts := by
  refine .overPhrases (fun id child _ draft => ?_) fun id draft =>
    (applyDraft_calm _ _).bind fun _ => .pure id
  refine .ite (fun comment => ?_) fun plain => .ite (fun clause => ?_) fun noClause =>
    .ite (fun space => ?_) fun noSpace => ?_
  · rw [if_pos comment]
    exact .own ((liftComment_calm _ _).bind fun _ => .pure _)
  · rw [if_neg plain, if_pos clause]
    exact addSpecifiers_converts source _ _ _ _ _ child
  · rw [if_neg plain, if_neg noClause, if_pos space]
    exact .foldlM draft fun name _ draft => addChild_converts draft _ name _
  rw [if_neg plain, if_neg noClause, if_neg noSpace]
  refine .ite (fun inSource => ?_) fun noSource => .ite (fun declared => ?_) fun elsewhere => ?_
  · rw [if_pos inSource]
    exact addChild_converts draft _ child _
  · rw [if_neg noSource, if_pos declared]
    exact addChild_converts draft _ child _
  · rw [if_neg noSource, if_neg elsewhere]
    exact .own (leaveOut_calm source draft child)

/-- The arguments of a module call, from some position on: no more than two are converted. -/
theorem moduleArguments_converts (arguments : List ParseTree) (draft : Draft) (position : Nat) :
    Converts (fun descend => arguments.foldlM (fun (draft, position) child =>
      if child.kind = "comment" then do
        liftComment source child
        pure (draft, position)
      else do
        let draft ←
          if position = 0 then addChild descend draft "source" child false
          else if position = 1 then addChild descend draft "options" child false
          else leaveOut source draft child
        pure (draft, position + 1)) (draft, position))
      (((arguments.filter fun part => part.kind != "comment").take (2 - position)).flatMap
        items) := by
  induction arguments generalizing draft position with
  | nil =>
      rw [List.filter_nil, List.take_nil]
      exact .pure _
  | cons child rest ih =>
      by_cases comment : child.kind = "comment"
      · simp only [List.foldlM_cons, comment, if_true, bind_assoc, pure_bind]
        rw [List.filter_cons_of_neg (by simp [comment])]
        exact .after (liftComment_calm source child) fun _ => ih draft position
      · simp only [List.foldlM_cons, comment, if_false]
        rw [List.filter_cons_of_pos (by simpa using comment)]
        -- The position after the step is known only once the cases are told apart.
        match position with
        | 0 =>
            simp only [if_true, bind_assoc, pure_bind]
            exact (addChild_converts draft _ child _).bind fun draft => ih draft 1
        | 1 =>
            simp only [Nat.one_ne_zero, if_true, if_false, bind_assoc, pure_bind]
            exact (addChild_converts draft _ child _).bind fun draft => ih draft 2
        | position + 2 =>
            simp only [show position +
              2 ≠ 0 by omega, show position + 2 ≠ 1 by omega, if_false, bind_assoc, pure_bind]
            have none : ∀ phrases : List ParseTree, phrases.take (2 - (position + 2)) = [] :=
                fun phrases => by
              rw [Nat.sub_eq_zero_of_le (by omega), List.take_zero]
            have later := fun draft => ih draft (position + 3)
            rw [Nat.sub_eq_zero_of_le (by omega), List.take_zero] at later
            rw [none]
            exact .after (leaveOut_calm source draft child) later

theorem convertModuleCall_converts (phrase : ParseTree) :
    Converts (fun descend => convertModuleCall source descend phrase) phrase.moduleParts :=
  .after (pushKind_calm _ _) fun id => (moduleArguments_converts source _ _ 0).before fun _ =>
    (applyDraft_calm _ _).bind fun _ => .pure id

theorem convertCall_converts (phrase : ParseTree)
    (plain : (phrase.childIn? "function").map ParseTree.kind ≠ some "import") :
    Converts (fun descend => convertCall source descend phrase)
      (phrase.fieldParts ["function", "arguments"]) := by
  simp only [convertCall, if_neg plain]
  refine .overPhrases (fun id child _ draft => ?_) fun id draft =>
    (applyDraft_calm _ _).bind fun _ => .pure id
  refine .ite (fun callee => ?_) fun noCallee => .ite (fun arguments => ?_) fun elsewhere => ?_
  · have taken : child.field.any ["function", "arguments"].contains := by simp [callee]
    rw [if_pos taken]
    exact addChild_converts draft _ child _
  · have taken : child.field.any ["function", "arguments"].contains := by simp [arguments]
    rw [if_pos taken]
    exact .ite (fun _ => addChild_converts draft _ child _)
      fun _ => addChild_converts draft _ child _
  · rw [if_neg (by cases field : child.field <;> simp_all)]
    exact .own (leaveOut_calm source draft child)

theorem convertMethod_converts (phrase : ParseTree) :
    Converts (fun descend => convertMethod source descend phrase)
      (phrase.fieldParts ["name", "parameters", "body"]) := by
  refine .after (pushKind_calm _ _) fun id => .after (pushKind_calm _ _) fun function => ?_
  refine (Converts.foldlM _ fun child _ drafts => ?_).before fun drafts => ?_
  · obtain ⟨draft, inner⟩ := drafts
    refine .ite (fun name => ?_) fun noName => .ite (fun parameters => ?_) fun noParameters =>
      .ite (fun body => ?_) fun noBody => ?_
    · rw [if_pos (by simp [name])]
      exact (addChild_converts draft _ child _).before fun _ => .pure _
    · rw [if_pos (by simp [parameters])]
      exact (addChild_converts inner _ child _).before fun _ => .pure _
    · rw [if_pos (by simp [body])]
      exact (addChild_converts inner _ child _).before fun _ => .pure _
    · rw [if_neg (by cases field : child.field <;> simp_all)]
      exact .own ((liftNestedComments_calm source child).bind fun _ => .pure _)
  · exact (applyDraft_calm _ _).bind fun _ => (applyDraft_calm _ _).bind fun _ => .pure id

theorem plainChildren_converts {β : Type}
    {step : (ParseTree → Convert (Option NodeId)) → β → ParseTree → Convert β}
    (phrases : List ParseTree) (initial : β)
    (comment : ∀ child value, child.kind = "comment" →
      Converts (fun descend => step descend value child) [])
    (plain : ∀ child value, child.kind ≠ "comment" →
      Converts (fun descend => step descend value child) [child]) :
    Converts (fun descend => phrases.foldlM (step descend) initial) (phrases.filter fun child =>
      child.kind != "comment") := by
  have kept : phrases.filter (fun child => child.kind != "comment") =
      phrases.flatMap fun child => if child.kind = "comment" then [] else [child] := by
    induction phrases with
    | nil => rfl
    | cons child rest ih =>
        rw [List.filter_cons, List.flatMap_cons, ih]
        by_cases comment : child.kind = "comment" <;> simp [comment]
  rw [kept]
  refine .foldlM initial fun child _ value => ?_
  by_cases same : child.kind = "comment"
  · rw [if_pos same]
    exact comment child value same
  · rw [if_neg same]
    exact plain child value same

theorem convertAttribute_converts (phrase : ParseTree) :
    Converts (fun descend => convertAttribute source descend phrase)
      (phrase.namedChildren.filter fun child => child.kind != "comment") := by
  refine .after (pushKind_calm _ _) fun id =>
    (plainChildren_converts _ _ (fun child position comment => ?_)
    fun child position plain => ?_).before fun _ => .pure id
  · simp only [if_pos comment]
    exact .own ((liftComment_calm _ _).bind fun _ => .pure _)
  · simp only [if_neg plain]
    refine (Converts.part child).before fun result => ?_
    split
    · exact (markElementName_calm _).bind fun _ => (setSlot_calm _ _ _).bind fun _ => .pure _
    · exact (setSlot_calm _ _ _).bind fun _ => .pure _
    · exact .pure _

theorem convertUnmapped_converts (phrase : ParseTree) :
    Converts (fun descend => convertUnmapped descend phrase)
      (phrase.namedChildren.flatMap items) := by
  refine .overPhrases (fun id child _ draft => ?_) fun id draft => ?_
  · split
    · exact addChild_converts draft _ child _
    · exact addChild_converts draft _ child _
  · exact (noteKind_calm _ _).bind fun _ => (applyDraft_calm _ _).bind fun _ => .pure id

theorem convertTransparent_converts (phrase : ParseTree) :
    Converts (fun descend => convertTransparent source descend phrase) phrase.transparentParts := by
  refine .ite (fun single => ?_) fun more => ?_
  · rw [ParseTree.transparentParts, if_pos single]
    refine plainChildren_converts _ _ (fun child converted comment => ?_)
      fun child converted plain => ?_
    · simp only [if_pos comment]
      exact .own ((liftComment_calm _ _).bind fun _ => .pure _)
    · simp only [if_neg plain]
      exact .part child
  · rw [ParseTree.transparentParts, if_neg more]
    exact (convertUnmapped_converts phrase).before fun _ => .pure _

theorem convertMapped_converts (phrase : ParseTree) (mapping : Mapping) :
    Converts (fun descend => convertMapped source descend phrase mapping)
      (phrase.mappedParts mapping) := by
  refine .overPhrases (fun id child _ draft => ?_) fun id draft => ?_
  · cases mapping.place? child.field with
    | none => exact .own (leaveOut_calm source draft child)
    | some place => exact addChild_converts draft _ child _
  · exact (applyDraft_calm _ _).bind fun _ => (finishMapped_calm _ _).bind fun _ => .pure id

theorem convertTemplate_converts (phrase : ParseTree) :
    Converts (fun descend => convertTemplate source descend phrase) phrase.templateParts := by
  refine .overPhrases (fun id child _ acc => ?_) fun id acc => ?_
  · obtain ⟨quasis, expressions, last⟩ := acc
    refine .after (pushNode_calm _) fun quasi => ?_
    refine (Converts.singly _ fun inner _ expressions => (Converts.part inner).before fun result =>
      ?_).before fun _ => .pure _
    cases result with
    | none => exact .pure _
    | some expression => exact .pure _
  · exact (pushNode_calm _).bind fun _ => (setSlot_calm _ _ _).bind fun _ =>
      (setSlot_calm _ _ _).bind fun _ => .pure id

theorem Construct.converts {phrase : ParseTree} {handling : ParseTree.Handling}
    {step : (ParseTree → Convert (Option NodeId)) → Convert (Option NodeId)}
    (construct : Construct source phrase step handling) : Converts step handling.converted := by
  cases construct with
  | comment => exact .own ((liftComment_calm source phrase).bind fun _ => .pure none)
  | firstLine => exact .pure none
  | leaf => exact .own ((pushNode_calm _).bind fun _ => .pure _)
  | shorthand => exact .own ((convertShorthand_calm source phrase).bind fun _ => .pure _)
  | template => exact (convertTemplate_converts source phrase).map some
  | imports => exact (convertImport_converts source phrase).map some
  | exports => exact (convertExport_converts source phrase).map some
  | moduleCall kind loads =>
      simp only [convertCall, if_pos loads]
      exact (convertModuleCall_converts source phrase).map some
  | call kind plain => exact (convertCall_converts source phrase plain).map some
  | method => exact (convertMethod_converts source phrase).map some
  | elementAttribute => exact (convertAttribute_converts source phrase).map some
  | transparent => exact convertTransparent_converts source phrase
  | mapped => exact (convertMapped_converts source phrase _).map some
  | unmapped => exact (convertUnmapped_converts phrase).map some

/-- A phrase is converted by way of its parts. -/
theorem convertPhrase_converts (phrase : ParseTree) :
    Converts (fun descend => convertPhrase source descend phrase) phrase.parts :=
  (convertPhrase_construct source phrase).converts source

end
end Spellspan.Parse
