import Mathlib
import Spellspan.Parse.Conversion
import Spellspan.Proofs.ParseRows
import Spellspan.Tree.ChildTable

/-!
What becomes of the rows below a phrase. Each construct converts some of them, in an order that is
known from the parse alone, and searches what it leaves out. Names of specifiers are converted too,
and a list wrapper is no phrase of its own: its children are converted in its place. The constructs
are told apart once, so that what holds of each of them holds of every phrase.
-/
set_option autoImplicit false

namespace Spellspan.ParseTree

open Parse (Mapping listWrappers transparentKinds mappingFor? isCommentKind)

/-! ## The parts of a phrase -/

def leafKinds : List String :=
  ["string", "number", "regex", "true", "false", "null", "this", "super",
    "private_property_identifier", "shorthand_property_identifier",
    "shorthand_property_identifier_pattern", "jsx_text", "hash_bang_line"] ++ Parse.identifierKinds

/-- The phrases that are converted for a child: the children of a list wrapper, or the child. -/
def items (child : ParseTree) : List ParseTree :=
  if listWrappers.contains child.kind then child.namedChildren else [child]

/-- The names of a specifier. Without another name the first one is taken twice. -/
def specifierNames (specifier : ParseTree) : List ParseTree :=
  (specifier.childIn? "name").toList ++
    ((specifier.childIn? "alias").or (specifier.childIn? "name")).toList

def clauseNames (kind : String) (clause : ParseTree) : List ParseTree :=
  clause.namedChildren.flatMap fun child => if child.kind = kind then child.specifierNames else []

def importParts (phrase : ParseTree) : List ParseTree :=
  phrase.namedChildren.flatMap fun child =>
    if child.kind = "comment" then []
    else if child.kind = "import_clause" then
      child.namedChildren.flatMap fun part =>
        if part.kind = "named_imports" then part.clauseNames "import_specifier" else []
    else if child.field = some "source" then child.items
    else []

def importRest (phrase : ParseTree) : List ParseTree :=
  phrase.namedChildren.filter fun child =>
    child.kind == "import_clause" || child.field != some "source"

def exportParts (phrase : ParseTree) : List ParseTree :=
  phrase.namedChildren.flatMap fun child =>
    if child.kind = "comment" then []
    else if child.kind = "export_clause" then child.clauseNames "export_specifier"
    else if child.kind = "namespace_export" then child.namedChildren.flatMap items
    else if child.field = some "source" then child.items
    else if child.field = some "declaration" || child.field = some "value" then child.items
    else []

def exportRest (phrase : ParseTree) : List ParseTree :=
  phrase.namedChildren.filter fun child =>
    child.kind == "export_clause" ||
      !(child.kind == "namespace_export" || child.field == some "source" ||
        child.field == some "declaration" || child.field == some "value")

def moduleArguments (phrase : ParseTree) : List ParseTree :=
  (((phrase.childIn? "arguments").map namedChildren).getD []).filter fun part =>
    part.kind != "comment"

def moduleParts (phrase : ParseTree) : List ParseTree :=
  (phrase.moduleArguments.take 2).flatMap items

def fieldParts (fields : List String) (phrase : ParseTree) : List ParseTree :=
  phrase.namedChildren.flatMap fun child =>
    if child.field.any fields.contains then child.items else []

def fieldRest (fields : List String) (phrase : ParseTree) : List ParseTree :=
  phrase.namedChildren.filter fun child => !child.field.any fields.contains

def mappedParts (mapping : Mapping) (phrase : ParseTree) : List ParseTree :=
  phrase.namedChildren.flatMap fun child =>
    if (mapping.place? child.field).isSome then child.items else []

def mappedRest (mapping : Mapping) (phrase : ParseTree) : List ParseTree :=
  phrase.namedChildren.filter fun child => (mapping.place? child.field).isNone

def substitutions (template : ParseTree) : List ParseTree :=
  template.namedChildren.filter fun child => child.kind == "template_substitution"

def templateParts (template : ParseTree) : List ParseTree :=
  template.substitutions.flatMap namedChildren

def transparentParts (phrase : ParseTree) : List ParseTree :=
  let plain := phrase.namedChildren.filter fun child => child.kind != "comment"
  if plain.length = 1 then plain else phrase.namedChildren.flatMap items

/-- The rows below a phrase that are converted, in the order of conversion, and those that are
searched for comments only. -/
structure Handling where
  converted : List ParseTree := []
  searched : List ParseTree := []

def handling (phrase : ParseTree) : Handling :=
  if isCommentKind phrase.kind || leafKinds.contains phrase.kind then {}
  else if phrase.kind = "template_string" then { converted := phrase.templateParts }
  else if phrase.kind = "import_statement" then
    { converted := phrase.importParts, searched := phrase.importRest }
  else if phrase.kind = "export_statement" then
    { converted := phrase.exportParts, searched := phrase.exportRest }
  else if phrase.kind = "call_expression" then
    if (phrase.childIn? "function").map kind = some "import" then
      { converted := phrase.moduleParts, searched := phrase.moduleArguments.drop 2 }
    else
      { converted := phrase.fieldParts ["function", "arguments"]
        searched := phrase.fieldRest ["function", "arguments"] }
  else if phrase.kind = "method_definition" then
    { converted := phrase.fieldParts ["name", "parameters", "body"]
      searched := phrase.fieldRest ["name", "parameters", "body"] }
  else if phrase.kind = "jsx_attribute" then
    { converted := phrase.namedChildren.filter fun child => child.kind != "comment" }
  else if transparentKinds.contains phrase.kind then { converted := phrase.transparentParts }
  else
    match mappingFor? phrase.kind with
    | some mapping =>
      { converted := phrase.mappedParts mapping, searched := phrase.mappedRest mapping }
    | none => { converted := phrase.namedChildren.flatMap items }

def parts (phrase : ParseTree) : List ParseTree :=
  phrase.handling.converted

def leftOut (phrase : ParseTree) : List ParseTree :=
  phrase.handling.searched

def programParts (parse : ParseTree) : List ParseTree :=
  (parse.namedChildren.filter fun child => child.kind != "hash_bang_line").flatMap items

/-! ## Parts are rows below -/

section
variable {phrase child part : ParseTree}

theorem mem_rows_of_mem_namedChildren (member : child ∈ phrase.namedChildren)
    (below : part ∈ child.rows) : part ∈ phrase.rows :=
  rows_subset_of_mem (mem_children_of_mem_namedChildren member) below

theorem mem_rows_of_mem_items (member : part ∈ child.items) : part ∈ child.rows := by
  rw [items] at member
  split at member
  · exact mem_rows_of_mem_namedChildren member part.self_mem_rows
  · rw [List.mem_singleton.mp member]
    exact child.self_mem_rows

theorem mem_rows_of_mem_specifierNames (member : part ∈ phrase.specifierNames) :
    part ∈ phrase.rows := by
  have below : ∀ field, phrase.childIn? field = some part → part ∈ phrase.rows :=
    fun field found => rows_subset_of_mem (mem_children_of_childIn? found) part.self_mem_rows
  rcases List.mem_append.mp member with name | other
  · exact below "name" (Option.mem_toList.mp name)
  · rcases Option.or_eq_some_iff.mp (Option.mem_toList.mp other) with second | ⟨_, first⟩
    · exact below "alias" second
    · exact below "name" first

theorem mem_rows_of_mem_clauseNames {kind : String} (member : part ∈ phrase.clauseNames kind) :
    part ∈ phrase.rows := by
  obtain ⟨specifier, inside, name⟩ := List.mem_flatMap.mp member
  split at name
  · exact mem_rows_of_mem_namedChildren inside (mem_rows_of_mem_specifierNames name)
  · cases name

/-- What is taken from the named children of a phrase lies below the phrase. -/
theorem exists_child_of_mem_flatMap {take : ParseTree → List ParseTree}
    (member : part ∈ phrase.namedChildren.flatMap take)
    (inside : ∀ child ∈ phrase.namedChildren, part ∈ take child → part ∈ child.rows) :
    ∃ child ∈ phrase.children, part ∈ child.rows := by
  obtain ⟨child, listed, taken⟩ := List.mem_flatMap.mp member
  exact ⟨child, mem_children_of_mem_namedChildren listed, inside child listed taken⟩

theorem exists_child_of_mem_importParts (member : part ∈ phrase.importParts) :
    ∃ child ∈ phrase.children, part ∈ child.rows := by
  refine exists_child_of_mem_flatMap member fun child _ taken => ?_
  split at taken
  · cases taken
  · split at taken
    · obtain ⟨inner, inside, name⟩ := List.mem_flatMap.mp taken
      split at name
      · exact mem_rows_of_mem_namedChildren inside (mem_rows_of_mem_clauseNames name)
      · cases name
    · split at taken
      · exact mem_rows_of_mem_items taken
      · cases taken

theorem exists_child_of_mem_exportParts (member : part ∈ phrase.exportParts) :
    ∃ child ∈ phrase.children, part ∈ child.rows := by
  refine exists_child_of_mem_flatMap member fun child _ taken => ?_
  split at taken
  · cases taken
  · split at taken
    · exact mem_rows_of_mem_clauseNames taken
    · split at taken
      · obtain ⟨name, inside, item⟩ := List.mem_flatMap.mp taken
        exact mem_rows_of_mem_namedChildren inside (mem_rows_of_mem_items item)
      · split at taken
        · exact mem_rows_of_mem_items taken
        · split at taken
          · exact mem_rows_of_mem_items taken
          · cases taken

theorem mem_namedChildren_of_mem_moduleArguments (member : part ∈ phrase.moduleArguments) :
    ∃ arguments ∈ phrase.children, part ∈ arguments.namedChildren := by
  have listed := (List.mem_filter.mp member).1
  cases found : phrase.childIn? "arguments" with
  | none => simp [found] at listed
  | some arguments =>
      rw [found] at listed
      exact ⟨arguments, mem_children_of_childIn? found, listed⟩

theorem exists_child_of_mem_moduleParts (member : part ∈ phrase.moduleParts) :
    ∃ child ∈ phrase.children, part ∈ child.rows := by
  obtain ⟨argument, taken, item⟩ := List.mem_flatMap.mp member
  obtain ⟨arguments, inside, listed⟩ :=
    mem_namedChildren_of_mem_moduleArguments (List.mem_of_mem_take taken)
  exact ⟨arguments, inside, mem_rows_of_mem_namedChildren listed (mem_rows_of_mem_items item)⟩

theorem exists_child_of_mem_filter {keep : ParseTree → Bool}
    (member : part ∈ phrase.namedChildren.filter keep) :
    ∃ child ∈ phrase.children, part ∈ child.rows :=
  ⟨part, mem_children_of_mem_namedChildren (List.mem_filter.mp member).1, part.self_mem_rows⟩

theorem exists_child_of_mem_items (member : part ∈ phrase.namedChildren.flatMap items) :
    ∃ child ∈ phrase.children, part ∈ child.rows :=
  exists_child_of_mem_flatMap member fun _ _ taken => mem_rows_of_mem_items taken

theorem exists_child_of_mem_chosen {choose : ParseTree → Bool}
    (member : part ∈ phrase.namedChildren.flatMap fun child =>
      if choose child then child.items else []) :
    ∃ child ∈ phrase.children, part ∈ child.rows := by
  refine exists_child_of_mem_flatMap member fun child _ taken => ?_
  split at taken
  · exact mem_rows_of_mem_items taken
  · cases taken

theorem exists_child_of_mem_templateParts (member : part ∈ phrase.templateParts) :
    ∃ child ∈ phrase.children, part ∈ child.rows := by
  obtain ⟨substitution, listed, inner⟩ := List.mem_flatMap.mp member
  exact ⟨substitution, mem_children_of_mem_namedChildren (List.mem_filter.mp listed).1,
    mem_rows_of_mem_namedChildren inner part.self_mem_rows⟩

theorem exists_child_of_mem_transparentParts (member : part ∈ phrase.transparentParts) :
    ∃ child ∈ phrase.children, part ∈ child.rows := by
  rw [transparentParts] at member
  split at member
  · exact exists_child_of_mem_filter member
  · exact exists_child_of_mem_items member

theorem exists_child_of_mem_programParts (member : part ∈ phrase.programParts) :
    ∃ child ∈ phrase.children, part ∈ child.rows := by
  obtain ⟨child, listed, item⟩ := List.mem_flatMap.mp member
  exact ⟨child, mem_children_of_mem_namedChildren (List.mem_filter.mp listed).1,
    mem_rows_of_mem_items item⟩

end

end Spellspan.ParseTree

namespace Spellspan.Parse

open Spellspan.Tree (NodeId Node standardSlots)
open ParseTree (Handling leafKinds)

/-! ## Constructs -/

/-- How a phrase is converted, given the conversion of phrases, and what becomes of the rows below
it. -/
inductive Construct (source : List Char) (phrase : ParseTree) :
    ((ParseTree → Convert (Option NodeId)) → Convert (Option NodeId)) → Handling → Prop where
  | comment (comment : isCommentKind phrase.kind) :
      Construct source phrase (fun _ => do liftComment source phrase; pure none) {}
  | firstLine (kind : phrase.kind = "hash_bang_line") :
      Construct source phrase (fun _ => pure none) {}
  | leaf {node : Node} (listed : phrase.kind ∈ leafKinds)
      (standard : node.kind ∈ standardSlots.map Prod.fst) (covers : node.span = phrase.span)
      (bare : node.slots = []) :
      Construct source phrase (fun _ => some <$> pushNode node) {}
  | shorthand (listed : phrase.kind ∈ leafKinds) :
      Construct source phrase (fun _ => some <$> convertShorthand source phrase) {}
  | template (kind : phrase.kind = "template_string") :
      Construct source phrase (fun descend => some <$> convertTemplate source descend phrase)
        { converted := phrase.templateParts }
  | imports (kind : phrase.kind = "import_statement") :
      Construct source phrase (fun descend => some <$> convertImport source descend phrase)
        { converted := phrase.importParts, searched := phrase.importRest }
  | exports (kind : phrase.kind = "export_statement") :
      Construct source phrase (fun descend => some <$> convertExport source descend phrase)
        { converted := phrase.exportParts, searched := phrase.exportRest }
  | moduleCall (kind : phrase.kind = "call_expression")
      (loads : (phrase.childIn? "function").map ParseTree.kind = some "import") :
      Construct source phrase (fun descend => some <$> convertCall source descend phrase)
        { converted := phrase.moduleParts, searched := phrase.moduleArguments.drop 2 }
  | call (kind : phrase.kind = "call_expression")
      (plain : (phrase.childIn? "function").map ParseTree.kind ≠ some "import") :
      Construct source phrase (fun descend => some <$> convertCall source descend phrase)
        { converted := phrase.fieldParts ["function", "arguments"]
          searched := phrase.fieldRest ["function", "arguments"] }
  | method (kind : phrase.kind = "method_definition") :
      Construct source phrase (fun descend => some <$> convertMethod source descend phrase)
        { converted := phrase.fieldParts ["name", "parameters", "body"]
          searched := phrase.fieldRest ["name", "parameters", "body"] }
  | elementAttribute (kind : phrase.kind = "jsx_attribute") :
      Construct source phrase (fun descend => some <$> convertAttribute source descend phrase)
        { converted := phrase.namedChildren.filter fun child => child.kind != "comment" }
  | transparent (other : ¬ isCommentKind phrase.kind) :
      Construct source phrase (fun descend => convertTransparent source descend phrase)
        { converted := phrase.transparentParts }
  | mapped (other : ¬ isCommentKind phrase.kind) {mapping : Mapping}
      (found : mappingFor? phrase.kind = some mapping) :
      Construct source phrase (fun descend => some <$> convertMapped source descend phrase mapping)
        { converted := phrase.mappedParts mapping, searched := phrase.mappedRest mapping }
  | unmapped (other : ¬ isCommentKind phrase.kind) :
      Construct source phrase (fun descend => some <$> convertUnmapped descend phrase)
        { converted := phrase.namedChildren.flatMap ParseTree.items }

section
variable {source : List Char} {phrase : ParseTree}

theorem Construct.ite {condition : Prop} [Decidable condition] {handling : Handling}
    {first second : (ParseTree → Convert (Option NodeId)) → Convert (Option NodeId)}
    (yes : condition → Construct source phrase first handling)
    (no : ¬ condition → Construct source phrase second handling) :
    Construct source phrase (fun descend => if condition then first descend else second descend)
      handling := by
  split
  · next holds => exact yes holds
  · next fails => exact no fails

theorem handling_of_leaf (leaf : isCommentKind phrase.kind || leafKinds.contains phrase.kind) :
    phrase.handling = {} := by
  rw [ParseTree.handling, if_pos leaf]

/-- A phrase of a leaf kind becomes a node of a standard kind without slots. -/
theorem Construct.ofLeaf {node : Node} (listed : phrase.kind ∈ leafKinds)
    (standard : node.kind ∈ standardSlots.map Prod.fst) (covers : node.span = phrase.span)
    (bare : node.slots = []) :
    Construct source phrase (fun _ => some <$> pushNode node) phrase.handling := by
  rw [handling_of_leaf (by rw [List.contains_iff_mem.mpr listed, Bool.or_true])]
  exact .leaf listed standard covers bare

end

theorem convertPhrase_construct (source : List Char) (phrase : ParseTree) :
    Construct source phrase (fun descend => convertPhrase source descend phrase)
      phrase.handling := by
  unfold convertPhrase
  refine .ite (fun kind => ?_) fun noComment => ?_
  · rw [handling_of_leaf (by rw [kind]; rfl)]
    exact .comment kind
  refine .ite (fun kind => ?_) fun noFirstLine => ?_
  · rw [handling_of_leaf (by rw [kind]; decide)]
    exact .firstLine kind
  refine .ite (fun kind => .ofLeaf (by rw [kind]; decide) (show "Literal" ∈ _ by decide) rfl rfl)
    fun noString => ?_
  refine .ite (fun kind => ?_) fun noTemplate => ?_
  · have handling : phrase.handling = { converted := phrase.templateParts } := by
      rw [ParseTree.handling, kind]
      rfl
    exact handling ▸ .template kind
  refine .ite (fun kind => .ofLeaf (by rw [kind]; decide) (show "Literal" ∈ _ by decide) rfl rfl)
    fun noNumber => ?_
  refine .ite (fun kind => .ofLeaf (by rw [kind]; decide) (show "Literal" ∈ _ by decide) rfl rfl)
    fun noRegex => ?_
  refine .ite (fun kind => .ofLeaf ?_ (show "Literal" ∈ _ by decide) rfl rfl) fun noBoolean => ?_
  · rcases Bool.or_eq_true_iff.mp kind with yes | no
    · rw [decide_eq_true_iff.mp yes]; decide
    · rw [decide_eq_true_iff.mp no]; decide
  refine .ite (fun kind => .ofLeaf (by rw [kind]; decide) (show "Literal" ∈ _ by decide) rfl rfl)
    fun noNull => ?_
  refine .ite (fun kind => .ofLeaf (by rw [kind]; decide)
    (show "ThisExpression" ∈ _ by decide) rfl rfl) fun noThis => ?_
  refine .ite (fun kind => .ofLeaf (by rw [kind]; decide) (show "Super" ∈ _ by decide) rfl rfl)
    fun noSuper => ?_
  refine .ite (fun kind => .ofLeaf ?_ (show "Identifier" ∈ _ by decide) rfl rfl) fun noName => ?_
  · exact List.mem_append_right _ (List.contains_iff_mem.mp kind)
  refine .ite (fun kind => .ofLeaf (by rw [kind]; decide)
    (show "PrivateIdentifier" ∈ _ by decide) rfl rfl) fun noPrivate => ?_
  refine .ite (fun kind => ?_) fun noShorthand => ?_
  · have listed : phrase.kind ∈ leafKinds := by
      rcases Bool.or_eq_true_iff.mp kind with one | other
      · rw [decide_eq_true_iff.mp one]; decide
      · rw [decide_eq_true_iff.mp other]; decide
    rw [handling_of_leaf (by rw [List.contains_iff_mem.mpr listed, Bool.or_true])]
    exact .shorthand listed
  refine .ite (fun kind => .ofLeaf (by rw [kind]; decide) (show "JSXText" ∈ _ by decide) rfl rfl)
    fun noText => ?_
  have plain : ¬ (isCommentKind phrase.kind || leafKinds.contains phrase.kind) = true := by
    simp_all [leafKinds]
  rw [ParseTree.handling, if_neg plain, if_neg noTemplate]
  refine .ite (fun kind => ?_) fun noImport => ?_
  · rw [if_pos kind]
    exact .imports kind
  rw [if_neg noImport]
  refine .ite (fun kind => ?_) fun noExport => ?_
  · rw [if_pos kind]
    exact .exports kind
  rw [if_neg noExport]
  refine .ite (fun kind => ?_) fun noCall => ?_
  · rw [if_pos kind]
    by_cases loads : (phrase.childIn? "function").map ParseTree.kind = some "import"
    · rw [if_pos loads]
      exact .moduleCall kind loads
    · rw [if_neg loads]
      exact .call kind loads
  rw [if_neg noCall]
  refine .ite (fun kind => ?_) fun noMethod => ?_
  · rw [if_pos kind]
    exact .method kind
  rw [if_neg noMethod]
  refine .ite (fun kind => ?_) fun noAttribute => ?_
  · rw [if_pos kind]
    exact .elementAttribute kind
  rw [if_neg noAttribute]
  refine .ite (fun kind => ?_) fun solid => ?_
  · rw [if_pos kind]
    exact .transparent noComment
  rw [if_neg solid]
  cases found : mappingFor? phrase.kind with
  | some mapping => exact .mapped noComment found
  | none => exact .unmapped noComment

/-- What a construct converts, and what it searches, lies below a child of the phrase. -/
theorem Construct.below {source : List Char} {phrase : ParseTree} {handling : Handling}
    {step : (ParseTree → Convert (Option NodeId)) → Convert (Option NodeId)}
    (construct : Construct source phrase step handling) :
    (∀ part ∈ handling.converted, ∃ child ∈ phrase.children, part ∈ child.rows) ∧
      ∀ part ∈ handling.searched, ∃ child ∈ phrase.children, part ∈ child.rows := by
  have none : ∀ part ∈ ([] : List ParseTree), ∃ child ∈ phrase.children, part ∈ child.rows :=
    fun _ member => nomatch member
  cases construct with
  | comment | firstLine | leaf | shorthand => exact ⟨none, none⟩
  | template => exact ⟨fun _ => ParseTree.exists_child_of_mem_templateParts, none⟩
  | imports =>
      exact ⟨fun _ => ParseTree.exists_child_of_mem_importParts,
        fun _ => ParseTree.exists_child_of_mem_filter⟩
  | exports =>
      exact ⟨fun _ => ParseTree.exists_child_of_mem_exportParts,
        fun _ => ParseTree.exists_child_of_mem_filter⟩
  | moduleCall =>
      refine ⟨fun _ => ParseTree.exists_child_of_mem_moduleParts, fun part member => ?_⟩
      obtain ⟨arguments, inside, listed⟩ :=
        ParseTree.mem_namedChildren_of_mem_moduleArguments (List.mem_of_mem_drop member)
      exact ⟨arguments, inside,
        ParseTree.mem_rows_of_mem_namedChildren listed part.self_mem_rows⟩
  | call | method | mapped =>
      exact ⟨fun _ => ParseTree.exists_child_of_mem_chosen,
        fun _ => ParseTree.exists_child_of_mem_filter⟩
  | elementAttribute => exact ⟨fun _ => ParseTree.exists_child_of_mem_filter, none⟩
  | transparent => exact ⟨fun _ => ParseTree.exists_child_of_mem_transparentParts, none⟩
  | unmapped => exact ⟨fun _ => ParseTree.exists_child_of_mem_items, none⟩

end Spellspan.Parse

namespace Spellspan.ParseTree

theorem exists_child_of_mem_parts {phrase part : ParseTree} (member : part ∈ phrase.parts) :
    ∃ child ∈ phrase.children, part ∈ child.rows :=
  (Parse.convertPhrase_construct [] phrase).below.1 part member

theorem exists_child_of_mem_leftOut {phrase part : ParseTree} (member : part ∈ phrase.leftOut) :
    ∃ child ∈ phrase.children, part ∈ child.rows :=
  (Parse.convertPhrase_construct [] phrase).below.2 part member

end Spellspan.ParseTree
