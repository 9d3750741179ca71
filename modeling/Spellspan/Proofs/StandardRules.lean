import Mathlib
import Spellspan.Proofs.CandidateScopes
import Spellspan.Proofs.RuleVerdicts

/-!
What the rules of the switches come to when no further rules are written. A candidate is checked
when the switch of its kind is on, unless module names are left out and it is one: a string that
names a module, or an identifier that an import brings in. The rules for these outscore the switches
wherever they apply.
-/
set_option autoImplicit false

namespace Spellspan.Scope

/-! ## The rules as they are written -/

def switchPatterns (options : CheckOptions) : List String :=
  (if options.checkComments then ["Comment"] else []) ++
  (if options.checkStrings then ["Literal.string"] else []) ++
  (if options.checkStringTemplates then ["TemplateElement"] else []) ++
  (if options.checkIdentifiers then ["Identifier", "PrivateIdentifier"] else []) ++
  (if options.checkElementText then ["JSXText"] else [])

def modulePatterns : List String := [
  "ImportDeclaration[source] Literal",
  "ExportAllDeclaration[source] Literal",
  "ExportNamedDeclaration[source] Literal",
  "ImportExpression[source] Literal",
  "CallExpression.require[arguments] Literal",
  "ImportSpecifier Identifier",
  "ImportDefaultSpecifier Identifier",
  "ImportNamespaceSpecifier Identifier"]

/-- Every pattern of the switches and of module names can be read, and gives its rule. -/
theorem parse_standardPatterns (options : CheckOptions) :
    (switchPatterns options).map (fun text => (ScopePattern.parse text).map (ScopeRule.mk · true)) =
      (switchRules options).map .ok ∧
    modulePatterns.map (fun text => (ScopePattern.parse text).map (ScopeRule.mk · false)) =
      moduleRules.map .ok := by
  have comment : ScopePattern.parse "Comment" = .ok ⟨[.label ["Comment"] none]⟩ := by cbv
  have string : ScopePattern.parse "Literal.string" =
    .ok ⟨[.label ["Literal", "string"] none]⟩ := by cbv
  have template : ScopePattern.parse "TemplateElement" =
    .ok ⟨[.label ["TemplateElement"] none]⟩ := by cbv
  have identifier : ScopePattern.parse "Identifier" = .ok ⟨[.label ["Identifier"] none]⟩ := by cbv
  have hidden : ScopePattern.parse "PrivateIdentifier" =
    .ok ⟨[.label ["PrivateIdentifier"] none]⟩ := by cbv
  have text : ScopePattern.parse "JSXText" = .ok ⟨[.label ["JSXText"] none]⟩ := by cbv
  constructor
  · simp only [switchPatterns, switchRules, List.map_append, apply_ite (List.map _), List.map_cons,
      List.map_nil, comment, string, template, identifier, hidden, text]
    rfl
  · cbv

end Spellspan.Scope

namespace Spellspan.Select

open Scope (Decision RuleSet ScopePath ScopePattern ScopeRule StartsWith excludeIdentifierIn
    excludeLiteralIn includeLabel label
  moduleRules switchRules)
open Spellspan.Tree (Node NodeId Path Walker)

def firstComponent? (name : String) : Option String :=
  (Text.piecesOf '.' name).head?

theorem startsWith_singleton_iff {component name : String} : StartsWith [component] name ↔
    firstComponent? name = some component := by
  unfold StartsWith firstComponent?
  cases Text.piecesOf '.' name with
  | nil => simp
  | cons first rest => simp [eq_comm]

/-- Kinds of nodes that have the name of a module in the slot `source`. -/
def sourceKinds : List String :=
  ["ImportDeclaration", "ExportAllDeclaration", "ExportNamedDeclaration", "ImportExpression"]

def HoldsModuleName (walker : Walker) (path : Path) : Prop :=
  (∃ parent, walker.ComesThrough path parent "source" ∧
    ∃ kind ∈ sourceKinds, firstComponent? (label walker.tree parent) = some kind) ∨
  ∃ parent, walker.ComesThrough path parent "arguments" ∧
    StartsWith ["CallExpression", "require"] (label walker.tree parent)

def BelowSpecifier (walker : Walker) (path : Path) : Prop :=
  ∃ parent slot, walker.ComesThrough path parent slot ∧
    ∃ kind ∈ specifierKinds, firstComponent? (label walker.tree parent) = some kind

/-! ## The rules one by one -/

theorem mem_switchRules {options : CheckOptions} {rule : ScopeRule} :
    rule ∈ switchRules options ↔
      ∃ kind : CandidateKind, kind.isEnabled options = true ∧ ∃ components ∈ kind.included,
        includeLabel components = rule := by
  rw [CandidateKind.switchRules_eq, List.mem_flatMap]
  constructor
  · rintro ⟨kind, _, member⟩
    split at member
    · next enabled => exact ⟨kind, enabled, List.mem_map.mp member⟩
    · cases member
  · rintro ⟨kind, enabled, made⟩
    refine ⟨kind, kind.mem_all, ?_⟩
    rw [if_pos enabled]
    exact List.mem_map.mpr made

theorem moduleRules_eq :
    moduleRules = (sourceKinds.map fun kind => excludeLiteralIn [kind] "source") ++
      [excludeLiteralIn ["CallExpression", "require"] "arguments"] ++
        specifierKinds.map excludeIdentifierIn := rfl

theorem mem_rules_of_unwritten {options : CheckOptions} (unwritten : options.checkScope = [])
    {rule : ScopeRule} :
    rule ∈ (RuleSet.ofOptions options).rules ↔
      rule ∈ switchRules options ∨ options.ignoreImports = true ∧ rule ∈ moduleRules := by
  simp [RuleSet.ofOptions, unwritten, Scope.writtenRules]

theorem excludes_of_mem_moduleRules : ∀ rule ∈ moduleRules, rule.check = false := by
  decide

/-- A literal, a component of its parent and the slot weigh more than two components. -/
theorem lt_score_excludeLiteralIn {components : List String} {slot : String} {scope : ScopePath}
    (nonempty : components ≠ [])
    (applies : 0 < (excludeLiteralIn components slot).pattern.score scope) :
    16 < (excludeLiteralIn components slot).pattern.score scope := by
  have score := ScopePattern.score_labels_of_pos applies
  have some : 0 < components.length := List.length_pos_iff.mpr nonempty
  simp only [excludeLiteralIn] at score ⊢
  simp [Scope.componentWeight, Scope.keyWeight] at score
  omega

section
variable {walker : Walker} {path : Path} (reached : walker.Reaches path)
include reached

theorem excludeLiteralIn_applies_iff (components : List String) (slot : String) :
    0 < (excludeLiteralIn components slot).pattern.score (.ofPath (label walker.tree) path) ↔
      StartsWith ["Literal"] (label walker.tree path.node) ∧
        ∃ parent, walker.ComesThrough path parent slot ∧
          StartsWith components (label walker.tree parent) := by
  rw [excludeLiteralIn, ScopePattern.score_labels_pos_iff reached components (by simp) (some slot)]
  constructor
  · rintro ⟨begun, parent, name, comes, fits, keyed⟩
    obtain rfl : slot = name := by simpa using keyed
    exact ⟨begun, parent, comes, fits⟩
  · rintro ⟨begun, parent, comes, fits⟩
    exact ⟨begun, parent, slot, comes, fits, .inr rfl⟩

theorem excludeIdentifierIn_applies_iff (kind : String) :
    0 < (excludeIdentifierIn kind).pattern.score (.ofPath (label walker.tree) path) ↔
      StartsWith ["Identifier"] (label walker.tree path.node) ∧
        ∃ parent slot, walker.ComesThrough path parent slot ∧
          firstComponent? (label walker.tree parent) = some kind := by
  rw [excludeIdentifierIn, ScopePattern.score_labels_pos_iff reached [kind] (by simp) none]
  simp only [true_or, and_true, startsWith_singleton_iff]

/-- Some rule for module names applies exactly to the strings and identifiers in such places. -/
theorem moduleRule_applies_iff :
    (∃ rule ∈ moduleRules, 0 < rule.pattern.score (.ofPath (label walker.tree) path)) ↔
      StartsWith ["Literal"] (label walker.tree path.node) ∧ HoldsModuleName walker path ∨
      StartsWith ["Identifier"] (label walker.tree path.node) ∧ BelowSpecifier walker path := by
  simp only [moduleRules_eq, List.mem_append, List.mem_map, List.mem_singleton,
    or_and_right, exists_or, exists_exists_and_eq_and, exists_eq_left,
    excludeLiteralIn_applies_iff reached,
      excludeIdentifierIn_applies_iff reached,
    startsWith_singleton_iff]
  rw [HoldsModuleName, BelowSpecifier]
  grind

theorem outscores_of_moduleRule {rule : ScopeRule} (member : rule ∈ moduleRules)
    (applies : 0 < rule.pattern.score (.ofPath (label walker.tree) path)) {kind : CandidateKind}
    (listed : label walker.tree path.node ∈ kind.labels) {components : List String}
    (included : components ∈ kind.included) :
    (includeLabel components).pattern.score (.ofPath (label walker.tree) path) <
      rule.pattern.score (.ofPath (label walker.tree) path) := by
  have light : ∀ kind ∈ CandidateKind.all, ∀ components ∈ kind.included,
      components.length ≤ 2 ∧ (kind = .identifier → components.length = 1) := by decide
  obtain ⟨short, single⟩ := light kind kind.mem_all components included
  have includes : (includeLabel components).pattern.score (.ofPath (label walker.tree) path) ≤
      8 * components.length := by
    rw [includeLabel, ScopePattern.score_label]
    split
    · exact Nat.le_refl _
    · exact Nat.zero_le _
  simp only [moduleRules_eq, List.mem_append, List.mem_map, List.mem_singleton] at member
  rcases member with (⟨source, _, rfl⟩ | rfl) | ⟨specifier, _, rfl⟩
  · have score := lt_score_excludeLiteralIn (by simp) applies
    omega
  · have score := lt_score_excludeLiteralIn (by simp) applies
    omega
  · have only : kind = .identifier := by
      have begun := ((excludeIdentifierIn_applies_iff reached specifier).mp applies).1
      exact ((CandidateKind.included_iff listed .identifier).mp
        ⟨["Identifier"], by decide, begun⟩).symm
    have score := ScopePattern.score_labels_of_pos applies
    simp only [excludeIdentifierIn] at score ⊢
    simp [Scope.componentWeight] at score
    have one := single only
    omega

end

/-! ## The candidates that are checked -/

theorem startsWith_literal_iff {tree : SyntaxTree} {id : NodeId} {node : Node}
    {kind : CandidateKind} (found : tree.get? id = some node) (fits : kind.Fits node) :
    StartsWith ["Literal"] (label tree id) ↔ kind = .stringLiteral := by
  have table : ∀ kind ∈ CandidateKind.all, ∀ name ∈ kind.labels, StartsWith ["Literal"] name ↔
    kind = .stringLiteral := by decide
  exact table kind kind.mem_all _ (CandidateKind.label_mem_labels found fits)

theorem startsWith_identifier_iff {tree : SyntaxTree} {id : NodeId} {node : Node}
    {kind : CandidateKind} (found : tree.get? id = some node) (fits : kind.Fits node) :
    StartsWith ["Identifier"] (label tree id) ↔ node.kind = "Identifier" := by
  have table : ∀ kind ∈ CandidateKind.all, ∀ name ∈ kind.labels, StartsWith ["Identifier"] name ↔
    name = "Identifier" := by decide
  rw [table kind kind.mem_all _ (CandidateKind.label_mem_labels found fits),
    CandidateKind.label_of_fits found fits]
  constructor
  · intro named
    unfold Scope.nodeLabel Scope.literalLabel at named
    grind
  · intro same
    simp [Scope.nodeLabel, same]

/-- Without written rules, a candidate is checked when the switch of its kind is on, unless module
names are left out and it is a string that names a module or an identifier below a specifier of an
import. -/
theorem checked_iff_enabled_unless_moduleName (walker : Walker) (options : CheckOptions)
    (unwritten : options.checkScope = []) {path : Path} (visited : path ∈ walker.walk.visits)
    {node : Node} (found : walker.tree.get? path.node = some node) {kind : CandidateKind}
    (candidate : CandidateKind.ofNode? node = some kind) :
    (Decision.ofRules (RuleSet.ofOptions options).rules
      (ScopePath.ofPath (label walker.tree) path)).checked = true ↔
      kind.isEnabled options = true ∧
        ¬ (options.ignoreImports = true ∧
          (kind = .stringLiteral ∧ HoldsModuleName walker path ∨
            node.kind = "Identifier" ∧ BelowSpecifier walker path)) := by
  have reached := walker.walk_sound.2.1 path visited
  have fits := CandidateKind.fits_of_ofNode? candidate
  have listed := CandidateKind.label_mem_labels found fits
  have inSwitch : ∀ {rule}, rule ∈ switchRules options → rule.check = true := by
    intro rule member
    obtain ⟨_, _, components, _, rfl⟩ := mem_switchRules.mp member
    rfl
  rw [Decision.checked_iff_outscores, ← startsWith_literal_iff found fits,
    ← startsWith_identifier_iff found fits, ← moduleRule_applies_iff reached]
  simp only [mem_rules_of_unwritten unwritten]
  constructor
  · rintro ⟨rule, member, includes, applies, unopposed⟩
    have switched : rule ∈ switchRules options := by
      refine member.resolve_right fun excluded => ?_
      rw [excludes_of_mem_moduleRules rule excluded.2] at includes
      cases includes
    obtain ⟨other, enabled, components, included, rfl⟩ := mem_switchRules.mp switched
    rw [includeLabel, ScopePattern.score_label] at applies
    have begun : StartsWith components (label walker.tree path.node) := by
      by_contra unlike
      simp [unlike] at applies
    obtain rfl := (CandidateKind.included_iff listed other).mp ⟨components, included, begun⟩
    refine ⟨enabled, ?_⟩
    rintro ⟨ignoring, module, excluded, moduleApplies⟩
    have below := unopposed module (.inr ⟨ignoring, excluded⟩)
      (excludes_of_mem_moduleRules module excluded)
    have above := outscores_of_moduleRule reached excluded moduleApplies listed included
    omega
  · rintro ⟨enabled, kept⟩
    obtain ⟨components, included, begun⟩ := (CandidateKind.included_iff listed kind).mpr rfl
    have positive : 0 < (includeLabel components).pattern.score
        (.ofPath (label walker.tree) path) := by
      have nonempty : ∀ kind ∈ CandidateKind.all, ∀ components ∈ kind.included,
        0 < components.length := by decide
      rw [includeLabel, ScopePattern.score_label, if_pos begun]
      exact Nat.mul_pos (by decide) (nonempty kind kind.mem_all components included)
    refine ⟨includeLabel components,
      .inl (mem_switchRules.mpr ⟨kind, enabled, components, included, rfl⟩), rfl, positive, ?_⟩
    rintro other (switched | ⟨ignoring, excluded⟩) excludes
    · rw [inSwitch switched] at excludes
      cases excludes
    · have idle : ¬ 0 < other.pattern.score (.ofPath (label walker.tree) path) :=
        fun applies => kept ⟨ignoring, other, excluded, applies⟩
      omega

def moduleName : Node where
  kind := "Literal"
  span := ⟨8, 12⟩
  value := some (.string "fs")
  raw := some "'fs'"

def requiring : Walker where
  tree := {
    nodes := #[
      { kind := "CallExpression", span := ⟨0, 13⟩, slots :=
        [("callee", .node 1), ("arguments", .list [.node 2])] },
      { kind := "Identifier", span := ⟨0, 7⟩, value := some (.string "require") },
      moduleName]
    root := 0 }
  table := { registered :=
    [("CallExpression", ["callee", "arguments"]), ("Identifier", []), ("Literal", [])] }

def requiredName : Path :=
  requiring.rootPath.below ⟨"arguments", some 0⟩ 2

theorem visited_requiredName : requiredName ∈ requiring.walk.visits := by
  have visits : requiring.walk.visits =
    [requiring.rootPath, requiring.rootPath.below ⟨"callee", none⟩ 1, requiredName] := by cbv
  simp [visits]

theorem holdsModuleName_requiredName : HoldsModuleName requiring requiredName := by
  have reached := requiring.walk_sound.2.1 requiredName visited_requiredName
  exact .inr ⟨0, reached.comesThrough_iff.mpr ⟨rfl, rfl⟩, by decide⟩

theorem checked_iff_enabled_unless_moduleName_requiring :
    requiredName ∈ requiring.walk.visits ∧
      (Decision.ofRules (RuleSet.ofOptions {}).rules
        (.ofPath (label requiring.tree) requiredName)).checked = false ∧
      (Decision.ofRules (RuleSet.ofOptions { ignoreImports := false }).rules
        (.ofPath (label requiring.tree) requiredName)).checked = true := by
  have found : requiring.tree.get? requiredName.node = some moduleName := rfl
  have candidate : CandidateKind.ofNode? moduleName = some .stringLiteral := by decide
  refine ⟨visited_requiredName, ?_, ?_⟩
  · rw [← Bool.not_eq_true, checked_iff_enabled_unless_moduleName requiring {} rfl
      visited_requiredName found candidate]
    intro checked
    exact checked.2 ⟨rfl, .inl ⟨rfl, holdsModuleName_requiredName⟩⟩
  · rw [checked_iff_enabled_unless_moduleName requiring { ignoreImports := false } rfl
      visited_requiredName found candidate]
    exact ⟨rfl, fun ignoring => by cases ignoring.1⟩

end Spellspan.Select
