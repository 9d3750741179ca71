import Mathlib
import Spellspan.Proofs.CheckedIssues
import Spellspan.Proofs.DecisionMemos
import Spellspan.Proofs.ScopeTexts

/-!
Decisions that are kept by the text of a scope. A candidate has the decision for the first candidate
whose scope has the same text. That is the decision for its own scope as long as no kind of node
spells the end of a step; a file in which one does shows the difference.
-/
set_option autoImplicit false

namespace Spellspan

/-! ## The candidates of a file -/

namespace Select

open Scope (Decision DecisionMemo RuleSet ScopePath ScopeRule firstAlike)
open Spellspan.Tree (ChildTable NodeId Walker)

/-- Candidates are finished with the answers that a memo gives to their scopes, one after the
other. -/
theorem decideAll_eq_zipWith (rules : List ScopeRule) (finish : Pending → Decision → Candidate)
    (memo : DecisionMemo) (pending : List Pending) :
    decideAll rules finish memo pending =
      List.zipWith finish pending (memo.decideEach rules (pending.map Pending.scope)).1 := by
  induction pending generalizing memo with
  | nil => rfl
  | cons entry rest ih =>
      simp only [decideAll, DecisionMemo.decideEach, List.map_cons, List.zipWith_cons_cons, ih]

theorem decideAll_eq_map (rules : List ScopeRule) (finish : Pending → Decision → Candidate)
    (pending : List Pending) :
    decideAll rules finish {} pending = pending.map fun entry =>
      finish entry (Decision.ofRules rules
        (firstAlike (pending.map Pending.scope) entry.scope)) := by
  obtain ⟨answers, _⟩ := (DecisionMemo.remembers_empty rules).decideEach DecisionMemo.tallies_empty
    (pending.map Pending.scope)
  rw [decideAll_eq_zipWith, answers, List.nil_append, List.map_map, List.zipWith_map_right,
    List.zipWith_self]
  rfl

def fileWalker (table : ChildTable) (file : SourceFile) : Walker where
  tree := file.tree
  table := fileTable table file

/-- The places of a file that could be checked, in the order of the walk. -/
def pendingOf (table : ChildTable) (file : SourceFile) : List Pending :=
  (fileWalk table file).visits.filterMap (Pending.ofPath? file.tree)

def importedIn (table : ChildTable) (file : SourceFile) : List String :=
  (fileWalk table file).visits.flatMap fun path => importedNames file.tree path.node

def keptDecision (options : CheckOptions) (table : ChildTable) (file : SourceFile) (entry : Pending)
    : Decision :=
  Decision.ofRules (RuleSet.ofOptions options).rules
    (firstAlike ((pendingOf table file).map Pending.scope) entry.scope)

theorem exists_firstAlike (options : CheckOptions) {table : ChildTable} {file : SourceFile}
    {entry : Pending} (listed : entry ∈ pendingOf table file) :
    ∃ first ∈ pendingOf table file,
      (pendingOf table file).find?
        (fun other => other.scope.render == entry.scope.render) = some first ∧
      first.scope.render = entry.scope.render ∧
      keptDecision options table file entry =
        Decision.ofRules (RuleSet.ofOptions options).rules first.scope := by
  have alike : ((pendingOf table file).find? fun other =>
      other.scope.render == entry.scope.render).isSome :=
    List.find?_isSome.mpr ⟨entry, listed, by simp⟩
  obtain ⟨first, found⟩ := Option.isSome_iff_exists.mp alike
  refine ⟨first, List.mem_of_find?_eq_some found, found, by simpa using List.find?_some found, ?_⟩
  have scopes : ((pendingOf table file).map Pending.scope).find?
    (fun other => other.render == entry.scope.render) =
      some first.scope := by
    rw [List.find?_map]
    exact congrArg (Option.map Pending.scope) found
  rw [keptDecision, firstAlike, scopes, Option.getD_some]

/-- Every place is decided by itself, given the places and the names of the whole file. -/
theorem select_eq (options : CheckOptions) (table : ChildTable) (file : SourceFile) :
    select options table file =
      match (fileWalk table file).cycle with
      | some cycle => .error cycle
      | none => .ok {
          candidates := (pendingOf table file).map fun entry =>
            entry.decide options file (importedIn table file)
              (keptDecision options table file entry)
          problems := (fileWalk table file).errors } := by
  have decided := decideAll_eq_map (RuleSet.ofOptions options).rules
    (Pending.decide options file (importedIn table file))
    (pendingOf table file)
  unfold keptDecision
  rw [← decided]
  rfl

theorem candidates_of_select {options : CheckOptions} {table : ChildTable} {file : SourceFile}
    {selection : Selection} (selected : select options table file = .ok selection) :
    selection.candidates = (pendingOf table file).map fun entry =>
      entry.decide options file (importedIn table file)
        (keptDecision options table file entry) := by
  rw [select_eq] at selected
  split at selected
  · cases selected
  · obtain rfl := Except.ok.inj selected
    rfl

theorem mem_pendingOf {table : ChildTable} {file : SourceFile} {entry : Pending} :
    entry ∈ pendingOf table file ↔
      ∃ path ∈ (fileWalk table file).visits, ∃ node kind, file.tree.get? path.node = some node ∧
        CandidateKind.ofNode? node = some kind ∧
        entry = ⟨path.node, kind, .ofPath (Scope.label file.tree) path,
          memberObject? file.tree path⟩ := by
  simp only [pendingOf, List.mem_filterMap, Pending.ofPath?, Option.map_eq_some_iff,
    Option.bind_eq_some_iff]
  grind

/-! ## Scopes with texts of their own -/

def VisitedKind (table : ChildTable) (file : SourceFile) (kind : String) : Prop :=
  ∃ id ∈ (fileWalk table file).nodes, ∃ node, file.tree.get? id = some node ∧ node.kind = kind

def ListedSlot (table : ChildTable) (file : SourceFile) (slot : String) : Prop :=
  ∃ kind, VisitedKind table file kind ∧ slot ∈ ((fileTable table file).slotsFor kind).1

/-- No slot has a bracket in its name, and no kind of node spells the end of a step, which is a slot
in brackets and a blank. -/
structure Unspelled (table : ChildTable) (file : SourceFile) : Prop where
  slots : ∀ slot, ListedSlot table file slot → '[' ∉ slot.toList ∧ ']' ∉ slot.toList
  kinds : ∀ kind slot, VisitedKind table file kind → ListedSlot table file slot →
    ¬ Scope.stepEnd slot <:+: kind.toList

theorem literalLabel_bracketless (node : Tree.Node) : '[' ∉ (Scope.literalLabel node).toList := by
  unfold Scope.literalLabel
  repeat' split
  all_goals decide

theorem label_eq_kind_or_bracketless {tree : SyntaxTree} {id : NodeId} {node : Tree.Node}
    (found : tree.get? id = some node) :
    Scope.label tree id = node.kind ∨ '[' ∉ (Scope.label tree id).toList := by
  unfold Scope.label
  split
  · exact .inr (by decide)
  · rw [Scope.plainLabel, found, Option.map_some, Option.getD_some, Scope.nodeLabel]
    split
    · exact .inr (literalLabel_bracketless node)
    · split
      · exact .inr (by decide)
      · split
        · right
          split <;> decide
        · exact .inl rfl

theorem steps_of_pending {table : ChildTable} {file : SourceFile} {entry : Pending}
    (listed : entry ∈ pendingOf table file) :
    Scope.Steps (fun label => VisitedKind table file label ∨ '[' ∉ label.toList)
      (ListedSlot table file) entry.scope.entries := by
  obtain ⟨path, visited, _, _, _, _, rfl⟩ := mem_pendingOf.mp listed
  have reached := (fileWalker table file).walk_sound.2.1 path visited
  have onWalk := (fileWalker table file).chain_subset_nodes visited
  refine ScopePath.steps_ofPath reached (Scope.label file.tree) ?_ ?_
  · intro id member
    obtain ⟨node, found⟩ := Option.isSome_iff_exists.mp (reached.isSome_of_mem_chain id member)
    rcases label_eq_kind_or_bracketless found with same | bracketless
    · exact .inl ⟨id, onWalk member, node, found, same.symm⟩
    · exact .inr bracketless
  · intro id member node found slot named
    exact ⟨node.kind, ⟨id, onWalk member, node, found, rfl⟩, named⟩

theorem scope_eq_of_render_eq {table : ChildTable} {file : SourceFile}
    (unspelled : Unspelled table file) {left right : Pending}
    (leftListed : left ∈ pendingOf table file) (rightListed : right ∈ pendingOf table file)
    (same : left.scope.render = right.scope.render) : left.scope = right.scope := by
  have clear : ∀ label slot, VisitedKind table file label ∨ '[' ∉ label.toList →
    ListedSlot table file slot →
      ¬ Scope.stepEnd slot <:+: label.toList := by
    rintro label slot (kind | bracketless) named spelled
    · exact unspelled.kinds label slot kind named spelled
    · exact bracketless (spelled.subset List.mem_cons_self)
  have entries := (steps_of_pending leftListed).eq_of_render_eq unspelled.slots clear
    (steps_of_pending rightListed) same
  exact congrArg ScopePath.mk entries

/-! ## What candidates are decided by -/

/-- A candidate has the decision for the first candidate whose scope has the same text. Where no
kind of node spells the end of a step, that is the decision for its own scope. -/
theorem select_decides_by_text {options : CheckOptions} {table : ChildTable} {file : SourceFile}
    {selection : Selection} (selected : select options table file = .ok selection) :
    (∀ candidate ∈ selection.candidates, ∃ first,
      selection.candidates.find? (fun other => other.scope.render == candidate.scope.render) =
        some first ∧
        candidate.decision = Decision.ofRules (RuleSet.ofOptions options).rules first.scope) ∧
    (Unspelled table file → ∀ candidate ∈ selection.candidates,
      candidate.decision = Decision.ofRules (RuleSet.ofOptions options).rules candidate.scope) := by
  have decided := candidates_of_select selected
  constructor
  · intro candidate listed
    rw [decided] at listed ⊢
    obtain ⟨entry, pending, rfl⟩ := List.mem_map.mp listed
    obtain ⟨first, _, found, _, kept⟩ := exists_firstAlike options pending
    rw [List.find?_map]
    exact ⟨_, congrArg (Option.map _) found, kept⟩
  · intro unspelled candidate listed
    rw [decided] at listed
    obtain ⟨entry, pending, rfl⟩ := List.mem_map.mp listed
    obtain ⟨first, firstPending, _, sameText, kept⟩ := exists_firstAlike options pending
    rw [scope_eq_of_render_eq unspelled firstPending pending sameText] at kept
    exact kept

/-- Two identifiers below a node whose kind has a blank and brackets. -/
def bracketed : SourceFile where
  filename := "a.js"
  text := "a b".toList
  tree := {
    nodes := #[
      { kind := "Odd [kind]", span := ⟨0, 3⟩, slots := [("body", .list [.node 1, .node 2])] },
      { kind := "Identifier", span := ⟨0, 1⟩, value := some (.string "a") },
      { kind := "Identifier", span := ⟨2, 3⟩, value := some (.string "b") }]
    root := 0 }

theorem visits_bracketed : (fileWalk {} bracketed).visits = [
    ⟨⟨0, none⟩, []⟩,
    ⟨⟨1, some ⟨"body", some 0⟩⟩, [⟨0, none⟩]⟩,
    ⟨⟨2, some ⟨"body", some 1⟩⟩, [⟨0, none⟩]⟩] := by
  cbv

theorem unspelled_bracketed : Unspelled {} bracketed := by
  have nodes : (fileWalk {} bracketed).nodes = [0, 1, 2] :=
    congrArg (List.map Tree.Path.node) visits_bracketed
  have kinds : ∀ kind, VisitedKind {} bracketed kind → kind ∈ ["Odd [kind]", "Identifier"] := by
    rintro _ ⟨id, visited, node, found, rfl⟩
    rw [nodes] at visited
    fin_cases visited <;> obtain rfl := Option.some.inj found <;> decide
  have slots : ∀ slot, ListedSlot {} bracketed slot → slot ∈ Tree.conventionalSlots := by
    rintro slot ⟨kind, visited, named⟩
    have known := kinds kind visited
    fin_cases known
    · exact named
    · cases named
  have free : ∀ slot ∈ Tree.conventionalSlots, '[' ∉ slot.toList ∧ ']' ∉ slot.toList := by decide
  have clear : ∀ kind ∈ ["Odd [kind]", "Identifier"], ∀ slot ∈ Tree.conventionalSlots,
      ¬ Scope.stepEnd slot <:+: kind.toList := by decide
  exact ⟨fun slot named => free slot (slots slot named),
    fun kind slot visited named => clear kind (kinds kind visited) slot (slots slot named)⟩

theorem select_decides_by_text_bracketed :
    ∃ selection, select {} {} bracketed = .ok selection ∧ Unspelled {} bracketed ∧
      selection.candidates.map Candidate.node = [1, 2] ∧
      ∀ candidate ∈ selection.candidates,
        candidate.decision = Decision.ofRules (RuleSet.ofOptions {}).rules candidate.scope := by
  have finished : (fileWalk {} bracketed).cycle = none := by cbv
  have selected := select_eq {} {} bracketed
  rw [finished] at selected
  refine ⟨_, selected, unspelled_bracketed, ?_,
    (select_decides_by_text selected).2 unspelled_bracketed⟩
  have nodes : (pendingOf {} bracketed).map Pending.node = [1, 2] := by
    rw [pendingOf, visits_bracketed]
    decide
  rw [← nodes, List.map_map]
  rfl

/-- An import in a block, and a node whose kind is spelled like the two. -/
def spelled : SourceFile where
  filename := "a.js"
  text := "\x7b import './a'; \x7d\n\x7bimport './b';\x7d".toList
  tree := {
    nodes := #[
      { kind := "Program", span := ⟨0, 33⟩, slots := [("body", .list [.node 1, .node 4])] },
      { kind := "BlockStatement", span := ⟨0, 17⟩, slots := [("body", .list [.node 2])] },
      { kind := "ImportDeclaration", span := ⟨2, 15⟩, slots :=
        [("specifiers", .list []), ("source", .node 3)] },
      { kind := "Literal", span := ⟨9, 14⟩, value := some (.string "./a"), raw := some "'./a'" },
      { kind := "BlockStatement[body] ImportDeclaration", span := ⟨18, 33⟩, slots :=
        [("source", .node 5)] },
      { kind := "Literal", span := ⟨26, 31⟩, value := some (.string "./b"), raw := some "'./b'" }]
    root := 0 }

theorem visits_spelled : (fileWalk {} spelled).visits = [
    ⟨⟨0, none⟩, []⟩,
    ⟨⟨1, some ⟨"body", some 0⟩⟩, [⟨0, none⟩]⟩,
    ⟨⟨2, some ⟨"body", some 0⟩⟩, [⟨1, some ⟨"body", some 0⟩⟩, ⟨0, none⟩]⟩,
    ⟨⟨3, some ⟨"source", none⟩⟩,
      [⟨2, some ⟨"body", some 0⟩⟩, ⟨1, some ⟨"body", some 0⟩⟩, ⟨0, none⟩]⟩,
    ⟨⟨4, some ⟨"body", some 1⟩⟩, [⟨0, none⟩]⟩,
    ⟨⟨5, some ⟨"source", none⟩⟩, [⟨4, some ⟨"body", some 1⟩⟩, ⟨0, none⟩]⟩] := by
  cbv

theorem pendingOf_spelled : pendingOf {} spelled = [
    ⟨3, .stringLiteral,
      ⟨[⟨"Program", some "body"⟩, ⟨"BlockStatement", some "body"⟩,
        ⟨"ImportDeclaration", some "source"⟩,
      ⟨"Literal.string.single", none⟩]⟩, none⟩,
    ⟨5, .stringLiteral,
      ⟨[⟨"Program", some "body"⟩, ⟨"BlockStatement[body] ImportDeclaration", some "source"⟩,
      ⟨"Literal.string.single", none⟩]⟩, none⟩] := by
  rw [pendingOf, visits_spelled]
  decide

/-- The second string is no source of an import, but has the decision for one. -/
theorem select_not_by_own_scope :
    ∃ selection candidate, select {} {} spelled = .ok selection ∧ candidate ∈ selection.candidates ∧
      candidate.decision ≠ Decision.ofRules (RuleSet.ofOptions {}).rules candidate.scope := by
  have finished : (fileWalk {} spelled).cycle = none := by cbv
  have selected := select_eq {} {} spelled
  rw [finished] at selected
  refine ⟨_, _, selected,
    List.mem_map_of_mem (List.mem_of_getElem? (i := 1) (by rw [pendingOf_spelled]; rfl)), ?_⟩
  change keptDecision {} {} spelled _ ≠ _
  rw [keptDecision, pendingOf_spelled]
  decide

end Select
end Spellspan
