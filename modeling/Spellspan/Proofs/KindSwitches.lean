import Mathlib
import Spellspan.Proofs.CandidateScopes
import Spellspan.Proofs.RememberedDecisions
import Spellspan.Proofs.RuleVerdicts

/-!
Switches of the kinds of text. The rules of a switch apply to no candidate of another kind, and
candidates of two kinds never have scopes of one text. So a switch changes nothing for the other
kinds, and a kind that is off has no ranges, whatever rules are written out.
-/
set_option autoImplicit false

namespace Spellspan.Select

open Scope (Decision RuleSet ScopePath includeLabel switchRules)
open Spellspan.Tree (ChildTable NodeId Path)

namespace CandidateKind

def setSwitch (options : CheckOptions) (on : Bool) : CandidateKind → CheckOptions
  | .comment => { options with checkComments := on }
  | .stringLiteral => { options with checkStrings := on }
  | .templateElement => { options with checkStringTemplates := on }
  | .identifier => { options with checkIdentifiers := on }
  | .elementText => { options with checkElementText := on }

variable (options : CheckOptions) (on : Bool) (kind : CandidateKind)

theorem isEnabled_setSwitch (other : CandidateKind) :
    other.isEnabled (kind.setSwitch options on) = if other = kind then on
      else other.isEnabled options := by
  cases kind <;> cases other <;> rfl

@[simp]
theorem ignoreImports_setSwitch :
    (kind.setSwitch options on).ignoreImports = options.ignoreImports := by
  cases kind <;> rfl

@[simp]
theorem ignoreImportProperties_setSwitch :
    (kind.setSwitch options on).ignoreImportProperties = options.ignoreImportProperties := by
  cases kind <;> rfl

@[simp]
theorem checkScope_setSwitch : (kind.setSwitch options on).checkScope = options.checkScope := by
  cases kind <;> rfl

/-! ## Rules that apply to a label -/

/-- The rules of another switch do not apply to a label of a kind. -/
theorem filter_included_eq_nil {label : NodeId → String} {path : Path} {kind other : CandidateKind}
    (listed : label path.node ∈ kind.labels) (differs : other ≠ kind) :
    (other.included.map includeLabel).filter
      (fun rule => 0 < rule.pattern.score (.ofPath label path)) = [] := by
  rw [List.filter_eq_nil_iff]
  intro rule member
  obtain ⟨components, included, rfl⟩ := List.mem_map.mp member
  have apart : ¬ Scope.StartsWith components (label path.node) := by
    intro begun
    exact differs ((included_iff listed other).mp ⟨components, included, begun⟩)
  simp [includeLabel, Scope.ScopePattern.score_label, apart]

/-- Of the rules of the switches, only those of its own kind apply to a label. -/
theorem filter_switchRules {label : NodeId → String} {path : Path} {kind : CandidateKind}
    (listed : label path.node ∈ kind.labels) (options others : CheckOptions)
    (same : kind.isEnabled options = kind.isEnabled others) :
    (switchRules options).filter (fun rule => 0 < rule.pattern.score (.ofPath label path)) =
      (switchRules others).filter fun rule => 0 < rule.pattern.score (.ofPath label path) := by
  rw [switchRules_eq, switchRules_eq, List.filter_flatMap, List.filter_flatMap]
  refine congrArg (all.flatMap ·) (funext fun other => ?_)
  -- the switch of the kind is as it was, and the others have no rule that applies
  by_cases own : other = kind
  · rw [own, same]
  · simp only [apply_ite, filter_included_eq_nil listed own, List.filter_nil, ite_self]

theorem ofRules_setSwitch {label : NodeId → String} {path : Path} {kind other : CandidateKind}
    (listed : label path.node ∈ other.labels) (differs : other ≠ kind) (options : CheckOptions)
    (on : Bool) :
    Decision.ofRules (RuleSet.ofOptions (kind.setSwitch options on)).rules (.ofPath label path) =
      Decision.ofRules (RuleSet.ofOptions options).rules (.ofPath label path) := by
  have same : other.isEnabled (kind.setSwitch options on) = other.isEnabled options := by
    rw [isEnabled_setSwitch, if_neg differs]
  apply Decision.ofRules_eq_of_filter_eq
  simp only [RuleSet.ofOptions, List.filter_append, filter_switchRules listed _ _ same,
    ignoreImports_setSwitch, checkScope_setSwitch]

theorem blankless_of_mem_labels {kind : CandidateKind} {name : String} (listed : name ∈ kind.labels)
    : ' ' ∉ name.toList := by
  have table : ∀ kind ∈ all, ∀ name ∈ kind.labels, ' ' ∉ name.toList := by decide
  exact table kind (mem_all kind) name listed

theorem eq_of_mem_labels {kind other : CandidateKind} {name : String} (listed : name ∈ kind.labels)
    (otherListed : name ∈ other.labels) : other = kind :=
  (included_iff listed other).mp ((included_iff otherListed other).mpr rfl)

end CandidateKind

/-! ## Candidates of a file -/

theorem exists_path_of_mem_pendingOf {table : ChildTable} {file : SourceFile} {entry : Pending}
    (listed : entry ∈ pendingOf table file) :
    ∃ path, entry.scope = .ofPath (Scope.label file.tree) path ∧
      Scope.label file.tree path.node ∈ entry.kind.labels := by
  obtain ⟨path, _, node, kind, found, candidate, rfl⟩ := mem_pendingOf.mp listed
  exact ⟨path, rfl, CandidateKind.label_mem_labels found (CandidateKind.fits_of_ofNode? candidate)⟩

theorem kind_eq_of_render_eq {table : ChildTable} {file : SourceFile} {left right : Pending}
    (leftListed : left ∈ pendingOf table file) (rightListed : right ∈ pendingOf table file)
    (same : left.scope.render = right.scope.render) : left.kind = right.kind := by
  obtain ⟨leftPath, leftScope, leftLabel⟩ := exists_path_of_mem_pendingOf leftListed
  obtain ⟨rightPath, rightScope, rightLabel⟩ := exists_path_of_mem_pendingOf rightListed
  rw [leftScope, rightScope] at same
  have labels := ScopePath.label_eq_of_render_eq (CandidateKind.blankless_of_mem_labels leftLabel)
    (CandidateKind.blankless_of_mem_labels rightLabel) same
  rw [labels] at leftLabel
  exact CandidateKind.eq_of_mem_labels rightLabel leftLabel

/-- The decision that is kept for a text was made for a candidate of the same kind, so another
switch has no part in it. -/
theorem keptDecision_setSwitch {table : ChildTable} {file : SourceFile} {entry : Pending}
    {kind : CandidateKind} (listed : entry ∈ pendingOf table file) (differs : entry.kind ≠ kind)
    (options : CheckOptions) (on : Bool) :
    keptDecision (kind.setSwitch options on) table file entry =
      keptDecision options table file entry := by
  obtain ⟨first, firstListed, found, sameText, kept⟩ := exists_firstAlike options listed
  obtain ⟨again, _, foundAgain, _, keptSwitched⟩ :=
    exists_firstAlike (kind.setSwitch options on) listed
  obtain rfl : again = first := Option.some.inj (foundAgain.symm.trans found)
  obtain ⟨path, scope, label⟩ := exists_path_of_mem_pendingOf firstListed
  have firstDiffers : again.kind ≠ kind := by
    rw [kind_eq_of_render_eq firstListed listed sameText]
    exact differs
  rw [keptSwitched, kept, scope, CandidateKind.ofRules_setSwitch label firstDiffers]

theorem Pending.decide_setSwitch {entry : Pending} {kind : CandidateKind}
    (differs : entry.kind ≠ kind) (options : CheckOptions) (on : Bool) (file : SourceFile)
    (imported : List String) (decision : Decision) :
    entry.decide (kind.setSwitch options on) file imported decision =
      entry.decide options file imported decision := by
  simp [Pending.decide, CandidateKind.isEnabled_setSwitch, differs]

theorem Pending.range_decide_of_off {entry : Pending} {options : CheckOptions}
    (off : entry.kind.isEnabled options = false) (file : SourceFile) (imported : List String)
    (decision : Decision) :
    (entry.decide options file imported decision).range = none := by
  simp [Pending.decide, off]

/-- What a candidate keeps when the switch of a kind of text goes from on to off. -/
structure Candidate.SwitchedOff (switched : CandidateKind) (on off : Candidate) : Prop where
  node : off.node = on.node
  kind : off.kind = on.kind
  scope : off.scope = on.scope
  importProperty : off.importProperty = on.importProperty
  others : on.kind ≠ switched → off = on
  silent : on.kind = switched → off.range = none

/-- A switch and the runs with it on and off: both find the same candidates, those of the other
kinds are alike in all, and those of its own kind have no range when it is off. -/
theorem select_switchedOff (options : CheckOptions) (kind : CandidateKind) (table : ChildTable)
    (file : SourceFile) :
    (∃ cycle, select (kind.setSwitch options true) table file = .error cycle ∧
      select (kind.setSwitch options false) table file = .error cycle) ∨
    ∃ on off, select (kind.setSwitch options true) table file = .ok on ∧
      select (kind.setSwitch options false) table file = .ok off ∧ off.problems = on.problems ∧
      List.Forall₂ (Candidate.SwitchedOff kind) on.candidates off.candidates := by
  rw [select_eq, select_eq]
  cases (fileWalk table file).cycle with
  | some cycle => exact .inl ⟨cycle, rfl, rfl⟩
  | none =>
      refine .inr ⟨_, _, rfl, rfl, rfl, ?_⟩
      rw [List.forall₂_map_left_iff, List.forall₂_map_right_iff, List.forall₂_same]
      intro entry listed
      refine ⟨rfl, rfl, rfl, by simp [Pending.decide], ?_, ?_⟩
      · intro differs
        rw [keptDecision_setSwitch listed differs, keptDecision_setSwitch listed differs,
          Pending.decide_setSwitch differs, Pending.decide_setSwitch differs]
      · intro own
        change entry.kind = kind at own
        apply Pending.range_decide_of_off
        rw [CandidateKind.isEnabled_setSwitch, if_pos own]

end Spellspan.Select
