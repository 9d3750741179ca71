import Mathlib
import Spellspan.Proofs.NormalizedSuggestions
import Spellspan.Report.FileReport

/-!
Written entries whose pattern cannot be read. Each of them is noted with its error and has no other
effect: the rules, and with them every decision on a file, are those of the options without these
entries.
-/
set_option autoImplicit false

namespace Spellspan

open Scope (PatternError RejectedPattern RuleSet ScopePattern ruleOf writtenRules
    rejectedPatterns switchRules)
open Spellspan.Tree (ChildTable)

def ScopeRuleSpec.isUsable (entry : ScopeRuleSpec) : Bool :=
  (ScopePattern.ofSegments entry.parts).isOk

def CheckOptions.usable (options : CheckOptions) : CheckOptions :=
  { options with checkScope := options.checkScope.filter ScopeRuleSpec.isUsable }

namespace Scope

/-- An entry is noted as it was written, with the error of its segments. -/
def RejectedPattern.Notes (rejected : RejectedPattern) (entry : ScopeRuleSpec) : Prop :=
  rejected.pattern = Text.joined " " entry.parts ∧ ScopePattern.ofSegments entry.parts =
    .error rejected.error

section
variable {entry : ScopeRuleSpec}

theorem ruleOf_of_usable (usable : entry.isUsable = true) : ∃ rule, ruleOf entry = .ok rule := by
  unfold ScopeRuleSpec.isUsable at usable
  unfold ruleOf
  cases read : ScopePattern.ofSegments entry.parts with
  | ok pattern => exact ⟨⟨pattern, entry.isCheck⟩, rfl⟩
  | error error =>
      rw [read] at usable
      cases usable

theorem ruleOf_of_unusable (unusable : entry.isUsable = false) :
    ∃ rejected : RejectedPattern, rejected.Notes entry ∧ ruleOf entry = .error rejected := by
  unfold ScopeRuleSpec.isUsable at unusable
  unfold ruleOf
  cases read : ScopePattern.ofSegments entry.parts with
  | ok pattern =>
      rw [read] at unusable
      cases unusable
  | error error => exact ⟨⟨Text.joined " " entry.parts, error⟩, ⟨rfl, read⟩, rfl⟩

end

/-- No entry moves, hides or cuts off the rules of the entries behind it. -/
theorem writtenRules_filter_usable (entries : List ScopeRuleSpec) :
    writtenRules (entries.filter ScopeRuleSpec.isUsable) = writtenRules entries := by
  unfold writtenRules
  rw [List.filterMap_filter]
  refine List.filterMap_congr fun entry _ => ?_
  cases usable : entry.isUsable with
  | true => rfl
  | false =>
      obtain ⟨rejected, _, refused⟩ := ruleOf_of_unusable usable
      rw [refused]
      rfl

theorem rejectedPatterns_of_usable {entries : List ScopeRuleSpec}
    (usable : ∀ entry ∈ entries, entry.isUsable = true) :
    rejectedPatterns entries = [] := by
  refine List.filterMap_eq_nil_iff.mpr fun entry member => ?_
  obtain ⟨rule, made⟩ := ruleOf_of_usable (usable entry member)
  rw [made]

theorem rejectedPatterns_notes (entries : List ScopeRuleSpec) :
    List.Forall₂ (fun entry rejected => RejectedPattern.Notes rejected entry)
      (entries.filter fun entry => !entry.isUsable) (rejectedPatterns entries) := by
  refine forall₂_filter_filterMap (fun entry unusable => ?_) (fun entry usable => ?_) entries
  · obtain ⟨rejected, notes, refused⟩ := ruleOf_of_unusable (by simpa using unusable)
    rw [refused]
    exact ⟨rejected, rfl, notes⟩
  · obtain ⟨rule, made⟩ := ruleOf_of_usable (by simpa using usable)
    rw [made]

theorem rules_usable (options : CheckOptions) :
    (RuleSet.ofOptions options.usable).rules = (RuleSet.ofOptions options).rules :=
  congrArg (switchRules options ++ (if options.ignoreImports then moduleRules else []) ++ ·)
    (writtenRules_filter_usable options.checkScope)

end Scope

namespace Select

/-- The switches are not touched, so the rules are all that could tell the two runs apart. -/
theorem select_usable (options : CheckOptions) (table : ChildTable) (file : SourceFile) :
    select options.usable table file = select options table file := by
  have decided : Pending.decide options.usable file = Pending.decide options file := by
    funext imported pending decision
    cases kind : pending.kind <;> simp only [Pending.decide, kind, CandidateKind.isEnabled,
      CheckOptions.usable]
  unfold select
  rw [Scope.rules_usable, decided]

end Select

namespace Report

/-- Entries that cannot be read change nothing but the diagnostics: the rules and every selection
are those of the options without them, and they are what is noted, in order and with the error of
their segments. -/
theorem unusable_patterns_inert (options : CheckOptions) :
    let kept := { options with checkScope := options.checkScope.filter fun entry =>
      (ScopePattern.ofSegments entry.parts).isOk }
    let removed := options.checkScope.filter fun entry =>
      !(ScopePattern.ofSegments entry.parts).isOk
    (RuleSet.ofOptions kept).rules = (RuleSet.ofOptions options).rules ∧
    List.Forall₂ (fun entry rejected => rejected.pattern = Text.joined " " entry.parts ∧
      ScopePattern.ofSegments entry.parts = .error rejected.error) removed
        (RuleSet.ofOptions options).rejected ∧
    ∀ (checker : Checker) (file : SourceFile),
      { checker with options := kept }.configDiagnostics = [] ∧
      List.Forall₂ (fun entry diagnostic =>
        ∃ error, ScopePattern.ofSegments entry.parts = .error error ∧
          diagnostic = {
            kind := .scope
            message := "checkScope " ++ Text.quoted (Text.joined " " entry.parts) ++ ": " ++
              error.message })
        removed { checker with options }.configDiagnostics ∧
      Select.select kept checker.table file = Select.select options checker.table file := by
  intro kept removed
  have notes := Scope.rejectedPatterns_notes options.checkScope
  refine ⟨Scope.rules_usable options, notes, fun checker file =>
    ⟨?_, ?_, Select.select_usable options checker.table file⟩⟩
  · have clean : (RuleSet.ofOptions kept).rejected = [] :=
      Scope.rejectedPatterns_of_usable fun entry member => (List.mem_filter.mp member).2
    exact congrArg (List.map RejectedPattern.diagnostic) clean
  · refine List.forall₂_map_right_iff.mpr (notes.imp fun entry rejected noted =>
      ⟨rejected.error, noted.2, ?_⟩)
    rw [RejectedPattern.diagnostic, noted.1]
    rfl

/-- Entries in their three written forms: the first and the last make no rule, the one between them
does. -/
example :
    RuleSet.ofOptions { CheckOptions.allOff with
      checkScope := [.pair "Program **" true, .record (.text "Identifier") false,
        .record (.list []) true] } =
    { rules := [⟨⟨[.label ["Identifier"] none]⟩, false⟩]
      rejected := [⟨"Program **", .misplacedAnyDepth 1⟩, ⟨"", .empty⟩] } := by
  decide +kernel

end Report
end Spellspan
