import Mathlib
import Spellspan.Proofs.RuleVerdicts
import Spellspan.Proofs.StandardRules

/-!
What becomes of a decision when the rules change. More rules never lower the score, further rules
that include never take a path away, and further rules that exclude never bring one in. So a
decision hangs on which rules there are and on nothing else about their list, and the rules at the
highest score settle it.
-/
set_option autoImplicit false

namespace Spellspan.Scope

/-- The highest score that a rule gives a path; zero without rules. -/
def highestScore (rules : List ScopeRule) (path : ScopePath) : Nat :=
  (rules.map fun rule => rule.pattern.score path).max?.getD 0

namespace Decision

variable {rules others : List ScopeRule} {path : ScopePath}

/-! ## More rules and fewer -/

theorem score_le_of_subset (kept : rules ⊆ others) :
    (ofRules rules path).score ≤ (ofRules others path).score := by
  have weighs := Verdict.weighs_ofRules rules path
  have weighsOthers := Verdict.weighs_ofRules others path
  change (Verdict.ofRules rules path).score ≤ (Verdict.ofRules others path).score
  rcases Nat.eq_zero_or_pos (Verdict.ofRules rules path).score with zero | positive
  · rw [zero]
    exact Nat.zero_le _
  · obtain ⟨best, listed, attains⟩ := weighs.attained positive
    rw [← attains]
    exact weighsOthers.bound best (kept listed)

/-- A path stays checked as long as the rules that include stay and none that exclude are new. -/
theorem checked_of_includes_kept (kept : ∀ rule ∈ rules, rule.check = true → rule ∈ others)
    (old : ∀ rule ∈ others, rule.check = false → rule ∈ rules)
    (checked : (ofRules rules path).checked = true) :
    (ofRules others path).checked = true := by
  rw [checked_iff_outscores] at checked ⊢
  obtain ⟨rule, listed, includes, applies, outscores⟩ := checked
  refine ⟨rule, kept rule listed includes, includes, applies, ?_⟩
  intro other otherListed excludes
  exact outscores other (old other otherListed excludes) excludes

theorem ofRules_eq_of_mem_iff (same : ∀ rule, rule ∈ rules ↔ rule ∈ others) :
    ofRules rules path = ofRules others path := by
  have scores : (ofRules rules path).score = (ofRules others path).score :=
    Nat.le_antisymm (score_le_of_subset fun rule => (same rule).mp) (score_le_of_subset fun rule =>
      (same rule).mpr)
  have checks : (ofRules rules path).checked = (ofRules others path).checked := by
    rw [Bool.eq_iff_iff]
    constructor
    · exact checked_of_includes_kept (fun rule listed _ => (same rule).mp listed)
        fun rule listed _ => (same rule).mpr listed
    · exact checked_of_includes_kept (fun rule listed _ => (same rule).mpr listed)
        fun rule listed _ => (same rule).mp listed
  exact congrArg₂ Decision.mk checks scores

section
variable (before after : List ScopeRule) (rule : ScopeRule)

theorem subset_insert : before ++ after ⊆ before ++ rule :: after :=
  (List.Sublist.append_left (List.sublist_cons_self rule after) before).subset

theorem mem_of_mem_insert {other : ScopeRule} (listed : other ∈ before ++ rule :: after)
    (differs : other.check ≠ rule.check) :
    other ∈ before ++ after := by
  rw [List.mem_append, List.mem_cons] at listed
  rcases listed with early | rfl | late
  · exact List.mem_append_left _ early
  · exact absurd rfl differs
  · exact List.mem_append_right _ late

end

/-! ## The highest score -/

theorem score_ofRules (rules : List ScopeRule) (path : ScopePath) :
    (ofRules rules path).score = highestScore rules path := by
  have weighs := Verdict.weighs_ofRules rules path
  cases rules with
  | nil => rfl
  | cons first rest =>
      -- a score of zero is attained as well: no rule is above it
      have attained : ∃ rule ∈ first :: rest, rule.pattern.score path =
          (Verdict.ofRules (first :: rest) path).score := by
        rcases Nat.eq_zero_or_pos (Verdict.ofRules (first :: rest) path).score with zero | positive
        · have low := weighs.bound first List.mem_cons_self
          exact ⟨first, List.mem_cons_self, by omega⟩
        · exact weighs.attained positive
      have highest : ((first :: rest).map fun rule => rule.pattern.score path).max? =
          some (Verdict.ofRules (first :: rest) path).score := by
        rw [List.max?_eq_some_iff]
        exact ⟨List.mem_map.mpr attained, List.forall_mem_map.mpr weighs.bound⟩
      rw [highestScore, highest]
      rfl

theorem checked_iff_highest :
    (ofRules rules path).checked = true ↔
      0 < highestScore rules path ∧
      (∃ rule ∈ rules, rule.pattern.score path = highestScore rules path ∧ rule.check = true) ∧
      ¬ ∃ rule ∈ rules, rule.pattern.score path = highestScore rules path ∧ rule.check = false := by
  have weighs := Verdict.weighs_ofRules rules path
  have score : (Verdict.ofRules rules path).score = highestScore rules path :=
    score_ofRules rules path
  rw [checked_iff, ← Bool.not_eq_true, weighs.includes, weighs.excludes, score]
  constructor
  · rintro ⟨positive, ⟨rule, listed, includes, _, attains⟩, unopposed⟩
    refine ⟨positive, ⟨rule, listed, attains, includes⟩, ?_⟩
    rintro ⟨other, otherListed, level, excludes⟩
    exact unopposed ⟨other, otherListed, excludes, positive, level⟩
  · rintro ⟨positive, ⟨rule, listed, attains, includes⟩, unopposed⟩
    refine ⟨positive, ⟨rule, listed, includes, positive, attains⟩, ?_⟩
    rintro ⟨other, otherListed, excludes, _, level⟩
    exact unopposed ⟨other, otherListed, level, excludes⟩

/-- The rules at the highest score decide, and neither the order of the rules nor a repetition has a
part in it. -/
theorem ofRules_follows_highest (path : ScopePath) :
    (∀ rules, (ofRules rules path).score = highestScore rules path ∧
      ((ofRules rules path).checked = true ↔
        0 < highestScore rules path ∧
        (∃ rule ∈ rules, rule.pattern.score path = highestScore rules path ∧ rule.check = true) ∧
        ¬ ∃ rule ∈ rules, rule.pattern.score path = highestScore rules path ∧ rule.check = false)) ∧
    (∀ rules others, rules.Perm others → ofRules rules path = ofRules others path) ∧
    ∀ before after, ∀ rule ∈ before ++ after,
      ofRules (before ++ rule :: after) path = ofRules (before ++ after) path := by
  refine ⟨fun rules => ⟨score_ofRules rules path, checked_iff_highest⟩, ?_, ?_⟩
  · intro rules others permuted
    exact ofRules_eq_of_mem_iff fun rule => permuted.mem_iff
  · intro before after rule listed
    apply ofRules_eq_of_mem_iff
    intro other
    constructor
    · intro member
      rcases List.mem_cons.mp (List.perm_middle.mem_iff.mp member) with rfl | old
      · exact listed
      · exact old
    · exact fun old => subset_insert before after rule old

def stringScope : ScopePath :=
  ⟨[⟨"Literal.string", none⟩]⟩

/-- Two rules for literals that contradict each other, and a weaker one for every step. -/
def contradicting : List ScopeRule :=
  [includeLabel ["Literal"], ⟨⟨[.anyOne]⟩, true⟩, ⟨⟨[.label ["Literal"] none]⟩, false⟩]

theorem ofRules_follows_highest_contradicting :
    ofRules contradicting.reverse stringScope = ⟨false, 8⟩ ∧
      ofRules (contradicting ++ [includeLabel ["Literal"]]) stringScope = ⟨false, 8⟩ := by
  obtain ⟨_, permuted, repeated⟩ := ofRules_follows_highest stringScope
  have decided : ofRules contradicting stringScope = ⟨false, 8⟩ := by decide
  constructor
  · rw [permuted _ _ (List.reverse_perm contradicting), decided]
  · rw [repeated contradicting [] _ (by simp [contradicting]), List.append_nil, decided]

/-! ## Further rules -/

theorem mem_rules_ignoreImports {options : CheckOptions} {on : Bool} {rule : ScopeRule} :
    rule ∈ (RuleSet.ofOptions { options with ignoreImports := on }).rules ↔
      rule ∈ switchRules options ∨ on = true ∧ rule ∈ moduleRules ∨
        rule ∈ writtenRules options.checkScope := by
  have switches : switchRules { options with ignoreImports := on } = switchRules options := rfl
  cases on <;> simp [RuleSet.ofOptions, switches]

/-- A further rule that includes takes no path away and one that excludes brings none in, wherever
it stands, and no rule lowers the score. So leaving out module names only takes paths away. -/
theorem checked_monotone (path : ScopePath) :
    (∀ before after rule, rule.check = true →
      (ofRules (before ++ after) path).checked = true →
        (ofRules (before ++ rule :: after) path).checked = true) ∧
    (∀ before after rule, rule.check = false →
      (ofRules (before ++ after) path).checked = false →
        (ofRules (before ++ rule :: after) path).checked = false) ∧
    (∀ before after rule, (ofRules (before ++ after) path).score ≤
      (ofRules (before ++ rule :: after) path).score) ∧
    ∀ options : CheckOptions,
      (ofRules (RuleSet.ofOptions { options with ignoreImports := true }).rules path).checked =
        true →
        (ofRules (RuleSet.ofOptions { options with ignoreImports := false }).rules path).checked =
          true := by
  refine ⟨?_, ?_, ?_, ?_⟩
  · intro before after rule includes
    apply checked_of_includes_kept
    · exact fun other listed _ => subset_insert before after rule listed
    · intro other listed excludes
      exact mem_of_mem_insert before after rule listed (by simp [excludes, includes])
  · intro before after rule excludes unchecked
    rw [← Bool.not_eq_true] at unchecked ⊢
    refine mt (checked_of_includes_kept ?_ ?_) unchecked
    · intro other listed includes
      exact mem_of_mem_insert before after rule listed (by simp [excludes, includes])
    · exact fun other listed _ => subset_insert before after rule listed
  · intro before after rule
    exact score_le_of_subset (subset_insert before after rule)
  · intro options
    apply checked_of_includes_kept
    · intro rule listed includes
      rw [mem_rules_ignoreImports] at listed ⊢
      rcases listed with switched | ⟨_, excluded⟩ | written
      · exact .inl switched
      · rw [Select.excludes_of_mem_moduleRules rule excluded] at includes
        cases includes
      · exact .inr (.inr written)
    · intro rule listed _
      rw [mem_rules_ignoreImports] at listed ⊢
      rcases listed with switched | ⟨ignoring, _⟩ | written
      · exact .inl switched
      · cases ignoring
      · exact .inr (.inr written)

theorem checked_monotone_stringScope :
    (ofRules [⟨⟨[.anyOne]⟩, true⟩, includeLabel ["Literal"]] stringScope).checked = true ∧
      (ofRules (⟨⟨[.anyOne]⟩, false⟩ :: contradicting) stringScope).checked = false ∧
      (ofRules (RuleSet.ofOptions { ignoreImports := false }).rules stringScope).checked =
        true := by
  obtain ⟨including, excluding, _, ignoring⟩ := checked_monotone stringScope
  refine ⟨?_, ?_, ?_⟩
  · exact including [] [includeLabel ["Literal"]] _ rfl (by decide)
  · exact excluding [] contradicting _ rfl (by decide)
  · exact ignoring {} (by decide)

end Decision
end Spellspan.Scope
