import Mathlib
import Spellspan.Scope.Decision

/-!
What a list of rules decides. A verdict keeps the highest score and which sides attain it, so a path
is checked exactly when some rule that includes it outscores every rule that excludes it. Rules that
do not apply to a path have no part in its verdict.
-/
set_option autoImplicit false

namespace Spellspan.Scope

/-- What a verdict says of the rules that it was formed from. -/
structure Verdict.Weighs (verdict : Verdict) (rules : List ScopeRule) (path : ScopePath)
    : Prop where
  bound : ∀ rule ∈ rules, rule.pattern.score path ≤ verdict.score
  attained : 0 < verdict.score → ∃ rule ∈ rules, rule.pattern.score path = verdict.score
  includes : verdict.includes = true ↔
    ∃ rule ∈ rules, rule.check = true ∧ 0 < verdict.score ∧ rule.pattern.score path = verdict.score
  excludes : verdict.excludes = true ↔
    ∃ rule ∈ rules, rule.check = false ∧ 0 < verdict.score ∧ rule.pattern.score path = verdict.score

namespace Verdict

/-- The three ways in which a score enters a verdict. -/
theorem add_cases (verdict : Verdict) (score : Nat) (check : Bool) :
    (verdict.add score check = verdict ∧ (score = 0 ∨ score < verdict.score)) ∨
    (verdict.add score check = ⟨score, check, !check⟩ ∧ 0 < score ∧ verdict.score < score) ∨
    (verdict.add score check = ⟨score, verdict.includes || check, verdict.excludes || !check⟩ ∧
      0 < score ∧
      score = verdict.score) := by
  unfold add
  split
  · next passed => exact .inl ⟨rfl, by simpa using passed⟩
  · next counted =>
      simp only [Bool.or_eq_true, decide_eq_true_eq, not_or, Nat.not_lt] at counted
      split
      · next higher => exact .inr (.inl ⟨rfl, Nat.pos_of_ne_zero counted.1, higher⟩)
      · next level => exact .inr (.inr ⟨rfl, Nat.pos_of_ne_zero counted.1, by omega⟩)

theorem add_zero (verdict : Verdict) (check : Bool) : verdict.add 0 check = verdict := by
  simp [add]

theorem weighs_nil (path : ScopePath) : Weighs {} [] path where
  bound := by simp
  attained := by simp
  includes := by simp
  excludes := by simp

theorem Weighs.add {verdict : Verdict} {rules : List ScopeRule} {path : ScopePath}
    (weighs : verdict.Weighs rules path) (rule : ScopeRule) :
    (verdict.add (rule.pattern.score path) rule.check).Weighs (rules ++ [rule]) path := by
  obtain ⟨bound, attained, includes, excludes⟩ := weighs
  rcases verdict.add_cases (rule.pattern.score path) rule.check with
    ⟨same, low⟩ | ⟨raised, positive, higher⟩ | ⟨joined, positive, level⟩
  · rw [same]
    constructor
    · simp only [List.forall_mem_append, List.forall_mem_singleton]
      exact ⟨bound, by omega⟩
    · intro positive
      obtain ⟨best, member, attains⟩ := attained positive
      exact ⟨best, List.mem_append_left _ member, attains⟩
    · rw [includes]
      grind
    · rw [excludes]
      grind
  · rw [raised]
    constructor
    · simp only [List.forall_mem_append, List.forall_mem_singleton]
      exact ⟨fun other member => Nat.le_of_lt (Nat.lt_of_le_of_lt (bound other member) higher),
        Nat.le_refl _⟩
    · intro _
      exact ⟨rule, by simp, rfl⟩
    · grind
    · grind
  · rw [joined]
    constructor
    · simp only [List.forall_mem_append, List.forall_mem_singleton]
      exact ⟨fun other member => level ▸ bound other member, Nat.le_refl _⟩
    · intro _
      exact ⟨rule, by simp, rfl⟩
    · grind
    · grind

theorem weighs_ofRules (rules : List ScopeRule) (path : ScopePath) :
    (ofRules rules path).Weighs rules path := by
  induction rules using List.reverseRecOn with
  | nil => exact weighs_nil path
  | append_singleton rules rule ih =>
      rw [ofRules, List.foldl_append]
      exact ih.add rule

theorem ofRules_filter_applies (rules : List ScopeRule) (path : ScopePath) :
    ofRules (rules.filter fun rule => 0 < rule.pattern.score path) path = ofRules rules path := by
  rw [ofRules, ofRules, List.foldl_filter]
  congr 1
  funext verdict rule
  split
  · rfl
  · next idle =>
      have zero : rule.pattern.score path = 0 := by simpa using idle
      rw [zero, add_zero]

end Verdict

namespace Decision

theorem checked_iff (rules : List ScopeRule) (path : ScopePath) :
    (ofRules rules path).checked = true ↔
      0 < (Verdict.ofRules rules path).score ∧ (Verdict.ofRules rules path).includes = true ∧
        (Verdict.ofRules rules path).excludes = false := by
  simp [ofRules, and_assoc]

/-- A path is checked when a rule that includes it outscores all that exclude it, and only then. -/
theorem checked_iff_outscores {rules : List ScopeRule} {path : ScopePath} :
    (ofRules rules path).checked = true ↔
      ∃ rule ∈ rules, rule.check = true ∧ 0 < rule.pattern.score path ∧
        ∀ other ∈ rules, other.check = false →
          other.pattern.score path < rule.pattern.score path := by
  have weighs := Verdict.weighs_ofRules rules path
  rw [checked_iff, ← Bool.not_eq_true, weighs.includes, weighs.excludes]
  constructor
  · rintro ⟨_, ⟨rule, member, includes, positive, attains⟩, unopposed⟩
    refine ⟨rule, member, includes, attains ▸ positive, ?_⟩
    intro other listed excludes
    refine attains ▸ Nat.lt_of_le_of_ne (weighs.bound other listed) ?_
    intro level
    exact unopposed ⟨other, listed, excludes, positive, level⟩
  · rintro ⟨rule, member, includes, positive, outscores⟩
    have highest := weighs.bound rule member
    have scored : 0 < (Verdict.ofRules rules path).score := Nat.lt_of_lt_of_le positive highest
    -- an excluding rule at the highest score would have to stay below `rule`
    have unopposed : ∀ other ∈ rules, other.pattern.score path =
        (Verdict.ofRules rules path).score → other.check = true := by
      intro other listed attains
      by_contra excludes
      have below := outscores other listed (by simpa using excludes)
      omega
    obtain ⟨best, listed, attains⟩ := weighs.attained scored
    refine ⟨scored, ⟨best, listed, unopposed best listed attains, scored, attains⟩, ?_⟩
    rintro ⟨other, listed, excludes, _, attains⟩
    rw [unopposed other listed attains] at excludes
    cases excludes

theorem ofRules_eq_of_filter_eq {rules others : List ScopeRule} {path : ScopePath}
    (same : rules.filter (fun rule => 0 < rule.pattern.score path) = others.filter fun rule =>
      0 < rule.pattern.score path) :
    ofRules rules path = ofRules others path := by
  have verdicts : Verdict.ofRules rules path = Verdict.ofRules others path := by
    rw [← Verdict.ofRules_filter_applies rules, same, Verdict.ofRules_filter_applies]
  rw [ofRules, verdicts, ofRules]

end Decision
end Spellspan.Scope
