import Mathlib
import Spellspan.Proofs.Lookup
import Spellspan.Scope.Decision

/-!
What a memo of decisions remembers. Asked for one path after the other, it answers with the decision
for the first path that has the same text, makes one decision for each text and counts every
question.
-/
set_option autoImplicit false

namespace Spellspan.Scope

/-- The first of some paths with the text of a path, or the path itself. -/
def firstAlike (paths : List ScopePath) (path : ScopePath) : ScopePath :=
  (paths.find? fun other => other.render == path.render).getD path

theorem firstAlike_append_cons (before after : List ScopePath) (path : ScopePath) :
    firstAlike (before ++ path :: after) path = firstAlike before path := by
  rw [firstAlike, firstAlike, List.find?_append, List.find?_cons, beq_self_eq_true]
  cases before.find? fun other => other.render == path.render <;> rfl

namespace DecisionMemo

/-- A memo holds, by their texts, the decisions for the first paths of each text among those that
were seen. -/
def Remembers (memo : DecisionMemo) (rules : List ScopeRule) (seen : List ScopePath) : Prop :=
  ∀ text, memo.known.lookup text = (seen.find? fun path => path.render == text).map
    (Decision.ofRules rules)

theorem remembers_empty (rules : List ScopeRule) : Remembers {} rules [] := by
  intro text
  rfl

theorem decide_of_known {memo : DecisionMemo} {path : ScopePath} {decision : Decision}
    (known : memo.known.lookup path.render = some decision) (rules : List ScopeRule) :
    memo.decide rules path = (decision, { memo with hits := memo.hits + 1 }) := by
  simp only [DecisionMemo.decide, known]

theorem decide_of_new {memo : DecisionMemo} {path : ScopePath}
    (unknown : memo.known.lookup path.render = none) (rules : List ScopeRule) :
    memo.decide rules path = (Decision.ofRules rules path,
      { memo with
        known := (path.render, Decision.ofRules rules path) :: memo.known
        misses := memo.misses + 1 }) := by
  simp only [DecisionMemo.decide, unknown]

/-- One decision: the answer is that for the first path of the text, and the memo goes on as if it
had seen this path too. -/
theorem Remembers.decide {memo : DecisionMemo} {rules : List ScopeRule} {seen : List ScopePath}
    (remembers : memo.Remembers rules seen) (path : ScopePath) :
    (memo.decide rules path).1 = Decision.ofRules rules (firstAlike seen path) ∧
      (memo.decide rules path).2.Remembers rules (seen ++ [path]) := by
  have known := remembers path.render
  unfold firstAlike
  cases found : seen.find? fun other => other.render == path.render with
  | some first =>
      rw [found, Option.map_some] at known
      rw [decide_of_known known, Option.getD_some]
      refine ⟨rfl, fun text => ?_⟩
      rw [List.find?_append, remembers text]
      by_cases same : path.render = text
      · subst same
        simp [found]
      · simp [same]
  | none =>
      rw [found, Option.map_none] at known
      rw [decide_of_new known, Option.getD_none]
      refine ⟨rfl, fun text => ?_⟩
      rw [List.find?_append, lookup_cons_ite, remembers text]
      by_cases same : path.render = text
      · subst same
        simp [found]
      · simp [same]

/-- The number of decisions that were made is that of the texts that were seen, and every path was
counted. -/
structure Tallies (memo : DecisionMemo) (seen : List ScopePath) : Prop where
  misses : memo.misses = (seen.map ScopePath.render).toFinset.card
  total : memo.hits + memo.misses = seen.length

theorem tallies_empty : Tallies {} [] :=
  ⟨rfl, rfl⟩

theorem Tallies.decide {memo : DecisionMemo} {rules : List ScopeRule} {seen : List ScopePath}
    (tallies : memo.Tallies seen) (remembers : memo.Remembers rules seen) (path : ScopePath) :
    (memo.decide rules path).2.Tallies (seen ++ [path]) := by
  have total := tallies.total
  have texts : ((seen ++ [path]).map ScopePath.render).toFinset =
      insert path.render (seen.map ScopePath.render).toFinset := by
    ext text
    simp
  have listed : path.render ∈ (seen.map ScopePath.render).toFinset ↔
      memo.known.lookup path.render ≠ none := by
    rw [remembers path.render, ne_eq, Option.map_eq_none_iff, List.find?_eq_none]
    simp
  cases found : memo.known.lookup path.render with
  | some decision =>
      rw [decide_of_known found]
      constructor
      · rw [texts, Finset.insert_eq_of_mem (listed.mpr (by simp [found]))]
        exact tallies.misses
      · simp only [List.length_append, List.length_singleton]
        omega
  | none =>
      rw [decide_of_new found]
      constructor
      · rw [texts, Finset.card_insert_of_notMem fun member => listed.mp member found,
          ← tallies.misses]
      · simp only [List.length_append, List.length_singleton]
        omega

/-- The answers to paths that are asked for one after the other, and the memo after them. -/
def decideEach (rules : List ScopeRule) : DecisionMemo → List ScopePath →
    List Decision × DecisionMemo
  | memo, [] => ([], memo)
  | memo, path :: rest =>
    let (decision, after) := memo.decide rules path
    let (decisions, last) := decideEach rules after rest
    (decision :: decisions, last)

theorem Remembers.decideEach {memo : DecisionMemo} {rules : List ScopeRule} {seen : List ScopePath}
    (remembers : memo.Remembers rules seen) (tallies : memo.Tallies seen) (paths : List ScopePath) :
    (memo.decideEach rules paths).1 = paths.map
      (fun path => Decision.ofRules rules (firstAlike (seen ++ paths) path)) ∧
      (memo.decideEach rules paths).2.Tallies (seen ++ paths) := by
  induction paths generalizing memo seen with
  | nil =>
      rw [List.append_nil]
      exact ⟨rfl, tallies⟩
  | cons path rest ih =>
      -- the paths that were seen grow by this one, so the first alike is the same from here on
      obtain ⟨answer, after⟩ := remembers.decide path
      obtain ⟨answers, counted⟩ := ih after (tallies.decide remembers path)
      rw [List.append_assoc, List.singleton_append] at answers counted
      refine ⟨?_, counted⟩
      rw [List.map_cons, firstAlike_append_cons, ← answer, ← answers]
      rfl

end DecisionMemo
end Spellspan.Scope
