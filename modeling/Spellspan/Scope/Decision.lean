import Spellspan.Scope.Pattern

/-!
Decisions over a list of rules. The rules with the highest score decide: a path is checked when one
of them includes it and none excludes it.
-/
set_option autoImplicit false

namespace Spellspan.Scope

/-- A pattern that includes or excludes what it fits. -/
structure ScopeRule where
  pattern : ScopePattern
  check : Bool
  deriving DecidableEq, Repr

/-- What the rules say of a path, and the highest score among them. -/
structure Decision where
  checked : Bool
  score : Nat
  deriving DecidableEq, Repr

/-- The highest score so far, and whether a rule that attains it includes or excludes. -/
structure Verdict where
  score : Nat := 0
  includes : Bool := false
  excludes : Bool := false
  deriving DecidableEq, Repr

def Verdict.add (verdict : Verdict) (score : Nat) (check : Bool) : Verdict :=
  if score = 0 || score < verdict.score then verdict
  else if verdict.score < score then ⟨score, check, !check⟩
  else ⟨score, verdict.includes || check, verdict.excludes || !check⟩

def Verdict.ofRules (rules : List ScopeRule) (path : ScopePath) : Verdict :=
  rules.foldl (fun (verdict : Verdict) rule => verdict.add (rule.pattern.score path) rule.check) {}

def Decision.ofRules (rules : List ScopeRule) (path : ScopePath) : Decision :=
  let verdict := Verdict.ofRules rules path
  ⟨0 < verdict.score && verdict.includes && !verdict.excludes, verdict.score⟩

/-- Decisions made before, by the text form of their paths. -/
structure DecisionMemo where
  known : List (String × Decision) := []
  hits : Nat := 0
  misses : Nat := 0

/-- The decision for a path, looked up by its text form or made and kept. -/
def DecisionMemo.decide (memo : DecisionMemo) (rules : List ScopeRule) (path : ScopePath) :
    Decision × DecisionMemo :=
  let text := path.render
  match memo.known.lookup text with
  | some decision => (decision, { memo with hits := memo.hits + 1 })
  | none =>
    let decision := Decision.ofRules rules path
    (decision, { memo with known := (text, decision) :: memo.known, misses := memo.misses + 1 })

end Spellspan.Scope
