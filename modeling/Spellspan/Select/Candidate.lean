import Spellspan.Scope.RuleSet
import Spellspan.Select.Bindings
import Spellspan.Select.Range
import Spellspan.SourceFile
import Spellspan.Tree.Walk

/-!
The candidates of a file: every visited node whose text could be checked, in the order of the walk,
with what was decided for it. Names that a file brings in count wherever they stand, so nothing is
decided before the whole file was walked.
-/
set_option autoImplicit false

namespace Spellspan.Select

open Scope (Decision DecisionMemo RuleSet ScopePath ScopeRule)
open Spellspan.Tree (ChildTable CycleError NodeId Path TraversalError Walker)

/-- A node whose text could be checked. -/
structure Candidate where
  node : NodeId
  kind : CandidateKind
  scope : ScopePath
  decision : Decision
  enabled : Bool
  /-- A property of a name that is brought in, and such properties are left out. -/
  importProperty : Bool
  /-- The range to send, when the candidate is checked and something is left to check. -/
  range : Option CheckRange
  deriving DecidableEq, Repr

/-- A candidate before it is decided. -/
structure Pending where
  node : NodeId
  kind : CandidateKind
  scope : ScopePath
  memberObject : Option String
  deriving DecidableEq, Repr

def Pending.ofPath? (tree : SyntaxTree) (path : Path) : Option Pending :=
  ((tree.get? path.node).bind CandidateKind.ofNode?).map fun kind =>
    { node := path.node, kind, scope := ScopePath.ofPath (Scope.label tree) path, memberObject :=
      memberObject? tree path }

/-- Decides a candidate, given the decision of the rules and the names that the file brings in. -/
def Pending.decide (options : CheckOptions) (file : SourceFile) (imported : List String)
    (pending : Pending) (decision : Decision)
    : Candidate :=
  let enabled := pending.kind.isEnabled options
  let importProperty := options.ignoreImportProperties &&
    (pending.memberObject.map imported.contains).getD false
  { node := pending.node, kind := pending.kind, scope := pending.scope, decision, enabled,
    importProperty
    range :=
      if enabled && decision.checked && !importProperty then extract? file.tree pending.node
        file.text else none }

/-- Decides candidates in order, with decisions kept from one to the next. -/
def decideAll (rules : List ScopeRule) (finish : Pending → Decision → Candidate) :
    DecisionMemo → List Pending → List Candidate
  | _, [] => []
  | memo, pending :: rest =>
    let (decision, memo) := memo.decide rules pending.scope
    finish pending decision :: decideAll rules finish memo rest

/-- The candidates of a file, and the problems of the walk. -/
structure Selection where
  candidates : List Candidate
  problems : List TraversalError

/-- The child table of a file: its own kinds over those of the run. -/
def fileTable (table : ChildTable) (file : SourceFile) : ChildTable :=
  table.registerAll file.extraKinds

/-- Selects the candidates of a file. A cycle in its tree leaves none. -/
def select (options : CheckOptions) (table : ChildTable) (file : SourceFile) :
    Except CycleError Selection :=
  let walk := Walker.walk { tree := file.tree, table := fileTable table file }
  match walk.cycle with
  | some cycle => .error cycle
  | none =>
    let imported := walk.visits.flatMap fun path => importedNames file.tree path.node
    let pending := walk.visits.filterMap (Pending.ofPath? file.tree)
    .ok {
      candidates := decideAll (RuleSet.ofOptions options).rules
        (Pending.decide options file imported) {} pending
      problems := walk.errors }

end Spellspan.Select
