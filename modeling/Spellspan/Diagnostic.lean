import Spellspan.Tree.Problem

/-!
Findings about the input, the configuration or the engine that are no spelling issues.
-/
set_option autoImplicit false

namespace Spellspan

/-- Where a diagnostic comes from. -/
inductive DiagnosticKind where
  | traversal
  | scope
  | normalization
  | engine
  deriving DecidableEq, Repr

def DiagnosticKind.name : DiagnosticKind → String
  | .traversal => "traversal"
  | .scope => "scope"
  | .normalization => "normalization"
  | .engine => "engine"

/-- A finding, with the node and the span it concerns when there are such. -/
structure Diagnostic where
  kind : DiagnosticKind
  message : String
  node : Option Tree.NodeId := none
  span : Option Tree.Span := none
  deriving DecidableEq, Repr

namespace Diagnostic

/-- The text form `[kind] message`. -/
def render (diagnostic : Diagnostic) : String :=
  s!"[{diagnostic.kind.name}] {diagnostic.message}"

def ofTraversal (error : Tree.TraversalError) : Diagnostic :=
  { kind := .traversal, message := error.message, node := some error.node }

def toJson (diagnostic : Diagnostic) : Json :=
  .object (
    [("kind", .string diagnostic.kind.name), ("message", .string diagnostic.message)] ++
    (diagnostic.node.map fun node => ("node", Json.nat node)).toList ++
    (diagnostic.span.map fun span => ("span", span.toJson)).toList)

end Diagnostic
end Spellspan
