/-!
Which slots of a node hold its children, by its kind. The standard kinds have a fixed table; further
kinds can be registered; what is in neither is probed by conventional slot names.
-/
set_option autoImplicit false

namespace Spellspan.Tree

def standardSlots : List (String × List String) := [
  ("Program", ["body", "comments"]),
  ("ExpressionStatement", ["expression"]),
  ("BlockStatement", ["body"]),
  ("StaticBlock", ["body"]),
  ("EmptyStatement", []),
  ("DebuggerStatement", []),
  ("WithStatement", ["object", "body"]),
  ("ReturnStatement", ["argument"]),
  ("LabeledStatement", ["label", "body"]),
  ("BreakStatement", ["label"]),
  ("ContinueStatement", ["label"]),
  ("IfStatement", ["test", "consequent", "alternate"]),
  ("SwitchStatement", ["discriminant", "cases"]),
  ("SwitchCase", ["test", "consequent"]),
  ("ThrowStatement", ["argument"]),
  ("TryStatement", ["block", "handler", "finalizer"]),
  ("CatchClause", ["param", "body"]),
  ("WhileStatement", ["test", "body"]),
  ("DoWhileStatement", ["body", "test"]),
  ("ForStatement", ["init", "test", "update", "body"]),
  ("ForInStatement", ["left", "right", "body"]),
  ("ForOfStatement", ["left", "right", "body"]),
  ("FunctionDeclaration", ["id", "params", "body"]),
  ("VariableDeclaration", ["declarations"]),
  ("VariableDeclarator", ["id", "init"]),
  ("ClassDeclaration", ["id", "superClass", "body"]),
  ("Identifier", []),
  ("PrivateIdentifier", []),
  ("Literal", []),
  ("ThisExpression", []),
  ("Super", []),
  ("ArrayExpression", ["elements"]),
  ("ObjectExpression", ["properties"]),
  ("Property", ["key", "value"]),
  ("FunctionExpression", ["id", "params", "body"]),
  ("ArrowFunctionExpression", ["params", "body"]),
  ("ClassExpression", ["id", "superClass", "body"]),
  ("ClassBody", ["body"]),
  ("MethodDefinition", ["key", "value"]),
  ("PropertyDefinition", ["key", "value"]),
  ("UnaryExpression", ["argument"]),
  ("UpdateExpression", ["argument"]),
  ("BinaryExpression", ["left", "right"]),
  ("LogicalExpression", ["left", "right"]),
  ("AssignmentExpression", ["left", "right"]),
  ("ConditionalExpression", ["test", "consequent", "alternate"]),
  ("CallExpression", ["callee", "arguments"]),
  ("NewExpression", ["callee", "arguments"]),
  ("MemberExpression", ["object", "property"]),
  ("ChainExpression", ["expression"]),
  ("SequenceExpression", ["expressions"]),
  ("YieldExpression", ["argument"]),
  ("AwaitExpression", ["argument"]),
  ("ImportExpression", ["source", "options"]),
  ("MetaProperty", ["meta", "property"]),
  ("SpreadElement", ["argument"]),
  ("TemplateLiteral", ["quasis", "expressions"]),
  ("TaggedTemplateExpression", ["tag", "quasi"]),
  ("TemplateElement", []),
  ("ObjectPattern", ["properties"]),
  ("ArrayPattern", ["elements"]),
  ("RestElement", ["argument"]),
  ("AssignmentPattern", ["left", "right"]),
  ("ImportDeclaration", ["specifiers", "source", "attributes"]),
  ("ImportSpecifier", ["imported", "local"]),
  ("ImportDefaultSpecifier", ["local"]),
  ("ImportNamespaceSpecifier", ["local"]),
  ("ImportAttribute", ["key", "value"]),
  ("ExportNamedDeclaration", ["declaration", "specifiers", "source", "attributes"]),
  ("ExportSpecifier", ["local", "exported"]),
  ("ExportDefaultDeclaration", ["declaration"]),
  ("ExportAllDeclaration", ["exported", "source", "attributes"]),
  ("Line", []),
  ("Block", []),
  ("JSXElement", ["openingElement", "children", "closingElement"]),
  ("JSXFragment", ["openingFragment", "children", "closingFragment"]),
  ("JSXOpeningElement", ["name", "attributes"]),
  ("JSXClosingElement", ["name"]),
  ("JSXOpeningFragment", []),
  ("JSXClosingFragment", []),
  ("JSXAttribute", ["name", "value"]),
  ("JSXSpreadAttribute", ["argument"]),
  ("JSXIdentifier", []),
  ("JSXNamespacedName", ["namespace", "name"]),
  ("JSXMemberExpression", ["object", "property"]),
  ("JSXExpressionContainer", ["expression"]),
  ("JSXEmptyExpression", []),
  ("JSXSpreadChild", ["argument"]),
  ("JSXText", [])]

def conventionalSlots : List String := [
  "body", "declarations", "properties", "elements", "arguments", "params", "specifiers",
    "attributes", "children",
  "source", "declaration", "expression", "object", "property", "callee", "tag", "quasi"]

/-- The slots that a list of entries gives to a kind; the first entry counts. -/
def slotsIn? (kind : String) : List (String × List String) → Option (List String)
  | [] => none
  | (key, slots) :: rest => if key = kind then some slots else slotsIn? kind rest

/-- Where the slots of a kind were found. -/
inductive SlotSource where
  | core
  | registered
  | fallback
  deriving DecidableEq, Repr

/-- The kinds that were registered, the latest first. -/
structure ChildTable where
  registered : List (String × List String) := []

namespace ChildTable

/-- Registers the slots of a kind, over an earlier entry and over the standard table. -/
def register (table : ChildTable) (kind : String) (slots : List String) : ChildTable :=
  ⟨(kind, slots) :: table.registered⟩

/-- Registers several kinds in order. -/
def registerAll (table : ChildTable) (kinds : List (String × List String)) : ChildTable :=
  kinds.foldl (fun table entry => table.register entry.1 entry.2) table

/-- The slots to visit for a kind, and where they come from. -/
def slotsFor (table : ChildTable) (kind : String) : List String × SlotSource :=
  match slotsIn? kind table.registered with
  | some slots => (slots, .registered)
  | none =>
    match slotsIn? kind standardSlots with
    | some slots => (slots, .core)
    | none => (conventionalSlots, .fallback)

end ChildTable
end Spellspan.Tree
