import Spellspan.Tree.Basic

/-!
Labels of nodes. Literals and comments are told apart further, by components after a dot; any other
kind is its own label.
-/
set_option autoImplicit false

namespace Spellspan.Scope

open Spellspan.Tree (Node NodeId NodeValue)

/-- The label of a literal, by the type of its value and the quotes of a string. -/
def literalLabel (node : Node) : String :=
  match node.value with
  | some (.string _) =>
    match node.raw.bind fun raw => raw.toList.head? with
    | some '"' => "Literal.string.double"
    | some '\'' => "Literal.string.single"
    | _ => "Literal.string"
  | some (.number _) => "Literal.number"
  | some (.boolean _) => "Literal.boolean"
  | some .null => "Literal.null"
  | some (.regex _ _) => "Literal.regexp"
  | some (.bigInt _) => "Literal.bigint"
  | none => "Literal"

/-- Whether the text of a comment begins as documentation does. -/
def isDocumentation (node : Node) : Bool :=
  (node.stringValue?.bind fun text => text.toList.head?) == some '*'

def nodeLabel (node : Node) : String :=
  if node.kind = "Literal" then literalLabel node
  else if node.kind = "Line" then "Comment.line"
  else if node.kind = "Block" then if isDocumentation node then "Comment.docBlock"
    else "Comment.block"
  else node.kind

def plainLabel (tree : SyntaxTree) (id : NodeId) : String :=
  ((tree.get? id).map nodeLabel).getD ""

def identifierName? (tree : SyntaxTree) (id : NodeId) : Option String :=
  (tree.get? id).bind fun node => if node.kind = "Identifier" then node.stringValue? else none

/-- Whether a node is a call of the function `require`. -/
def isRequireCall (tree : SyntaxTree) (id : NodeId) : Bool :=
  match tree.get? id with
  | some node =>
    node.kind == "CallExpression" && (node.child? "callee").bind (identifierName? tree) ==
      some "require"
  | none => false

def requireLabel : String :=
  "CallExpression.require"

/-- The label of a node within its tree: calls that load a module have one of their own. -/
def label (tree : SyntaxTree) (id : NodeId) : String :=
  if isRequireCall tree id then requireLabel else plainLabel tree id

end Spellspan.Scope
