import Spellspan.Scope.Label
import Spellspan.Tree.Path

/-!
Names that a file brings in from other modules, and the places where a property of such a name is
read.
-/
set_option autoImplicit false

namespace Spellspan.Select

open Scope (identifierName? isRequireCall)
open Spellspan.Tree (NodeId Path Slot)

/-- The names that a pattern binds: an identifier, or the values of the properties of an object
pattern. -/
def patternNames (tree : SyntaxTree) (id : NodeId) : List String :=
  match identifierName? tree id with
  | some name => [name]
  | none =>
    match tree.get? id with
    | some node =>
      if node.kind = "ObjectPattern" then
        match node.slot? "properties" with
        | some (.list items) =>
          items.filterMap fun item => do
            let property ← item.asNode?
            let value ← (tree.get? property).bind fun property => property.child? "value"
            identifierName? tree value
        | _ => []
      else []
    | none => []

def specifierKinds : List String :=
  ["ImportSpecifier", "ImportDefaultSpecifier", "ImportNamespaceSpecifier"]

/-- The local names that a node brings in: a specifier its own, a declarator those of its pattern
when it is initialised by loading a module. -/
def importedNames (tree : SyntaxTree) (id : NodeId) : List String :=
  match tree.get? id with
  | none => []
  | some node =>
    if specifierKinds.contains node.kind then
      ((node.child? "local").bind (identifierName? tree)).toList
    else if node.kind = "VariableDeclarator" then
      if ((node.child? "init").map (isRequireCall tree)).getD false then
        ((node.child? "id").map (patternNames tree)).getD []
      else []
    else []

/-- The name of the object when a place is the property of a member access that is not computed. -/
def memberObject? (tree : SyntaxTree) (path : Path) : Option String := do
  let key ← path.key?
  if key.name ≠ "property" then none
  else
    let frame ← path.parent?
    let parent ← tree.get? frame.node
    if parent.kind ≠ "MemberExpression" then none
    else
      match parent.slot? "computed" with
      | some (.scalar "true") => none
      | _ => (parent.child? "object").bind (identifierName? tree)

end Spellspan.Select
