import Spellspan.Diagnostic
import Spellspan.Tree.Basic

/-!
A file ready to be checked: its name, its text, its syntax tree, and what the loader has to say
about them.
-/
set_option autoImplicit false

namespace Spellspan

/-- A source text with its syntax tree. -/
structure SourceFile where
  filename : String
  text : List Char
  tree : SyntaxTree
  /-- Child slots of kinds outside the standard table that the loader made, in the order in which
  they first appear. -/
  extraKinds : List (String × List String) := []
  diagnostics : List Diagnostic := []

end Spellspan
