import Spellspan.Options
import Spellspan.Tree.Basic

/-!
Nodes whose text can be checked, and the range of the text that is checked for each.
-/
set_option autoImplicit false

namespace Spellspan.Select

open Spellspan.Tree (Node NodeId NodeValue Span)

/-- Kinds of text that can be checked. -/
inductive CandidateKind where
  | comment
  | stringLiteral
  | templateElement
  | identifier
  | elementText
  deriving DecidableEq, Repr

namespace CandidateKind

def ofNode? (node : Node) : Option CandidateKind :=
  if node.kind = "Line" || node.kind = "Block" then some .comment
  else if node.kind = "Literal" then
    match node.value with
    | some (.string _) => some .stringLiteral
    | _ => none
  else if node.kind = "TemplateElement" then some .templateElement
  else if node.kind = "Identifier" || node.kind = "PrivateIdentifier" then some .identifier
  else if node.kind = "JSXText" then some .elementText
  else none

def isEnabled (options : CheckOptions) : CandidateKind → Bool
  | .comment => options.checkComments
  | .stringLiteral => options.checkStrings
  | .templateElement => options.checkStringTemplates
  | .identifier => options.checkIdentifiers
  | .elementText => options.checkElementText

end CandidateKind

/-- A range to check, with the node that it comes from. -/
structure CheckRange where
  span : Span
  originKind : String
  originNode : NodeId
  deriving DecidableEq, Repr

def CheckRange.key (range : CheckRange) : Nat × Nat :=
  (range.span.start, range.span.stop)

def CheckRange.toJson (range : CheckRange) : Json :=
  .object [
    ("span", range.span.toJson),
    ("originKind", .string range.originKind),
    ("originNode", .nat range.originNode)]

/-- A span without its first and its last character; refused when there are not two. -/
def withoutDelimiters? (span : Span) (text : List Char) : Option Span :=
  match span.text? text with
  | some (first :: rest) => rest.getLast?.map fun last =>
      ⟨span.start + first.utf8Size, span.stop - last.utf8Size⟩
  | _ => none

/-- The part of a node's span that is checked: strings lose their quotes. -/
def checkedSpan? (kind : CandidateKind) (span : Span) (text : List Char) : Option Span :=
  match kind with
  | .stringLiteral => withoutDelimiters? span text
  | _ => some span

/-- The range to check for a node. There is none when the node is no candidate, when nothing is left
to check, and when its span does not fit the text. -/
def extract? (tree : SyntaxTree) (id : NodeId) (text : List Char) : Option CheckRange := do
  let node ← tree.get? id
  let kind ← CandidateKind.ofNode? node
  let span ← checkedSpan? kind node.span text
  if span.isEmpty || (span.text? text).isNone then none
  else some { span, originKind := node.kind, originNode := id }

end Spellspan.Select
