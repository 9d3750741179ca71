import Mathlib
import Spellspan.Proofs.VisitedPaths
import Spellspan.Select.Candidate

/-!
Scopes of candidates. The innermost step of a node's scope has the label of the node, and the step
around it has the label of the parent and the slot between the two. The label of a candidate tells
its kind, so the rules of a switch apply to the candidates of that kind and to no others.
-/
set_option autoImplicit false

namespace Spellspan.Scope

open Spellspan.Tree (Frame NodeId Path SlotKey Walker)

/-! ## Steps from within -/

namespace ScopePath

def stepsAbove (label : NodeId → String) : Frame → List Frame → List ScopeEntry
  | _, [] => []
  | below, frame :: above =>
      ⟨label frame.node, below.key.map SlotKey.name⟩ :: stepsAbove label frame above

theorem reverse_prependFrames (label : NodeId → String) (below : Frame) (above : List Frame)
    (entries : List ScopeEntry) :
    (prependFrames label below above entries).reverse = entries.reverse ++
      stepsAbove label below above := by
  induction above generalizing below entries with
  | nil => simp [prependFrames, stepsAbove]
  | cons frame above ih =>
      rw [prependFrames, ih, stepsAbove, List.reverse_cons, List.append_assoc]
      rfl

theorem reverse_entries_ofPath (label : NodeId → String) (path : Path) :
    (ofPath label path).entries.reverse = ⟨label path.node, none⟩ :: stepsAbove label
      path.current path.above := by
  rw [ofPath, reverse_prependFrames]
  rfl

theorem stepsAbove_of_comesThrough {walker : Walker} {path : Path} {parent : NodeId} {slot : String}
    (comes : walker.ComesThrough path parent slot) (label : NodeId → String) :
    ∃ outer, stepsAbove label path.current path.above = ⟨label parent, some slot⟩ :: outer := by
  obtain ⟨frame, rest, key, above, rfl, keyed, rfl⟩ := comes.frames
  have current : path.current.key = some key := keyed
  rw [above, stepsAbove, current]
  exact ⟨_, rfl⟩

end ScopePath

/-! ## Patterns of labels -/

/-- The components of a label, between its dots, begin with the given ones. -/
def StartsWith (components : List String) (label : String) : Prop :=
  components <+: Text.piecesOf '.' label

instance (components : List String) (label : String) : Decidable (StartsWith components label) :=
  inferInstanceAs (Decidable (components <+: Text.piecesOf '.' label))

theorem Segment.weight?_label (components : List String) (key : Option String)
    (entry : ScopeEntry) :
    (Segment.label components key).weight? entry =
      if StartsWith components entry.label ∧ (key = none ∨ key = entry.key) then
        some (componentWeight * components.length + if key.isSome then keyWeight else 0)
      else none := by
  unfold weight? StartsWith
  simp only [List.isPrefixOf_iff_prefix]
  cases key with
  | none => simp
  | some slot => by_cases begun : components <+: Text.piecesOf '.' entry.label <;>
      simp [begun, eq_comm]

namespace ScopePattern

theorem score_label (components : List String) (label : NodeId → String) (path : Path) :
    (ScopePattern.mk [.label components none]).score (.ofPath label path) =
      if StartsWith components (label path.node) then componentWeight * components.length
      else 0 := by
  rw [score, ScopePath.reverse_entries_ofPath]
  by_cases begun : StartsWith components (label path.node) <;>
    simp [required, startsAnyDepth, weights?, Segment.weight?_label, begun]

/-- A pattern of two labels is laid against the two innermost steps. -/
theorem score_labels (outer inner : List String) (key : Option String) (path : ScopePath) :
    (ScopePattern.mk [.label outer key, .label inner none]).score path =
      match path.entries.reverse with
      | entry :: parent :: _ =>
        if StartsWith inner entry.label ∧ StartsWith outer parent.label ∧
          (key = none ∨ key = parent.key) then
          componentWeight * inner.length +
            (componentWeight * outer.length + if key.isSome then keyWeight else 0)
        else 0
      | _ => 0 := by
  rw [score]
  generalize path.entries.reverse = steps
  match steps with
  | [] => simp [required, weights?]
  | [entry] =>
      by_cases begun : StartsWith inner entry.label <;>
        simp [required, weights?, Segment.weight?_label, begun]
  | entry :: parent :: _ =>
      by_cases begun : StartsWith inner entry.label <;>
        by_cases fits : StartsWith outer parent.label ∧ (key = none ∨ key = parent.key) <;>
          simp [required, startsAnyDepth, weights?, Segment.weight?_label, begun, fits]

theorem score_labels_of_pos {outer inner : List String} {key : Option String} {path : ScopePath}
    (applies : 0 < (ScopePattern.mk [.label outer key, .label inner none]).score path) :
    (ScopePattern.mk [.label outer key, .label inner none]).score path =
      componentWeight * inner.length +
        (componentWeight * outer.length + if key.isSome then keyWeight else 0) := by
  rw [score_labels] at applies ⊢
  split at applies
  · split at applies
    · next fits => simp [fits]
    · cases applies
  · cases applies

/-- A pattern of two labels applies to a node that the inner one fits and whose parent the outer one
fits. -/
theorem score_labels_pos_iff {walker : Walker} {path : Path} (reached : walker.Reaches path)
    (outer : List String) {inner : List String} (nonempty : inner ≠ []) (key : Option String)
    (label : NodeId → String) :
    0 < (ScopePattern.mk [.label outer key, .label inner none]).score (.ofPath label path) ↔
      StartsWith inner (label path.node) ∧
        ∃ parent slot, walker.ComesThrough path parent slot ∧ StartsWith outer (label parent) ∧
          (key = none ∨ key = some slot) := by
  have weighs : 0 < componentWeight * inner.length :=
    Nat.mul_pos (by decide) (List.length_pos_iff.mpr nonempty)
  rw [score_labels, ScopePath.reverse_entries_ofPath]
  rcases reached.cases with rfl | ⟨parent, slot, comes⟩
  · simp only [Walker.rootPath, ScopePath.stepsAbove, Nat.lt_irrefl, false_iff, not_and, not_exists]
    intro _ parent slot comes
    obtain ⟨frame, rest, key, above, _⟩ := comes.frames
    cases above
  · obtain ⟨rest, above⟩ := ScopePath.stepsAbove_of_comesThrough comes label
    simp only [above]
    constructor
    · intro applies
      split at applies
      · next fits => exact ⟨fits.1, parent, slot, comes, fits.2⟩
      · cases applies
    · rintro ⟨begun, other, name, through, fits⟩
      obtain ⟨thisParent, thisSlot⟩ := reached.comesThrough_iff.mp comes
      obtain ⟨sameParent, sameSlot⟩ := reached.comesThrough_iff.mp through
      obtain rfl : other = parent := Option.some.inj (sameParent.symm.trans thisParent)
      obtain rfl : name = slot := Option.some.inj (sameSlot.symm.trans thisSlot)
      rw [if_pos ⟨begun, fits⟩]
      exact Nat.lt_of_lt_of_le weighs (Nat.le_add_right _ _)

end ScopePattern
end Spellspan.Scope

/-! ## Labels of candidates -/

namespace Spellspan.Select

open Scope (ScopePath ScopeRule StartsWith componentWeight includeLabel label nodeLabel switchRules)
open Spellspan.Tree (Node NodeId)

namespace CandidateKind

def Fits (node : Node) : CandidateKind → Prop
  | .comment => node.kind = "Line" ∨ node.kind = "Block"
  | .stringLiteral => node.kind = "Literal" ∧ ∃ text, node.value = some (.string text)
  | .templateElement => node.kind = "TemplateElement"
  | .identifier => node.kind = "Identifier" ∨ node.kind = "PrivateIdentifier"
  | .elementText => node.kind = "JSXText"

def labels : CandidateKind → List String
  | .comment => ["Comment.line", "Comment.docBlock", "Comment.block"]
  | .stringLiteral => ["Literal.string.double", "Literal.string.single", "Literal.string"]
  | .templateElement => ["TemplateElement"]
  | .identifier => ["Identifier", "PrivateIdentifier"]
  | .elementText => ["JSXText"]

def included : CandidateKind → List (List String)
  | .comment => [["Comment"]]
  | .stringLiteral => [["Literal", "string"]]
  | .templateElement => [["TemplateElement"]]
  | .identifier => [["Identifier"], ["PrivateIdentifier"]]
  | .elementText => [["JSXText"]]

def all : List CandidateKind :=
  [.comment, .stringLiteral, .templateElement, .identifier, .elementText]

theorem mem_all (kind : CandidateKind) : kind ∈ all := by
  cases kind <;> decide

theorem fits_of_ofNode? {node : Node} {kind : CandidateKind} (candidate : ofNode? node = some kind)
    : kind.Fits node := by
  unfold ofNode? at candidate
  split at candidate
  · next comment =>
      obtain rfl := Option.some.inj candidate
      simpa [Fits] using comment
  · split at candidate
    · next literal =>
        split at candidate
        · next text value =>
            obtain rfl := Option.some.inj candidate
            exact ⟨literal, text, value⟩
        · cases candidate
    · split at candidate
      · next template =>
          obtain rfl := Option.some.inj candidate
          exact template
      · split at candidate
        · next identifier =>
            obtain rfl := Option.some.inj candidate
            simpa [Fits] using identifier
        · split at candidate
          · next text =>
              obtain rfl := Option.some.inj candidate
              exact text
          · cases candidate

theorem nodeLabel_mem_labels {node : Node} {kind : CandidateKind} (fits : kind.Fits node) :
    nodeLabel node ∈ kind.labels := by
  cases kind with
  | comment =>
      rcases fits with line | block
      · simp [nodeLabel, line, labels]
      · by_cases documentation : Scope.isDocumentation node <;>
          simp [nodeLabel, block, labels, documentation]
  | stringLiteral =>
      obtain ⟨literal, text, value⟩ := fits
      simp only [nodeLabel, literal, if_true, Scope.literalLabel, value, labels]
      split <;> simp
  | templateElement =>
      change node.kind = "TemplateElement" at fits
      simp [nodeLabel, fits, labels]
  | identifier => rcases fits with plain | hidden <;> simp [nodeLabel, *, labels]
  | elementText =>
      change node.kind = "JSXText" at fits
      simp [nodeLabel, fits, labels]

/-- No candidate is a call, so its label is that of the node on its own. -/
theorem label_of_fits {tree : SyntaxTree} {id : NodeId} {node : Node} {kind : CandidateKind}
    (found : tree.get? id = some node) (fits : kind.Fits node) :
    label tree id = nodeLabel node := by
  have uncalled : node.kind ≠ "CallExpression" := by
    intro call
    cases kind <;> simp [Fits, call] at fits
  simp [label, Scope.isRequireCall, found, uncalled, Scope.plainLabel]

theorem label_mem_labels {tree : SyntaxTree} {id : NodeId} {node : Node} {kind : CandidateKind}
    (found : tree.get? id = some node) (fits : kind.Fits node) : label tree id ∈ kind.labels := by
  rw [label_of_fits found fits]
  exact nodeLabel_mem_labels fits

/-! ## Switches and labels -/

theorem switchRules_eq (options : CheckOptions) :
    switchRules options =
      all.flatMap fun kind =>
        if kind.isEnabled options then kind.included.map includeLabel else [] := by
  simp [switchRules, all, included, isEnabled]

/-- The label of a candidate is included by the switch of its kind and by no other. -/
theorem included_iff {kind : CandidateKind} {name : String} (listed : name ∈ kind.labels)
    (other : CandidateKind) :
    (∃ components ∈ other.included, StartsWith components name) ↔ other = kind := by
  have table : ∀ kind ∈ all, ∀ name ∈ kind.labels, ∀ other ∈ all,
      (∃ components ∈ other.included, StartsWith components name) ↔ other = kind := by decide
  exact table kind (mem_all kind) name listed other (mem_all other)

end CandidateKind
end Spellspan.Select
