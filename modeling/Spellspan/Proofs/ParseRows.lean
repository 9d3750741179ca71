import Mathlib
import Spellspan.Parse.Tree

/-!
The phrases and tokens of a parse in source order, every phrase before what it consists of.
-/
set_option autoImplicit false

namespace Spellspan.ParseTree

mutual

def rows : ParseTree → List ParseTree
  | .mk field kind named span children => .mk field kind named span children :: rowsOf children

def rowsOf : List ParseTree → List ParseTree
  | [] => []
  | tree :: rest => rows tree ++ rowsOf rest

end

theorem rowsOf_eq_flatMap (trees : List ParseTree) : rowsOf trees = trees.flatMap rows := by
  induction trees with
  | nil => rfl
  | cons tree rest ih => rw [rowsOf, ih, List.flatMap_cons]

theorem rows_eq (tree : ParseTree) : tree.rows = tree :: tree.children.flatMap rows := by
  cases tree with
  | mk => rw [rows, rowsOf_eq_flatMap, children]

theorem self_mem_rows (tree : ParseTree) : tree ∈ tree.rows := by
  rw [rows_eq]
  exact List.mem_cons_self

theorem rows_subset_of_mem {tree child : ParseTree} (member : child ∈ tree.children) :
    child.rows ⊆ tree.rows := by
  intro row below
  rw [rows_eq]
  exact List.mem_cons_of_mem _ (List.mem_flatMap.mpr ⟨child, member, below⟩)

theorem mem_children_of_mem_namedChildren {tree child : ParseTree}
    (member : child ∈ tree.namedChildren) :
    child ∈ tree.children :=
  (List.mem_filter.mp member).1

theorem mem_children_of_childIn? {tree child : ParseTree} {field : String}
    (found : tree.childIn? field = some child) :
    child ∈ tree.children :=
  List.mem_of_find?_eq_some found

theorem size_le_sizes {part : ParseTree} {trees : List ParseTree} (member : part ∈ trees) :
    part.size ≤ sizes trees := by
  induction trees with
  | nil => cases member
  | cons first rest ih =>
      rw [sizes]
      cases member with
      | head => exact Nat.le_add_right _ _
      | tail _ later => exact Nat.le_add_left_of_le (ih later)

/-- What passes from the children of a phrase to the phrase holds of all. -/
theorem induction_children {motive : ParseTree → Prop}
    (step : ∀ phrase, (∀ part ∈ phrase.children, motive part) → motive phrase)
    (phrase : ParseTree) : motive phrase := by
  induction size : phrase.size using Nat.strong_induction_on generalizing phrase with
  | _ bound ih =>
      refine step phrase fun part member => ih part.size ?_ part rfl
      rw [← size, phrase.size_eq]
      exact Nat.lt_succ_of_le (size_le_sizes member)

theorem rows_subset_of_mem_rows {tree row : ParseTree} (member : row ∈ tree.rows) :
    row.rows ⊆ tree.rows := by
  induction tree using induction_children with
  | step tree ih =>
      rw [rows_eq] at member
      rcases List.mem_cons.mp member with rfl | below
      · exact List.Subset.refl _
      · obtain ⟨child, inside, row⟩ := List.mem_flatMap.mp below
        exact List.Subset.trans (ih child inside row) (rows_subset_of_mem inside)

end Spellspan.ParseTree
