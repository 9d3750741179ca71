import Mathlib
import Spellspan.Proofs.WalkProblems

/-!
Tables of nodes in preorder. A list of roots fills an interval of numbers when the first root has
the first number, what it refers to fills the numbers behind it, and the other roots fill the rest.
Then the references of an interval, with its roots, are its numbers, each once, and what a node
leads to is an interval from the node on.
-/
set_option autoImplicit false

namespace Spellspan.Tree

open Relation (ReflTransGen)

/-- Some roots and all that they lead to fill the numbers from `start` up to, not including, `stop`,
every node before what it refers to. -/
inductive Preorder (nodes : Array Node) : List NodeId → Nat → Nat → Prop where
  | nil {start : Nat} : Preorder nodes [] start start
  | cons {node : Node} {rest : List NodeId} {start middle stop : Nat}
      (found : nodes[start]? = some node)
      (inner : Preorder nodes node.references (start + 1) middle)
      (later : Preorder nodes rest middle stop) :
      Preorder nodes (start :: rest) start stop

def referencesAt (nodes : Array Node) (id : NodeId) : List NodeId :=
  (nodes[id]?.map Node.references).getD []

theorem referencesAt_of_found {nodes : Array Node} {id : NodeId} {node : Node}
    (found : nodes[id]? = some node) :
    referencesAt nodes id = node.references := by
  rw [referencesAt, found, Option.map_some, Option.getD_some]

def Owns (nodes : Array Node) (owner child : NodeId) : Prop :=
  child ∈ referencesAt nodes owner

namespace Preorder

variable {nodes : Array Node} {roots : List NodeId} {start middle stop : Nat}

theorem le (preorder : Preorder nodes roots start stop) : start ≤ stop := by
  induction preorder with
  | nil => exact Nat.le_refl _
  | cons _ _ _ inner later => omega

theorem congr {others : Array Node} (preorder : Preorder nodes roots start stop)
    (same : ∀ id, start ≤ id → id < stop → others[id]? = nodes[id]?) :
    Preorder others roots start stop := by
  induction preorder with
  | nil => exact .nil
  | @cons node rest start middle stop found inner later ihInner ihLater =>
      have innerBound := inner.le
      have laterBound := later.le
      refine .cons ((same start (by omega) (by omega)).trans found) (ihInner ?_) (ihLater ?_)
      · exact fun id first last => same id (by omega) (by omega)
      · exact fun id first last => same id (by omega) (by omega)

theorem append {others : List NodeId} (first : Preorder nodes roots start middle)
    (second : Preorder nodes others middle stop) :
    Preorder nodes (roots ++ others) start stop := by
  induction first with
  | nil => exact second
  | cons found inner _ _ ih => exact .cons found inner (ih second)

theorem subtree {node : Node} (found : nodes[start]? = some node)
    (inner : Preorder nodes node.references (start + 1) stop) :
    Preorder nodes [start] start stop :=
  .cons found inner .nil

/-- The roots and the references of the interval are its numbers, each once. -/
theorem perm_range (preorder : Preorder nodes roots start stop) :
    (roots ++ (List.range' start (stop - start)).flatMap (referencesAt nodes)).Perm
      (List.range' start (stop - start)) := by
  induction preorder with
  | nil => simp
  | @cons node rest start middle stop found inner later ihInner ihLater =>
      have innerBound := inner.le
      have laterBound := later.le
      have split : List.range' start (stop - start) =
          start :: (List.range' (start + 1) (middle - (start + 1)) ++
            List.range' middle (stop - middle)) := by
        have length : stop - start = (middle - (start + 1)) + (stop - middle) + 1 := by omega
        rw [length, List.range'_succ, ← List.range'_append_1]
        congr 3
        omega
      rw [split, List.flatMap_cons, List.flatMap_append, referencesAt_of_found found,
        List.cons_append]
      refine .cons start (.trans ?_ (ihInner.append ihLater))
      -- the references of the first root move before the other roots
      simp only [← List.append_assoc]
      refine List.Perm.append_right _ ?_
      refine .trans ?_ List.perm_append_comm
      simp only [List.append_assoc]
      exact .refl _

theorem roots_within (preorder : Preorder nodes roots start stop) {root : Nat}
    (member : root ∈ roots) :
    start ≤ root ∧ root < stop := by
  have bound := preorder.le
  have numbered := preorder.perm_range.subset (List.mem_append_left _ member)
  rw [List.mem_range'_1] at numbered
  omega

theorem references_within (preorder : Preorder nodes roots start stop) {owner child : Nat}
    (first : start ≤ owner) (last : owner < stop) (owns : Owns nodes owner child)
    : owner < child ∧ child < stop := by
  induction preorder with
  | nil => omega
  | @cons node rest start middle stop found inner later ihInner ihLater =>
      have innerBound := inner.le
      have laterBound := later.le
      by_cases top : owner = start
      · subst top
        rw [Owns, referencesAt_of_found found] at owns
        have bounds := inner.roots_within owns
        omega
      · by_cases inside : owner < middle
        · have bounds := ihInner (by omega) inside
          omega
        · exact ihLater (by omega) last

/-- The roots lead exactly to the numbers of the interval. -/
theorem leads_iff (preorder : Preorder nodes roots start stop) (other : Nat) :
    (∃ root ∈ roots, ReflTransGen (Owns nodes) root other) ↔ start ≤ other ∧ other < stop := by
  constructor
  · rintro ⟨root, member, chain⟩
    induction chain with
    | refl => exact preorder.roots_within member
    | tail _ owns ih =>
        have bounds := preorder.references_within ih.1 ih.2 owns
        exact ⟨Nat.le_trans ih.1 (Nat.le_of_lt bounds.1), bounds.2⟩
  · induction preorder with
    | nil => omega
    | @cons node rest start middle stop found inner later ihInner ihLater =>
        rintro ⟨first, last⟩
        by_cases top : other = start
        · exact ⟨start, List.mem_cons_self, top ▸ .refl⟩
        · by_cases inside : other < middle
          · obtain ⟨child, held, chain⟩ := ihInner ⟨by omega, inside⟩
            have owns : Owns nodes start child := by rwa [Owns, referencesAt_of_found found]
            exact ⟨start, List.mem_cons_self, .head owns chain⟩
          · obtain ⟨root, member, chain⟩ := ihLater ⟨by omega, last⟩
            exact ⟨root, List.mem_cons_of_mem _ member, chain⟩

theorem exists_subtree (preorder : Preorder nodes roots start stop) {id : Nat} (first : start ≤ id)
    (last : id < stop) :
    ∃ finish, Preorder nodes [id] id finish := by
  induction preorder with
  | nil => omega
  | @cons node rest start middle stop found inner later ihInner ihLater =>
      by_cases top : id = start
      · exact ⟨middle, top ▸ subtree found inner⟩
      · by_cases inside : id < middle
        · exact ihInner (by omega) inside
        · exact ihLater (by omega) last

end Preorder
end Spellspan.Tree

namespace Spellspan.SyntaxTree

open Spellspan.Tree (Node NodeId Preorder referencesAt)

/-- All nodes of a tree are in preorder below its root. -/
def InPreorder (tree : SyntaxTree) : Prop :=
  tree.root = 0 ∧ Preorder tree.nodes [0] 0 tree.size

theorem references_eq_flatMap (tree : SyntaxTree) :
    tree.references = (List.range' 0 tree.size).flatMap (referencesAt tree.nodes) := by
  have listed : tree.nodes.toList.map Node.references =
      (List.range' 0 tree.size).map (referencesAt tree.nodes) := by
    refine List.ext_getElem (by simp [SyntaxTree.size]) fun id inNodes inRange => ?_
    simp only [List.length_map, Array.length_toList] at inNodes
    simp [referencesAt, inNodes]
  rw [references, List.flatMap_def, listed, ← List.flatMap_def]

namespace InPreorder

variable {tree : SyntaxTree}

/-- The references of a tree in preorder are the numbers of all nodes but the root, each once. -/
theorem perm_references (ordered : tree.InPreorder) :
    tree.references.Perm (List.range' 1 (tree.size - 1)) := by
  have positive : 0 < tree.size := (ordered.2.roots_within List.mem_cons_self).2
  have numbered := ordered.2.perm_range
  rw [Nat.sub_zero, ← tree.references_eq_flatMap] at numbered
  obtain ⟨size, enough⟩ := Nat.exists_eq_add_one_of_ne_zero (Nat.ne_of_gt positive)
  rw [enough, List.range'_succ] at numbered
  rw [enough]
  exact numbered.cons_inv

theorem branching (ordered : tree.InPreorder) : tree.Branching where
  rooted := ordered.1
  onward := by
    intro id node child found held
    have owns : Tree.Owns tree.nodes id child := by
      rwa [Tree.Owns, Tree.referencesAt_of_found found]
    exact (ordered.2.references_within (Nat.zero_le id)
      (get?_isSome_iff.mp (Option.isSome_iff_exists.mpr ⟨node, found⟩)) owns).1
  existing := by
    intro id member
    have numbered := ordered.perm_references.subset member
    rw [List.mem_range'_1] at numbered
    exact Nat.lt_of_lt_of_le numbered.2 (by omega)
  unique := ordered.perm_references.nodup_iff.mpr List.nodup_range'

end InPreorder
end Spellspan.SyntaxTree
