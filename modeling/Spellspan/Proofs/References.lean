import Mathlib
import Spellspan.Proofs.Lookup
import Spellspan.Proofs.Traversal

/-!
What the nodes of a table refer to, with repetition: every number in a slot counts, however deep it
stands in lists. The children that a traversal takes from a node are among these references, each
from a place of its own.
-/
set_option autoImplicit false

namespace Spellspan.Tree

namespace Slot

mutual

def ids : Slot → List NodeId
  | .empty => []
  | .node id => [id]
  | .list items => idsOf items
  | .scalar _ => []

def idsOf : List Slot → List NodeId
  | [] => []
  | item :: rest => ids item ++ idsOf rest

end

theorem idsOf_eq_flatMap (items : List Slot) : idsOf items = items.flatMap ids := by
  induction items with
  | nil => rfl
  | cons item rest ih => rw [idsOf, ih, List.flatMap_cons]

@[simp] theorem ids_nodes (numbers : List NodeId) : (nodes numbers).ids = numbers := by
  rw [nodes, ids, idsOf_eq_flatMap, List.flatMap_map]
  simp [ids]

/-- The children in a slot are among its references, in the same order. -/
theorem map_children_sublist (name : String) (slot : Slot) :
    ((slot.children name).map Prod.snd).Sublist slot.ids := by
  cases slot with
  | empty => exact .slnil
  | node id => exact List.Sublist.refl _
  | scalar found => exact .slnil
  | list items =>
      have listed : ∀ (items : List Slot) (start : Nat),
          (((items.zipIdx start).filterMap fun entry =>
            entry.1.asNode?.map fun id => ((⟨name, some entry.2⟩ : SlotKey), id)).map
              Prod.snd).Sublist (items.flatMap ids) := by
        intro items
        induction items with
        | nil => exact fun _ => .slnil
        | cons item rest ih =>
            intro start
            cases item with
            | node id => exact (ih (start + 1)).cons_cons id
            | empty => exact ih (start + 1)
            | scalar found => exact ih (start + 1)
            | list inner => exact (ih (start + 1)).trans (List.sublist_append_right _ _)
      rw [ids, idsOf_eq_flatMap]
      exact listed items 0

end Slot

namespace Node

def references (node : Node) : List NodeId :=
  node.slots.flatMap fun entry => entry.2.ids

theorem slotIn?_cons_of_ne {name key : String} {slot : Slot} {rest : List (String × Slot)}
    (different : key ≠ name) :
    slotIn? name ((key, slot) :: rest) = slotIn? name rest :=
  if_neg different

/-- Slots of different names stand at different places, so what they hold is among the references of
the node. -/
theorem map_childrenIn_subperm (node : Node) {names : List String} (unrepeated : names.Nodup) :
    ((node.childrenIn names).map Prod.snd).Subperm node.references := by
  have held : ∀ (slots : List (String × Slot)) (names : List String), names.Nodup →
      (names.flatMap fun name =>
        ((((slotIn? name slots).map (Slot.children name)).getD []).map Prod.snd)).Subperm
        (slots.flatMap fun entry => entry.2.ids) := by
    intro slots
    induction slots with
    | nil => intro names _; simp [slotIn?]
    | cons entry rest ih =>
        obtain ⟨key, slot⟩ := entry
        intro names unrepeated
        rw [List.flatMap_cons]
        by_cases named : key ∈ names
        · have others : ∀ name ∈ names.erase key, key ≠ name := by
            rintro name member rfl
            exact (unrepeated.mem_erase_iff.mp member).1 rfl
          refine ((List.perm_cons_erase named).flatMap_right _).subperm.trans ?_
          rw [List.flatMap_cons, slotIn?, if_pos rfl]
          refine (Slot.map_children_sublist key slot).subperm.append ?_
          rw [List.flatMap_congr fun name member => by rw [slotIn?_cons_of_ne (others name member)]]
          exact ih (names.erase key) (unrepeated.erase key)
        · have others : ∀ name ∈ names, key ≠ name := by
            rintro name member rfl
            exact named member
          rw [List.flatMap_congr fun name member => by rw [slotIn?_cons_of_ne (others name member)]]
          exact (ih names unrepeated).trans (List.sublist_append_right _ _).subperm
  rw [childrenIn, List.map_flatMap]
  exact held node.slots names unrepeated

theorem mem_of_slot? {node : Node} {name : String} {slot : Slot}
    (found : node.slot? name = some slot) :
    (name, slot) ∈ node.slots :=
  mem_of_lookup ((slotIn?_eq_lookup name node.slots).symm.trans found)

theorem slot?_of_mem {node : Node} (unique : (node.slots.map Prod.fst).Nodup) {name : String}
    {slot : Slot} (member : (name, slot) ∈ node.slots)
    : node.slot? name = some slot :=
  (slotIn?_eq_lookup name node.slots).trans (lookup_of_mem unique member)

theorem mem_references_of_child? (node : Node) {name : String} {id : NodeId}
    (found : node.child? name = some id) :
    id ∈ node.references := by
  obtain ⟨slot, held, single⟩ := Option.bind_eq_some_iff.mp found
  refine List.mem_flatMap.mpr ⟨(name, slot), mem_of_slot? held, ?_⟩
  cases slot with
  | node other => exact Option.some.inj single ▸ List.mem_singleton.mpr rfl
  | _ => cases single

theorem setSlotIn_of_notMem {name : String} {slot : Slot} {slots : List (String × Slot)}
    (fresh : name ∉ slots.map Prod.fst) : setSlotIn name slot slots = slots ++ [(name, slot)] := by
  induction slots with
  | nil => rfl
  | cons entry rest ih =>
      rw [List.map_cons, List.mem_cons, not_or] at fresh
      rw [setSlotIn, if_neg (Ne.symm fresh.1), ih fresh.2, List.cons_append]

end Node

namespace Builder

variable {builder : Builder} {id other : NodeId} {node : Node} {name : String} {slot : Slot}

@[simp] theorem size_push : (builder.push node).2.size = builder.size + 1 :=
  Array.size_push ..

theorem get?_push_self : (builder.push node).2.get? builder.size = some node :=
  Array.getElem?_push_size

theorem get?_push_of_lt (earlier : id < builder.size) :
    (builder.push node).2.get? id = builder.get? id := by
  rw [size] at earlier
  rw [push, get?, Array.getElem?_push, if_neg (Nat.ne_of_lt earlier), get?]

@[simp] theorem size_setSlot : (builder.setSlot id name slot).size = builder.size :=
  Array.size_modify ..

theorem get?_setSlot_self (found : builder.get? id = some node) :
    (builder.setSlot id name slot).get? id = some (node.setSlot name slot) := by
  rw [get?] at found
  rw [setSlot, modify, get?, Array.getElem?_modify, if_pos rfl, found, Option.map_some]

theorem get?_setSlot_of_ne (different : other ≠ id) :
    (builder.setSlot id name slot).get? other = builder.get? other := by
  rw [setSlot, modify, get?, Array.getElem?_modify, if_neg (Ne.symm different), get?]

theorem lt_size_of_get? (found : builder.get? id = some node) : id < builder.size :=
  (Array.getElem?_eq_some_iff.mp found).1

end Builder
end Spellspan.Tree

namespace Spellspan.SyntaxTree

open Spellspan.Tree (Node NodeId)

def references (tree : SyntaxTree) : List NodeId :=
  tree.nodes.toList.flatMap Node.references

/-- Every node but the root is referred to at most once, and only from an earlier node. -/
structure Branching (tree : SyntaxTree) : Prop where
  rooted : tree.root = 0
  onward : ∀ {id node child}, tree.get? id = some node → child ∈ node.references → id < child
  existing : ∀ id ∈ tree.references, id < tree.size
  unique : tree.references.Nodup

theorem mem_references {tree : SyntaxTree} {id child : NodeId} {node : Node}
    (found : tree.get? id = some node) (member : child ∈ node.references)
    : child ∈ tree.references :=
  List.mem_flatMap.mpr ⟨node, Array.mem_toList_iff.mpr (Array.mem_of_getElem? found), member⟩

namespace Branching

variable {tree : SyntaxTree} {id other child : NodeId} {node second : Node}

theorem nodup_references (branching : tree.Branching) (found : tree.get? id = some node) :
    node.references.Nodup :=
  (List.nodup_flatMap.mp branching.unique).1 node
    (Array.mem_toList_iff.mpr (Array.mem_of_getElem? found))

/-- A node that is referred to has one owner. -/
theorem owner_unique (branching : tree.Branching) (found : tree.get? id = some node)
    (held : child ∈ node.references) (foundOther : tree.get? other = some second)
    (heldOther : child ∈ second.references) :
    id = other := by
  have apart := List.pairwise_iff_getElem.mp (List.nodup_flatMap.mp branching.unique).2
  simp only [SyntaxTree.get?, Array.getElem?_eq_some_iff] at found foundOther
  obtain ⟨bound, rfl⟩ := found
  obtain ⟨boundOther, rfl⟩ := foundOther
  rcases Nat.lt_trichotomy id other with less | same | greater
  · exact absurd heldOther (apart id other (by simpa using bound)
      (by simpa using boundOther) less held)
  · exact same
  · exact absurd held (apart other id (by simpa using boundOther)
      (by simpa using bound) greater heldOther)

theorem root_notMem (branching : tree.Branching) (found : tree.get? id = some node) :
    tree.root ∉ node.references := by
  intro held
  have later := branching.onward found held
  rw [branching.rooted] at later
  exact Nat.not_lt_zero _ later

end Branching
end Spellspan.SyntaxTree
