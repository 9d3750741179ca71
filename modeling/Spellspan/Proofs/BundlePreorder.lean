import Mathlib
import Spellspan.Proofs.Preorder
import Spellspan.Proofs.WellFormedJson
import Spellspan.Tree.Bundle

/-!
The tree of a bundle is in preorder. A record takes its number before its fields are read, and
reading a value touches no node that was there before, so what a value adds is an interval of
numbers.
-/
set_option autoImplicit false

namespace Spellspan.Tree

namespace Builder

/-- The nodes of a table stay as they are, and what is added to them is in preorder below some
roots. -/
structure Appends (before after : Builder) (roots : List NodeId) : Prop where
  kept : ∀ id < before.size, after.get? id = before.get? id
  filled : Preorder after.nodes roots before.size after.size

namespace Appends

variable {before middle after : Builder} {roots others : List NodeId}

theorem refl (builder : Builder) : builder.Appends builder [] :=
  ⟨fun _ _ => rfl, .nil⟩

theorem size_le (appends : before.Appends after roots) : before.size ≤ after.size :=
  appends.filled.le

theorem trans (first : before.Appends middle roots) (second : middle.Appends after others) :
    before.Appends after (roots ++ others) where
  kept id earlier :=
    (second.kept id (Nat.lt_of_lt_of_le earlier first.size_le)).trans (first.kept id earlier)
  filled := (first.filled.congr fun id _ last => second.kept id last).append second.filled

end Appends

/-- A node of a table gets further references, to what is added in preorder; the other nodes stay as
they are. -/
structure Grows (before after : Builder) (id : NodeId) (node : Node) : Prop where
  grown : ∃ larger roots, after.get? id = some larger ∧
    larger.references = node.references ++ roots ∧
    Preorder after.nodes roots before.size after.size
  kept : ∀ other < before.size, other ≠ id → after.get? other = before.get? other

namespace Grows

variable {before middle after : Builder} {id : NodeId} {node : Node} {roots : List NodeId}

theorem refl (found : before.get? id = some node) : before.Grows before id node :=
  ⟨⟨node, [], found, (List.append_nil _).symm, .nil⟩, fun _ _ _ => rfl⟩

/-- A slot that takes the roots of what was added is one step of growing. -/
theorem step {slot : Slot} {name : String} (found : before.get? id = some node)
    (fresh : name ∉ node.slots.map Prod.fst) (appends : before.Appends middle slot.ids)
    (later : (middle.setSlot id name slot).Grows after id (node.setSlot name slot)) :
    before.Grows after id node := by
  have bound := lt_size_of_get? found
  have larger := appends.size_le
  obtain ⟨⟨grown, roots, foundGrown, references, filled⟩, kept⟩ := later
  rw [size_setSlot] at filled kept
  refine ⟨⟨grown, slot.ids ++ roots, foundGrown, ?_, .append ?_ filled⟩,
    fun other earlier different => ?_⟩
  · rw [references, Node.setSlot, Node.references, Node.setSlotIn_of_notMem fresh,
      List.flatMap_append, Node.references, List.append_assoc]
    simp
  · refine appends.filled.congr fun other first last => ?_
    have different : other ≠ id := Nat.ne_of_gt (Nat.lt_of_lt_of_le bound first)
    exact (kept other last different).trans (get?_setSlot_of_ne different)
  · have inMiddle : other < middle.size := Nat.lt_of_lt_of_le earlier larger
    rw [kept other inMiddle different, get?_setSlot_of_ne different, appends.kept other earlier]

theorem subtree (node : Node) (fresh : node.references = [])
    (grows : (before.push node).2.Grows after before.size node) :
    before.Appends after [before.size] := by
  obtain ⟨⟨larger, roots, found, references, filled⟩, kept⟩ := grows
  rw [fresh, List.nil_append] at references
  rw [size_push] at filled kept
  refine ⟨fun id earlier => ?_, .subtree found (references ▸ filled)⟩
  rw [kept id (Nat.lt_succ_of_lt earlier) (Nat.ne_of_lt earlier), get?_push_of_lt earlier]

end Grows
end Builder

namespace Bundle

open Json (WellFormed ItemsWellFormed FieldsWellFormed)
open Relation (ReflTransGen)

mutual

/-- The nodes that a value adds are in preorder below the references of its slot. -/
theorem appends_readSlot (text : List Char) (encoding : Text.OffsetEncoding) (value : Json)
    (wellFormed : value.WellFormed) (builder : Builder) :
    builder.Appends (readSlot text encoding value builder).2
      (readSlot text encoding value builder).1.ids := by
  cases value with
  | object fields =>
      rw [readSlot]
      split
      · refine Builder.Grows.subtree (nodeOf text encoding fields) rfl ?_
        exact grows_readFields text encoding fields wellFormed.2 wellFormed.1
          _ Builder.get?_push_self (by simp [nodeOf])
      · exact .refl builder
  | array items => exact appends_readItems text encoding items wellFormed builder
  | null => exact .refl builder
  | bool flag => exact .refl builder
  | number number => exact .refl builder
  | string string => exact .refl builder

theorem appends_readItems (text : List Char) (encoding : Text.OffsetEncoding) (items : List Json)
    (wellFormed : ItemsWellFormed items) (builder : Builder) :
    builder.Appends (readItems text encoding items builder).2
      (Slot.idsOf (readItems text encoding items builder).1) := by
  cases items with
  | nil => exact .refl builder
  | cons item rest =>
      exact (appends_readSlot text encoding item wellFormed.1 builder).trans
        (appends_readItems text encoding rest wellFormed.2 _)

/-- The fields of a record give its node references to what they add. -/
theorem grows_readFields (text : List Char) (encoding : Text.OffsetEncoding) {id : NodeId}
    (fields : List (String × Json)) (wellFormed : FieldsWellFormed fields)
    (unrepeated : (fields.map Prod.fst).Nodup) {node : Node} (builder : Builder)
    (found : builder.get? id = some node)
    (fresh : ∀ name ∈ fields.map Prod.fst, name ∉ node.slots.map Prod.fst) :
    builder.Grows (readFields text encoding id fields builder) id node := by
  cases fields with
  | nil => exact .refl found
  | cons entry rest =>
      obtain ⟨key, value⟩ := entry
      rw [List.map_cons, List.nodup_cons] at unrepeated
      have freshKey := fresh key List.mem_cons_self
      have freshRest : ∀ name ∈ rest.map Prod.fst, name ∉ node.slots.map Prod.fst :=
        fun name member =>
        fresh name (List.mem_cons_of_mem _ member)
      rw [readFields]
      split
      · exact grows_readFields text encoding rest wellFormed.2 unrepeated.2 builder found freshRest
      · have appends := appends_readSlot text encoding value wellFormed.1 builder
        have kept := (appends.kept id (Builder.lt_size_of_get? found)).trans found
        refine .step found freshKey appends ?_
        refine grows_readFields text encoding rest wellFormed.2 unrepeated.2
          _ (Builder.get?_setSlot_self kept) ?_
        intro name member
        have different : name ≠ key := fun same => unrepeated.1 (same ▸ member)
        rw [Node.setSlot, Node.setSlotIn_of_notMem freshKey]
        simp [different, freshRest name member]

end

theorem inPreorder_of_treeOf? {ast : Json} {text : List Char} {encoding : Text.OffsetEncoding}
    {tree : SyntaxTree} (wellFormed : ast.WellFormed)
    (read : treeOf? ast text encoding = some tree) :
    tree.InPreorder := by
  cases ast with
  | object fields =>
      rw [treeOf?] at read
      split at read
      · obtain rfl := Option.some.inj read
        have grows := grows_readFields text encoding fields wellFormed.2 wellFormed.1
          (Builder.push {} (nodeOf text encoding fields)).2 Builder.get?_push_self
            (by simp [nodeOf])
        exact ⟨rfl, (Builder.Grows.subtree (nodeOf text encoding fields) rfl grows).filled⟩
      · cases read
  | _ => cases read

theorem inPreorder_of_ofText? {text : String} {bundle : Bundle} {file : SourceFile}
    (read : ofText? text = some bundle) (loaded : bundle.load? = some file)
    : file.tree.InPreorder := by
  obtain ⟨value, parsed, fromJson⟩ := Option.bind_eq_some_iff.mp read
  simp only [ofJson?, Option.bind_eq_bind, Option.bind_eq_some_iff] at fromJson
  obtain ⟨fields, record, filename, _, source, _, ast, found, encoding, _, made⟩ := fromJson
  obtain rfl := Option.some.inj made
  obtain ⟨tree, described, rfl⟩ := Option.map_eq_some_iff.mp loaded
  exact inPreorder_of_treeOf?
    (Json.wellFormed_of_lookup ((Json.wellFormed_of_parseAs? parsed).recordFields? record) found)
      described

/-- The tree of a value is one tree in preorder: its root has the number zero, a node refers only to
later nodes, every other node is referred to from one place, and what a node leads to is an interval
from the node on. So a walk meets no cycle, no shared node, no missing child and no missing root. -/
theorem treeOf?_is_preorder_tree {ast : Json} {text : List Char} {encoding : Text.OffsetEncoding}
    {tree : SyntaxTree} (wellFormed : ast.WellFormed)
    (read : treeOf? ast text encoding = some tree) :
    tree.root = 0 ∧
    (∀ id node child, tree.get? id = some node → child ∈ node.references →
      id < child ∧ child < tree.size) ∧
    (∀ child, 0 < child → child < tree.size →
      ∃ owner node, tree.get? owner = some node ∧ node.references.count child = 1 ∧
        ∀ other second, tree.get? other = some second → child ∈ second.references → other = owner) ∧
    (∀ id < tree.size, ∃ stop, ∀ other, ReflTransGen (Owns tree.nodes) id other ↔
      id ≤ other ∧ other < stop) ∧
    ∀ walker : Walker, walker.tree = tree → (∀ entry ∈ walker.table.registered, entry.2.Nodup) →
      walker.walk.cycle = none ∧
      ∀ error ∈ walker.walk.errors, (∀ id parent slot, error ≠ .sharedNode id parent slot) ∧
        (∀ id parent slot, error ≠ .danglingChild id parent slot) ∧
          ∀ id, error ≠ .missingRoot id := by
  have ordered := inPreorder_of_treeOf? wellFormed read
  have branching := ordered.branching
  refine ⟨ordered.1, fun id node child found held => ⟨branching.onward found held, ?_⟩,
    fun child positive bound => ?_, fun id bound => ?_, ?_⟩
  · exact branching.existing child (SyntaxTree.mem_references found held)
  · have referred : child ∈ tree.references := by
      refine ordered.perm_references.mem_iff.mpr (List.mem_range'_1.mpr ⟨positive, ?_⟩)
      omega
    obtain ⟨node, listed, held⟩ := List.mem_flatMap.mp referred
    obtain ⟨owner, found⟩ := Array.mem_iff_getElem?.mp (Array.mem_toList_iff.mp listed)
    exact ⟨owner, node, found, List.count_eq_one_of_mem (branching.nodup_references found) held,
      fun other second foundOther heldOther =>
        branching.owner_unique foundOther heldOther found held⟩
  · obtain ⟨stop, subtree⟩ := ordered.2.exists_subtree (Nat.zero_le id) bound
    exact ⟨stop, fun other => by simpa using subtree.leads_iff other⟩
  · rintro walker rfl unrepeated
    have listed := Walker.nodup_slotsFor unrepeated
    obtain ⟨acyclic, unshared, complete⟩ := Walker.walk_of_branching branching listed
    refine ⟨acyclic, fun error member => ⟨?_, ?_, ?_⟩⟩
    · rintro id parent slot rfl
      exact unshared id parent slot member
    · rintro id parent slot rfl
      exact complete id parent slot member
    · rintro id rfl
      obtain ⟨rfl, missing⟩ :=
        walker.walk_justified
          (fun found => (Walker.nodup_childrenOf branching listed found).of_map) _
        member
      have positive : 0 < walker.tree.size := (ordered.2.roots_within List.mem_cons_self).2
      rw [SyntaxTree.get?_eq_none_iff, ordered.1] at missing
      omega

/-- A program whose statement holds a record below two lists, a record with a number as its type,
and values that are no nodes. -/
def nestedRecord : Json :=
  .object [("type", .string "Program"), ("body", .array [
    .object [("type", .string "Group"), ("items", .array [
      .array [.object [("type", .string "Leaf"), ("name", .string "leaf")]], .null,
      .object [("type", .nat 5), ("value", .object [("cooked", .string "text")])]])],
    .object [("raw", .string "no node")]])]

def nestedTree : SyntaxTree where
  nodes := #[
    { kind := "Program", span := {}, slots := [("body", .list [.node 1, .scalar "\x7b...\x7d"])] },
    { kind := "Group", span := {}, slots := [("items", .list [.list [.node 2], .empty, .node 3])] },
    { kind := "Leaf", span := {}, value := some (.string "leaf") },
    { kind := "Unknown", span := {}, value := some (.string "text") }]
  root := 0

theorem treeOf?_is_preorder_tree_nested :
    nestedRecord.WellFormed ∧ treeOf? nestedRecord [] .utf8 = some nestedTree ∧
    (∃ owner node, nestedTree.get? owner = some node ∧ node.references.count 2 = 1 ∧
      ∀ other second, nestedTree.get? other = some second → 2 ∈ second.references → other = owner) ∧
    (Walker.walk { tree := nestedTree, table := {} }).cycle = none := by
  have wellFormed : nestedRecord.WellFormed := by
    simp [nestedRecord, WellFormed, ItemsWellFormed, FieldsWellFormed, Json.nat]
  have read : treeOf? nestedRecord [] .utf8 = some nestedTree := by cbv
  obtain ⟨_, _, owned, _, walked⟩ := treeOf?_is_preorder_tree wellFormed read
  exact ⟨wellFormed, read, owned 2 (by decide) (by decide),
    (walked { tree := nestedTree, table := {} } rfl (by decide)).1⟩

end Bundle
end Spellspan.Tree
