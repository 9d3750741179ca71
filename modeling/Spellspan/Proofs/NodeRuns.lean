import Mathlib
import Spellspan.Proofs.References
import Spellspan.Tree.ChildTable

/-!
Runs of nodes at the end of a table that is being filled. What such a run holds, together with the
nodes that are still to be attached, is counted as a multiset: every number occurs once, so
attaching a node takes it out of the one part and puts it into the other. A run grows by another run
behind it, and by an owner in front of it that takes some of the unattached nodes.
-/
set_option autoImplicit false

namespace Spellspan.Tree

/-! ## Slots and nodes as a traversal expects them -/

namespace Slot

/-- A slot that holds one node, or a list of nodes. -/
def OnlyNodes (slot : Slot) : Prop :=
  (∃ id, slot = .node id) ∨ ∃ numbers, slot = nodes numbers

namespace OnlyNodes

variable {slot : Slot}

theorem misfits_eq_nil (only : slot.OnlyNodes) (name : String) : slot.misfits name = [] := by
  rcases only with ⟨id, rfl⟩ | ⟨numbers, rfl⟩
  · rfl
  · refine List.filterMap_eq_nil_iff.mpr ?_
    rintro ⟨item, index⟩ member
    obtain ⟨id, _, rfl⟩ := List.mem_map.mp (List.fst_mem_of_mem_zipIdx member)
    rfl

theorem exists_children (only : slot.OnlyNodes) (name : String) {id : NodeId}
    (member : id ∈ slot.ids) :
    ∃ key, (key, id) ∈ slot.children name := by
  rcases only with ⟨held, rfl⟩ | ⟨numbers, rfl⟩
  · obtain rfl := List.mem_singleton.mp member
    exact ⟨_, List.mem_singleton.mpr rfl⟩
  · rw [ids_nodes] at member
    obtain ⟨index, found⟩ := List.mem_iff_getElem?.mp member
    refine ⟨⟨name, some index⟩, mem_children.mpr ⟨rfl, _, rfl, ?_⟩⟩
    rw [List.getElem?_map, found, Option.map_some]

end OnlyNodes
end Slot

def markSlots : List String :=
  ["computed", "shorthand"]

theorem mem_of_slotsIn? {entries : List (String × List String)} {kind : String}
    {names : List String} (found : slotsIn? kind entries = some names)
    : (kind, names) ∈ entries :=
  mem_of_lookup ((slotsIn?_eq_lookup kind entries).symm.trans found)

theorem notMem_markSlots_of_slotsIn? {kind name : String} {names : List String}
    (found : slotsIn? kind standardSlots = some names) (listed : name ∈ names)
    : name ∉ markSlots := by
  have apart : ∀ entry ∈ standardSlots, ∀ name ∈ entry.2, name ∉ markSlots := by decide
  exact apart (kind, names) (mem_of_slotsIn? found) name listed

namespace Node

theorem mem_setSlotIn {name : String} {slot : Slot} {slots : List (String × Slot)}
    {entry : String × Slot} (member : entry ∈ setSlotIn name slot slots)
    : entry = (name, slot) ∨ entry ∈ slots := by
  induction slots with
  | nil => exact .inl (List.mem_singleton.mp member)
  | cons first rest ih =>
      rw [setSlotIn] at member
      split at member
      · exact (List.mem_cons.mp member).imp_right (List.mem_cons_of_mem _)
      · rcases List.mem_cons.mp member with rfl | later
        · exact .inr List.mem_cons_self
        · exact (ih later).imp_right (List.mem_cons_of_mem _)

theorem nodup_setSlotIn {name : String} {slot : Slot} {slots : List (String × Slot)}
    (unique : (slots.map Prod.fst).Nodup) :
    ((setSlotIn name slot slots).map Prod.fst).Nodup := by
  induction slots with
  | nil => exact List.nodup_singleton name
  | cons first rest ih =>
      obtain ⟨apart, uniqueRest⟩ := List.nodup_cons.mp unique
      rw [setSlotIn]
      split
      · next same => exact same ▸ unique
      · next different =>
          refine List.nodup_cons.mpr ⟨fun member => ?_, ih uniqueRest⟩
          obtain ⟨entry, held, same⟩ := List.mem_map.mp member
          rcases mem_setSlotIn held with rfl | earlier
          · exact different same.symm
          · exact apart (same ▸ List.mem_map_of_mem earlier)

/-- A slot that is set adds what it holds, and may take away what stood there. -/
theorem references_setSlot_le (node : Node) (name : String) (slot : Slot) :
    ((node.setSlot name slot).references : Multiset NodeId) ≤ slot.ids + node.references := by
  have inSlots : ∀ slots : List (String × Slot),
      (((setSlotIn name slot slots).flatMap fun entry =>
        entry.2.ids : List NodeId) : Multiset NodeId) ≤
        slot.ids + (slots.flatMap fun entry => entry.2.ids : List NodeId) := by
    intro slots
    induction slots with
    | nil => simp [setSlotIn]
    | cons first rest ih =>
        rw [setSlotIn]
        split
        · simp only [List.flatMap_cons, ← Multiset.coe_add]
          exact add_le_add_right (Multiset.le_add_left _ _) _
        · simp only [List.flatMap_cons, ← Multiset.coe_add]
          calc _ ≤ (first.2.ids : Multiset NodeId) +
            (slot.ids + (rest.flatMap fun entry => entry.2.ids : List NodeId)) :=
                add_le_add_right ih _
            _ = _ := by abel
  exact inSlots node.slots

/-- A node of a standard kind: its slots hold nodes, the marks apart. -/
structure Standard (node : Node) : Prop where
  known : node.kind ∈ standardSlots.map Prod.fst
  held : ∀ entry ∈ node.slots, entry.1 ∈ markSlots ∨ entry.2.OnlyNodes

/-- A node of a kind that is noted with all its slots, which hold nodes. -/
structure Noted (kinds : List (String × List String)) (node : Node) : Prop where
  known : ∃ names, slotsIn? node.kind kinds = some names ∧ ∀ entry ∈ node.slots, entry.1 ∈ names
  held : ∀ entry ∈ node.slots, entry.2.OnlyNodes
  unique : (node.slots.map Prod.fst).Nodup

theorem Standard.setSlot {node : Node} (standard : node.Standard) {name : String} {slot : Slot}
    (holds : name ∈ markSlots ∨ slot.OnlyNodes) : (node.setSlot name slot).Standard where
  known := standard.known
  held entry member := by
    rcases mem_setSlotIn member with rfl | earlier
    · exact holds
    · exact standard.held entry earlier

/-- A node that fits the standard table, or the kinds that are noted. -/
def Fits (kinds : List (String × List String)) (node : Node) : Prop :=
  node.Standard ∨ node.Noted kinds

end Node

/-! ## Kinds that are noted -/

/-- Every kind that is noted stays noted, with its slots. -/
def Covers (earlier later : List (String × List String)) : Prop :=
  ∀ kind names, slotsIn? kind earlier = some names →
    ∃ more, slotsIn? kind later = some more ∧ names ⊆ more

theorem Covers.refl (kinds : List (String × List String)) : Covers kinds kinds :=
  fun _ names found => ⟨names, found, List.Subset.refl _⟩

theorem Covers.trans {first second third : List (String × List String)} (left : Covers first second)
    (right : Covers second third) : Covers first third := by
  intro kind names found
  obtain ⟨more, foundMore, included⟩ := left kind names found
  obtain ⟨most, foundMost, includedMore⟩ := right kind more foundMore
  exact ⟨most, foundMost, List.Subset.trans included includedMore⟩

theorem Node.Fits.mono {earlier later : List (String × List String)} (covers : Covers earlier later)
    {node : Node} (fits : node.Fits earlier)
    : node.Fits later := by
  rcases fits with standard | ⟨⟨names, known, listed⟩, held, unique⟩
  · exact .inl standard
  · obtain ⟨more, found, included⟩ := covers _ _ known
    exact .inr ⟨⟨more, found, fun entry member => included (listed entry member)⟩, held, unique⟩

/-! ## Runs of nodes -/

def held (nodes : List Node) : Multiset NodeId :=
  (nodes.flatMap Node.references : List NodeId)

@[simp] theorem held_nil : held [] = 0 :=
  rfl

@[simp] theorem held_cons (node : Node) (rest : List Node) :
    held (node :: rest) = node.references + held rest := by
  rw [held, List.flatMap_cons, ← Multiset.coe_add, held]

@[simp] theorem held_append (front back : List Node) :
    held (front ++ back) = held front + held back := by
  rw [held, List.flatMap_append, ← Multiset.coe_add, held, held]

/-- A rank falls along the references of the nodes with the numbers from `start` on. -/
def Falls (rank : Nat → Nat) (start : Nat) (nodes : List Node) : Prop :=
  ∀ {index : Nat} {node : Node} {child : Nat}, nodes[index]? = some node → child ∈ node.references →
    rank child < rank (start + index)

/-- Nodes with the numbers from `start` on that refer to each other, each at most once and only
onward. The loose ones are referred to by none, and lead down at most `height` steps. -/
structure NodeRun (kinds : List (String × List String)) (start : Nat) (nodes : List Node)
    (loose : Multiset NodeId) (height : Nat)
    : Prop where
  unique : (held nodes + loose).Nodup
  inside : ∀ {id : Nat}, id ∈ held nodes + loose → start ≤ id ∧ id < start + nodes.length
  onward : ∀ {index : Nat} {node : Node} {child : Nat}, nodes[index]? = some node →
    child ∈ node.references →
    start + index < child
  fitting : ∀ node ∈ nodes, node.Fits kinds
  ranked : ∃ rank : Nat → Nat, Falls rank start nodes ∧ ∀ id ∈ loose, rank id ≤ height

theorem mem_held_of_getElem? {nodes : List Node} {index : Nat} {node : Node} {child : NodeId}
    (found : nodes[index]? = some node) (member : child ∈ node.references)
    : child ∈ held nodes :=
  Multiset.mem_coe.mpr (List.mem_flatMap.mpr ⟨node, List.mem_of_getElem? found, member⟩)

namespace NodeRun

variable {kinds more : List (String × List String)} {start : Nat} {nodes others : List Node}
    {loose rest : Multiset NodeId}
  {height taller : Nat}

theorem nil (kinds : List (String × List String)) (start : Nat) : NodeRun kinds start [] 0 0 where
  unique := Multiset.nodup_zero
  inside := by simp
  onward := by simp
  fitting := by simp
  ranked := ⟨fun _ => 0, by simp [Falls], by simp⟩

theorem mono (nodeRun : NodeRun kinds start nodes loose height) (covers : Covers kinds more) :
    NodeRun more start nodes loose height :=
  { nodeRun with fitting := fun node member => (nodeRun.fitting node member).mono covers }

/-- Nodes may be given up, and a bound may be raised. -/
theorem weaken (nodeRun : NodeRun kinds start nodes loose height) (fewer : rest ≤ loose)
    (higher : height ≤ taller) :
    NodeRun kinds start nodes rest taller where
  unique := Multiset.nodup_of_le (add_le_add_right fewer _) nodeRun.unique
  inside member := nodeRun.inside (Multiset.mem_of_le (add_le_add_right fewer _) member)
  onward := nodeRun.onward
  fitting := nodeRun.fitting
  ranked := by
    obtain ⟨rank, falls, bounded⟩ := nodeRun.ranked
    exact ⟨rank, falls, fun id member =>
      Nat.le_trans (bounded id (Multiset.mem_of_le fewer member)) higher⟩

/-- A position of two runs is one of the first or, behind it, one of the second. -/
theorem position_append {index : Nat} {node : Node}
    (found : (nodes ++ others)[index]? = some node) :
    (index < nodes.length ∧ nodes[index]? = some node) ∨ ∃ later, index = nodes.length + later ∧
      others[later]? = some node := by
  by_cases early : index < nodes.length
  · exact .inl ⟨early, by rwa [List.getElem?_append_left early] at found⟩
  · rw [List.getElem?_append_right (by omega)] at found
    exact .inr ⟨index - nodes.length, by omega, found⟩

theorem ranked_append (first : NodeRun kinds start nodes loose height)
    (second : NodeRun kinds (start + nodes.length) others rest height) :
    ∃ rank : Nat → Nat, Falls rank start (nodes ++ others) ∧
      ∀ id ∈ loose + rest, rank id ≤ height := by
  obtain ⟨rank, falls, bounded⟩ := first.ranked
  obtain ⟨rankOther, fallsOther, boundedOther⟩ := second.ranked
  let joined (id : Nat) : Nat := if id < start + nodes.length then rank id else rankOther id
  have low : ∀ {id : Nat}, id < start + nodes.length → joined id = rank id :=
    fun early => if_pos early
  have high : ∀ {id : Nat}, start + nodes.length ≤ id → joined id = rankOther id :=
    fun late => if_neg (Nat.not_lt.mpr late)
  refine ⟨joined, fun {index node child} found member => ?_, fun id member => ?_⟩
  · rcases position_append found with ⟨early, here⟩ | ⟨later, rfl, late⟩
    · have inFirst := first.inside (Multiset.mem_add.mpr (.inl (mem_held_of_getElem? here member)))
      rw [low inFirst.2, low (by omega)]
      exact falls here member
    · have inSecond :=
        second.inside (Multiset.mem_add.mpr (.inl (mem_held_of_getElem? late member)))
      rw [high inSecond.1, high (by omega), ← Nat.add_assoc]
      exact fallsOther late member
  · rcases Multiset.mem_add.mp member with early | late
    · rw [low (first.inside (Multiset.mem_add.mpr (.inr early))).2]
      exact bounded id early
    · rw [high (second.inside (Multiset.mem_add.mpr (.inr late))).1]
      exact boundedOther id late

theorem append (first : NodeRun kinds start nodes loose height)
    (second : NodeRun kinds (start + nodes.length) others rest height) :
    NodeRun kinds start (nodes ++ others) (loose + rest) height := by
  have regroup : held (nodes ++ others) + (loose + rest) = (held nodes + loose) +
      (held others + rest) := by
    rw [held_append]
    abel
  refine ⟨?_, fun {id} member => ?_, fun {index node child} found member => ?_,
    fun node member => ?_, first.ranked_append second⟩
  · rw [regroup]
    refine Multiset.nodup_add.mpr ⟨first.unique, second.unique, Multiset.disjoint_left.mpr
      fun early late => ?_⟩
    have before := first.inside early
    have behind := second.inside late
    omega
  · rw [regroup] at member
    rw [List.length_append]
    rcases Multiset.mem_add.mp member with early | late
    · have bounds := first.inside early
      omega
    · have bounds := second.inside late
      omega
  · rcases position_append found with ⟨_, early⟩ | ⟨later, rfl, late⟩
    · exact first.onward early member
    · have onward := second.onward late member
      omega
  · exact (List.mem_append.mp member).elim (first.fitting node) (second.fitting node)

theorem ranked_cons {node : Node} (nodeRun : NodeRun kinds (start + 1) nodes loose height)
    (takes : node.references + rest ≤ loose) :
    ∃ rank : Nat → Nat, Falls rank start (node :: nodes) ∧
      ∀ id ∈ start ::ₘ rest, rank id ≤ height + 1 := by
  obtain ⟨rank, falls, bounded⟩ := nodeRun.ranked
  let raised (id : Nat) : Nat := if id = start then height + 1 else rank id
  have later : ∀ {id : Nat}, start < id → raised id = rank id :=
    fun behind => if_neg (Nat.ne_of_gt behind)
  have own : raised start = height + 1 := if_pos rfl
  have taken : ∀ {id : Nat}, id ∈ node.references + rest → raised id ≤ height := by
    intro id member
    have behind := nodeRun.inside (Multiset.mem_add.mpr (.inr (Multiset.mem_of_le takes member)))
    rw [later behind.1]
    exact bounded id (Multiset.mem_of_le takes member)
  refine ⟨raised, fun {index owner child} found member => ?_, fun id member => ?_⟩
  · cases index with
    | zero =>
        obtain rfl := Option.some.inj found
        rw [Nat.add_zero, own]
        exact Nat.lt_succ_of_le (taken (Multiset.mem_add.mpr (.inl (Multiset.mem_coe.mpr member))))
    | succ index =>
        have onward := nodeRun.onward found member
        rw [later (by omega), later (by omega), Nat.add_comm index 1, ← Nat.add_assoc]
        exact falls found member
  · rcases Multiset.mem_cons.mp member with rfl | spare
    · exact Nat.le_of_eq own
    · exact Nat.le_succ_of_le (taken (Multiset.mem_add.mpr (.inr spare)))

/-- An owner in front of a run takes some of its loose nodes, and is loose itself. -/
theorem cons {node : Node} (nodeRun : NodeRun kinds (start + 1) nodes loose height)
    (fits : node.Fits kinds) (takes : node.references + rest ≤ loose) :
    NodeRun kinds start (node :: nodes) (start ::ₘ rest) (height + 1) := by
  have regroup : held (node :: nodes) + (start ::ₘ rest) =
      start ::ₘ (held nodes + (node.references + rest)) := by
    rw [held_cons, ← Multiset.singleton_add, ← Multiset.singleton_add]
    abel
  have behind : ∀ {id : Nat}, id ∈ held nodes + (node.references + rest) →
      start < id ∧ id < start + 1 + nodes.length :=
    fun member => nodeRun.inside (Multiset.mem_of_le (add_le_add_right takes _) member)
  refine ⟨?_, fun {id} member => ?_, fun {index owner child} found member => ?_,
    fun owner member => ?_, nodeRun.ranked_cons takes⟩
  · rw [regroup]
    refine Multiset.nodup_cons.mpr ⟨fun member => Nat.lt_irrefl _ (behind member).1, ?_⟩
    exact Multiset.nodup_of_le (add_le_add_right takes _) nodeRun.unique
  · rw [regroup] at member
    rw [List.length_cons]
    rcases Multiset.mem_cons.mp member with rfl | later
    · omega
    · have bounds := behind later
      omega
  · cases index with
    | zero =>
        obtain rfl := Option.some.inj found
        exact (behind (Multiset.mem_add.mpr
          (.inr (Multiset.mem_add.mpr (.inl (Multiset.mem_coe.mpr member)))))).1
    | succ index =>
        have onward := nodeRun.onward found member
        omega
  · rcases List.mem_cons.mp member with rfl | later
    · exact fits
    · exact nodeRun.fitting owner later

theorem leaf {node : Node} (fits : node.Fits kinds) (bare : node.references = []) :
    NodeRun kinds start [node] {start} 1 := by
  have closed := (nil kinds (start + 1)).cons fits (show (node.references : Multiset NodeId) + 0 ≤
    0 by rw [bare]; rfl)
  simpa using closed

/-- The kind of a node may change, as long as the node keeps its references and fits. -/
theorem modify (nodeRun : NodeRun kinds start nodes loose height) (index : Nat)
    {change : Node → Node} (same : ∀ node, (change node).references = node.references)
    (fits : ∀ node, node.Fits kinds → (change node).Fits kinds) :
    NodeRun kinds start (nodes.modify index change) loose height := by
  have original : ∀ {position : Nat} {node : Node},
    (nodes.modify index change)[position]? = some node →
      ∃ former : Node, nodes[position]? = some former ∧ node.references = former.references ∧
        (former.Fits kinds → node.Fits kinds) := by
    intro position node found
    rw [List.getElem?_modify] at found
    obtain ⟨former, foundFormer, changed⟩ := Option.map_eq_some_iff.mp found
    refine ⟨former, foundFormer, ?_⟩
    split at changed
    · exact changed ▸ ⟨same former, fits former⟩
    · exact changed ▸ ⟨rfl, fun fits => fits⟩
  have heldSame : held (nodes.modify index change) = held nodes := by
    rw [held, held, List.flatMap_def, List.flatMap_def]
    congr 2
    refine List.ext_getElem? fun position => ?_
    rw [List.getElem?_map, List.getElem?_map]
    cases found : (nodes.modify index change)[position]? with
    | none =>
        rw [List.getElem?_eq_none_iff, List.length_modify, ← List.getElem?_eq_none_iff] at found
        rw [found]
    | some node =>
        obtain ⟨former, foundFormer, equal, _⟩ := original found
        rw [foundFormer, Option.map_some, Option.map_some, equal]
  refine ⟨heldSame ▸ nodeRun.unique, fun {id} member => ?_,
    fun {position node child} found member => ?_, fun node member => ?_, ?_⟩
  · rw [List.length_modify]
    exact nodeRun.inside (heldSame ▸ member)
  · obtain ⟨former, foundFormer, equal, _⟩ := original found
    exact nodeRun.onward foundFormer (equal ▸ member)
  · obtain ⟨position, found⟩ := List.mem_iff_getElem?.mp member
    obtain ⟨former, foundFormer, _, fitsStill⟩ := original found
    exact fitsStill (nodeRun.fitting former (List.mem_of_getElem? foundFormer))
  · obtain ⟨rank, falls, bounded⟩ := nodeRun.ranked
    refine ⟨rank, fun {position node child} found member => ?_, bounded⟩
    obtain ⟨former, foundFormer, equal, _⟩ := original found
    exact falls foundFormer (equal ▸ member)

end NodeRun
end Spellspan.Tree
