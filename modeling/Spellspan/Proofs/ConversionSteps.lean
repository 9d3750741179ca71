import Mathlib
import Spellspan.Parse.Conversion
import Spellspan.Proofs.NodeRuns

/-!
Steps of a conversion, one after another. A step leaves the nodes before it as they are, but for
those that are still open: it adds a run of nodes, and the comments it meets. The open nodes stand
between what was there and the run. They get their slots while the run grows, and when the last of
them is closed it becomes part of the run and takes the nodes it refers to out of the loose ones.
-/
set_option autoImplicit false

namespace Spellspan.Parse

open Spellspan.Tree (NodeId Node Slot NodeRun Covers standardSlots slotsIn? held markSlots)

/-! ## What a step ensures -/

/-- What holds of the result of a step and of the state after it. -/
def Ensures {α : Type} (step : Convert α) (before : Conversion) (post : α → Conversion → Prop)
    : Prop :=
  post (step.run before).1 (step.run before).2

namespace Ensures

variable {α β γ : Type} {before : Conversion} {post : α → Conversion → Prop}

theorem pure {value : α} (holds : post value before) : Ensures (Pure.pure value) before post :=
  holds

theorem bind {step : Convert α} {next : α → Convert β} {final : β → Conversion → Prop}
    (first : Ensures step before post)
    (later : ∀ value after, post value after → Ensures (next value) after final) :
    Ensures (step >>= next) before final :=
  later _ _ first

theorem mono {step : Convert α} {final : α → Conversion → Prop} (first : Ensures step before post)
    (later : ∀ value after, post value after → final value after) : Ensures step before final :=
  later _ _ first

theorem map {step : Convert α} {change : α → β} {final : β → Conversion → Prop}
    (first : Ensures step before post)
    (later : ∀ value after, post value after → final (change value) after) :
    Ensures (change <$> step) before final :=
  later _ _ first

theorem ite {condition : Prop} [Decidable condition] {first second : Convert α}
    (yes : condition → Ensures first before post) (no : ¬ condition → Ensures second before post) :
    Ensures (if condition then first else second) before post := by
  split
  · next holds => exact yes holds
  · next fails => exact no fails

/-- What every item keeps, a loop keeps. -/
theorem foldlM {items : List γ} {step : β → γ → Convert β} {initial : β}
    (kept : β → Conversion → Prop) (start : kept initial before)
    (each : ∀ item ∈ items, ∀ value state, kept value state →
      Ensures (step value item) state kept) :
    Ensures (items.foldlM step initial) before kept := by
  induction items generalizing initial before with
  | nil => exact start
  | cons item rest ih =>
      rw [List.foldlM_cons]
      exact (each item List.mem_cons_self initial before start).bind fun value after holds =>
        ih holds fun item member => each item (List.mem_cons_of_mem _ member)

theorem forM {items : List γ} {step : γ → Convert Unit} (kept : Conversion → Prop)
    (start : kept before)
    (each : ∀ item ∈ items, ∀ state, kept state →
      Ensures (step item) state fun _ after => kept after) :
    Ensures (items.forM step) before fun _ after => kept after := by
  induction items generalizing before with
  | nil => exact start
  | cons item rest ih =>
      rw [List.forM_eq_forM, List.forM_cons]
      exact (each item List.mem_cons_self before start).bind fun _ after holds =>
        ih holds fun item member => each item (List.mem_cons_of_mem _ member)

theorem counted {step : Convert (Option NodeId)} {post : Option NodeId → Conversion → Prop}
    (holds : Ensures step { before with depth := before.depth + 1 } fun result after =>
      post result { after with depth := after.depth - 1 }) : Ensures (counted step) before post :=
  holds

end Ensures

/-! ## Kinds that are noted -/

/-- Every kind is noted once, with every slot once, and none of them is a standard kind. -/
structure Tidy (kinds : List (String × List String)) : Prop where
  once : (kinds.map Prod.fst).Nodup
  slotsOnce : ∀ entry ∈ kinds, entry.2.Nodup
  foreign : ∀ entry ∈ kinds, entry.1 ∉ standardSlots.map Prod.fst

theorem mergeNames_cons (known : List String) (name : String) (names : List String) :
    mergeNames known (name :: names) =
      mergeNames (if known.contains name then known else known ++ [name]) names :=
  rfl

theorem subset_mergeNames (known names : List String) :
    known ⊆ mergeNames known names ∧ names ⊆ mergeNames known names := by
  induction names generalizing known with
  | nil => exact ⟨List.Subset.refl _, List.nil_subset _⟩
  | cons name names ih =>
      rw [mergeNames_cons]
      split
      · next there =>
          obtain ⟨kept, added⟩ := ih known
          exact ⟨kept, List.cons_subset.mpr ⟨kept (List.contains_iff_mem.mp there), added⟩⟩
      · obtain ⟨kept, added⟩ := ih (known ++ [name])
        exact ⟨fun _ member => kept (List.mem_append_left _ member),
          List.cons_subset.mpr ⟨kept (by simp), added⟩⟩

theorem nodup_mergeNames {known : List String} (unique : known.Nodup) (names : List String) :
    (mergeNames known names).Nodup := by
  induction names generalizing known with
  | nil => exact unique
  | cons name names ih =>
      rw [mergeNames_cons]
      split
      · exact ih unique
      · next absent =>
          rw [List.contains_iff_mem] at absent
          exact ih (unique.append (List.nodup_singleton name) (by simpa using absent))

section
variable {kind : String} {slots : List String} {kinds : List (String × List String)}

theorem slotsIn?_noteKindIn :
    ∃ names, slotsIn? kind (noteKindIn kind slots kinds) = some names ∧ slots ⊆ names := by
  induction kinds with
  | nil => exact ⟨_, if_pos rfl, (subset_mergeNames [] slots).2⟩
  | cons entry rest ih =>
      obtain ⟨noted, known⟩ := entry
      rw [noteKindIn]
      split
      · next same => exact ⟨_, if_pos same, (subset_mergeNames known slots).2⟩
      · next different => rwa [slotsIn?, if_neg different]

theorem covers_noteKindIn : Covers kinds (noteKindIn kind slots kinds) := by
  intro other names found
  induction kinds with
  | nil => cases found
  | cons entry rest ih =>
      obtain ⟨noted, known⟩ := entry
      rw [slotsIn?] at found
      rw [noteKindIn]
      split at found
      · next same =>
          obtain rfl := Option.some.inj found
          split
          · exact ⟨_, if_pos same, (subset_mergeNames known slots).1⟩
          · exact ⟨_, if_pos same, List.Subset.refl _⟩
      · next different =>
          split
          · exact ⟨names, (if_neg different).trans found, List.Subset.refl _⟩
          · rw [slotsIn?, if_neg different]
            exact ih found

theorem fst_mem_noteKindIn {entry : String × List String}
    (member : entry ∈ noteKindIn kind slots kinds) :
    entry.1 = kind ∨ entry.1 ∈ kinds.map Prod.fst := by
  induction kinds with
  | nil => exact .inl (congrArg Prod.fst (List.mem_singleton.mp member))
  | cons first rest ih =>
      rw [noteKindIn] at member
      split at member
      · rcases List.mem_cons.mp member with rfl | later
        · exact .inr List.mem_cons_self
        · exact .inr (List.mem_cons_of_mem _ (List.mem_map_of_mem later))
      · rcases List.mem_cons.mp member with rfl | later
        · exact .inr List.mem_cons_self
        · exact (ih later).imp_right (List.mem_cons_of_mem _)

theorem Tidy.noteKindIn (tidy : Tidy kinds) (foreign : kind ∉ standardSlots.map Prod.fst) :
    Tidy (noteKindIn kind slots kinds) := by
  refine ⟨?_, ?_, fun entry member => ?_⟩
  · have once := tidy.once
    clear tidy
    induction kinds with
    | nil => exact List.nodup_singleton kind
    | cons entry rest ih =>
        obtain ⟨apart, uniqueRest⟩ := List.nodup_cons.mp once
        rw [Parse.noteKindIn]
        split
        · exact once
        · next different =>
            refine List.nodup_cons.mpr ⟨fun member => ?_, ih uniqueRest⟩
            obtain ⟨later, held, same⟩ := List.mem_map.mp member
            rcases fst_mem_noteKindIn held with noted | earlier
            · exact different (same.symm.trans noted)
            · exact apart (same ▸ earlier)
  · have slotsOnce := tidy.slotsOnce
    clear tidy
    induction kinds with
    | nil =>
        intro entry member
        obtain rfl := List.mem_singleton.mp member
        exact nodup_mergeNames List.nodup_nil slots
    | cons first rest ih =>
        obtain ⟨firstOnce, restOnce⟩ := List.forall_mem_cons.mp slotsOnce
        rw [Parse.noteKindIn]
        split
        · exact List.forall_mem_cons.mpr ⟨nodup_mergeNames firstOnce slots, restOnce⟩
        · exact List.forall_mem_cons.mpr ⟨firstOnce, ih restOnce⟩
  · rcases fst_mem_noteKindIn member with same | earlier
    · exact same ▸ foreign
    · obtain ⟨former, noted, same⟩ := List.mem_map.mp earlier
      exact same ▸ tidy.foreign former noted

end

/-! ## Drafts -/

namespace Draft

def ids (draft : Draft) : Multiset NodeId :=
  (draft.flatMap fun entry => entry.ids.toList : List NodeId)

@[simp] theorem ids_nil : ids [] = 0 :=
  rfl

theorem ids_cons (entry : SlotDraft) (rest : Draft) :
    ids (entry :: rest) = (entry.ids.toList : Multiset NodeId) + ids rest := by
  rw [ids, List.flatMap_cons, ← Multiset.coe_add, ids]

@[simp] theorem ids_push (name : String) (id : NodeId) (many : Bool) (draft : Draft) :
    ids (push name id many draft) = id ::ₘ ids draft := by
  induction draft with
  | nil => rfl
  | cons entry rest ih =>
      rw [push]
      split
      · rw [ids_cons, ids_cons, Array.toList_push, ← Multiset.coe_add, Multiset.coe_singleton,
          ← Multiset.singleton_add]
        abel
      · rw [ids_cons, ih, ids_cons, Multiset.add_cons]

@[simp] theorem ids_declareList (name : String) (draft : Draft) :
    ids (declareList name draft) = ids draft := by
  induction draft with
  | nil => rfl
  | cons entry rest ih =>
      rw [declareList]
      split
      · rw [ids_cons, ids_cons]
      · rw [ids_cons, ih, ids_cons]

theorem onlyNodes_contents (entry : SlotDraft) : (contents entry).OnlyNodes := by
  unfold contents
  split
  · exact .inl ⟨_, rfl⟩
  · exact .inr ⟨_, rfl⟩

theorem ids_contents (entry : SlotDraft) : (contents entry).ids = entry.ids.toList := by
  unfold contents
  split
  · next single _ => rw [single]; rfl
  · rw [Slot.ids_nodes]

def applied (draft : Draft) (node : Node) : Node :=
  draft.foldl (fun node entry => node.setSlot entry.name (contents entry)) node

theorem applied_cons (entry : SlotDraft) (rest : Draft) (node : Node) :
    applied (entry :: rest) node = applied rest (node.setSlot entry.name (contents entry)) :=
  rfl

theorem references_applied_le (draft : Draft) (node : Node) :
    ((applied draft node).references : Multiset NodeId) ≤ ids draft + node.references := by
  induction draft generalizing node with
  | nil => simp [applied]
  | cons entry rest ih =>
      rw [applied_cons, ids_cons]
      calc _ ≤ ids rest +
        ((node.setSlot entry.name (contents entry)).references : Multiset NodeId) := ih _
        _ ≤ ids rest + ((contents entry).ids + node.references) :=
          add_le_add_right (node.references_setSlot_le entry.name (contents entry)) _
        _ = _ := by
          rw [ids_contents]
          abel

theorem standard_applied (draft : Draft) {node : Node} (standard : node.Standard) :
    (applied draft node).Standard := by
  induction draft generalizing node with
  | nil => exact standard
  | cons entry rest ih => exact ih (standard.setSlot (.inr (onlyNodes_contents entry)))

theorem kind_applied (draft : Draft) (node : Node) : (applied draft node).kind = node.kind := by
  induction draft generalizing node with
  | nil => rfl
  | cons entry rest ih => exact ih _

theorem mem_slots_applied (draft : Draft) {node : Node} {slot : String × Slot}
    (member : slot ∈ (applied draft node).slots) :
    slot ∈ node.slots ∨ (slot.1 ∈ names draft ∧ slot.2.OnlyNodes) := by
  induction draft generalizing node with
  | nil => exact .inl member
  | cons entry rest ih =>
      rcases ih member with earlier | ⟨named, only⟩
      · rcases Node.mem_setSlotIn earlier with rfl | before
        · exact .inr ⟨List.mem_cons_self, onlyNodes_contents entry⟩
        · exact .inl before
      · exact .inr ⟨List.mem_cons_of_mem _ named, only⟩

theorem nodup_slots_applied (draft : Draft) {node : Node}
    (unique : (node.slots.map Prod.fst).Nodup) :
    ((applied draft node).slots.map Prod.fst).Nodup := by
  induction draft generalizing node with
  | nil => exact unique
  | cons entry rest ih => exact ih (Node.nodup_setSlotIn unique)

end Draft

/-! ## Growing -/

theorem modify_append_right (front back : List Node) (index : Nat) (change : Node → Node) :
    (front ++ back).modify (front.length + index) change = front ++ back.modify index change := by
  induction front with
  | nil => rw [List.nil_append, List.length_nil, Nat.zero_add, List.nil_append]
  | cons first rest ih =>
      rw [List.cons_append, List.length_cons, Nat.add_right_comm, List.modify_succ_cons, ih,
        List.cons_append]

def Conversion.push (state : Conversion) (node : Node) : Conversion :=
  { state with builder := (state.builder.push node).2 }

/-- From one state to a later one: some open nodes, a run of nodes behind them with some loose ones,
and further comments. -/
structure Grows (before after : Conversion) (opened : List Node) (loose : Multiset NodeId)
    (height : Nat) : Prop where
  covers : Covers before.extraKinds after.extraKinds
  tidy : Tidy before.extraKinds → Tidy after.extraKinds
  nodeRun : ∃ (nodes : List Node) (comments : List NodeId),
    after.builder.nodes.toList = before.builder.nodes.toList ++ (opened ++ nodes) ∧
    after.comments.toList = before.comments.toList ++ comments ∧
    NodeRun after.extraKinds (before.builder.size + opened.length) nodes (loose + comments) height

namespace Grows

variable {before middle after : Conversion} {opened front back : List Node} {node : Node}
    {loose rest : Multiset NodeId}
  {height taller : Nat}

theorem of_opened (nodes : after.builder.nodes.toList = before.builder.nodes.toList ++ opened)
    (comments : after.comments = before.comments) (kinds : after.extraKinds = before.extraKinds) :
    Grows before after opened 0 0 where
  covers := kinds ▸ Covers.refl _
  tidy tidy := kinds ▸ tidy
  nodeRun := ⟨[], [], by simpa using nodes, by simp [comments], .nil _ _⟩

theorem refl (state : Conversion) : Grows state state [] 0 0 :=
  of_opened (List.append_nil _).symm rfl rfl

theorem opening (before : Conversion) (node : Node) : Grows before (before.push node) [node] 0 0 :=
  of_opened (Array.toList_push ..) rfl rfl

theorem weaken (grows : Grows before after opened loose height) (fewer : rest ≤ loose)
    (higher : height ≤ taller) :
    Grows before after opened rest taller where
  covers := grows.covers
  tidy := grows.tidy
  nodeRun := by
    obtain ⟨nodes, comments, added, commented, nodeRun⟩ := grows.nodeRun
    exact ⟨nodes, comments, added, commented, nodeRun.weaken (add_le_add_left fewer _) higher⟩

theorem raise (grows : Grows before after opened loose height) (higher : height ≤ taller) :
    Grows before after opened loose taller :=
  grows.weaken le_rfl higher

theorem trans (first : Grows before middle opened loose height)
    (second : Grows middle after [] rest height) :
    Grows before after opened (loose + rest) height where
  covers := Covers.trans first.covers second.covers
  tidy tidy := second.tidy (first.tidy tidy)
  nodeRun := by
    obtain ⟨nodes, comments, added, commented, nodeRun⟩ := first.nodeRun
    obtain ⟨others, further, addedLater, commentedLater, behind⟩ := second.nodeRun
    have size : middle.builder.size = before.builder.size + opened.length + nodes.length := by
      have lengths := congrArg List.length added
      simpa [Tree.Builder.size, Nat.add_assoc] using lengths
    refine ⟨nodes ++ others, comments ++ further, ?_, ?_, ?_⟩
    · rw [addedLater, added, List.nil_append, List.append_assoc, List.append_assoc]
    · rw [commentedLater, commented, List.append_assoc]
    · rw [size, List.length_nil, Nat.add_zero] at behind
      have joined := (nodeRun.mono second.covers).append behind
      have regroup : loose + ↑comments + (rest + ↑further) =
          loose + rest + ↑(comments ++ further) := by
        rw [← Multiset.coe_add]
        abel
      exact regroup ▸ joined

theorem leaf (before : Conversion) (standard : node.Standard) (bare : node.slots = []) :
    Grows before (before.push node) [] {before.builder.size} 1 where
  covers := Covers.refl _
  tidy := id
  nodeRun := by
    have single : NodeRun before.extraKinds before.builder.size [node] {before.builder.size} 1 :=
      .leaf (.inl standard) (by rw [Node.references, bare, List.flatMap_nil])
    exact ⟨[node], [],
      Array.toList_push .., by simp [Conversion.push], by simpa [Conversion.push] using single⟩

/-- A leaf that is noted as a comment is not loose any more. -/
theorem comment (before : Conversion) (standard : node.Standard) (bare : node.slots = []) :
    Grows before { before.push node with comments := before.comments.push before.builder.size } [] 0 1 where
  covers := Covers.refl _
  tidy := id
  nodeRun := by
    have single : NodeRun before.extraKinds before.builder.size [node] {before.builder.size} 1 :=
      .leaf (.inl standard) (by rw [Node.references, bare, List.flatMap_nil])
    exact ⟨[node], [before.builder.size], Array.toList_push ..,
      Array.toList_push .., by simpa [Conversion.push] using single⟩

/-- The last open node is closed: it takes some of the loose nodes, and is loose itself. -/
theorem close (grows : Grows before after (front ++ [node]) loose height)
    (fits : node.Fits after.extraKinds) (takes : node.references + rest ≤ loose) :
    Grows before after front ((before.builder.size + front.length) ::ₘ rest) (height + 1) where
  covers := grows.covers
  tidy := grows.tidy
  nodeRun := by
    obtain ⟨nodes, comments, added, commented, nodeRun⟩ := grows.nodeRun
    rw [List.length_append, List.length_singleton, ← Nat.add_assoc] at nodeRun
    refine ⟨node :: nodes, comments, by simpa using added, commented, ?_⟩
    rw [Multiset.cons_add]
    exact nodeRun.cons fits (by rw [← add_assoc]; exact add_le_add_left takes _)

theorem change (grows : Grows before after (front ++ node :: back) loose height) {id : NodeId}
    (place : id = before.builder.size + front.length) (change : Node → Node) :
    Grows before { after with builder := after.builder.modify id change }
      (front ++ change node :: back) loose height where
  covers := grows.covers
  tidy := grows.tidy
  nodeRun := by
    obtain ⟨nodes, comments, added, commented, nodeRun⟩ := grows.nodeRun
    refine ⟨nodes, comments, ?_, commented, by simpa using nodeRun⟩
    have position : id = (before.builder.nodes.toList ++ front).length + 0 := by
      simpa [Tree.Builder.size] using place
    have regroup : before.builder.nodes.toList ++ (front ++ node :: back ++ nodes) =
        (before.builder.nodes.toList ++ front) ++ node :: (back ++ nodes) := by simp
    rw [Tree.Builder.modify, Array.toList_modify, added, regroup, position, modify_append_right,
      List.modify_zero_cons]
    simp

theorem apply (draft : Draft) (grows : Grows before after (front ++ node :: back) loose height)
    {id : NodeId} (place : id = before.builder.size + front.length) :
    Grows before { after with builder := draft.apply id after.builder }
      (front ++ draft.applied node :: back) loose height := by
  induction draft generalizing node after with
  | nil => exact grows
  | cons entry rest ih => exact ih (grows.change place _)

theorem note (grows : Grows before after opened loose height) {kind : String} (slots : List String)
    (foreign : kind ∉ standardSlots.map Prod.fst) :
    Grows before { after with extraKinds := noteKindIn kind slots after.extraKinds } opened
      loose height where
  covers := Covers.trans grows.covers covers_noteKindIn
  tidy tidy := (grows.tidy tidy).noteKindIn foreign
  nodeRun := by
    obtain ⟨nodes, comments, added, commented, nodeRun⟩ := grows.nodeRun
    exact ⟨nodes, comments, added, commented, nodeRun.mono covers_noteKindIn⟩

theorem modify (grows : Grows before after opened loose height) {id : NodeId} (member : id ∈ loose)
    {change : Node → Node} (same : ∀ node, (change node).references = node.references)
    (fits : ∀ node, node.Fits after.extraKinds → (change node).Fits after.extraKinds) :
    Grows before { after with builder := after.builder.modify id change } opened loose height where
  covers := grows.covers
  tidy := grows.tidy
  nodeRun := by
    obtain ⟨nodes, comments, added, commented, nodeRun⟩ := grows.nodeRun
    have bounds := nodeRun.inside (Multiset.mem_add.mpr (.inr (Multiset.mem_add.mpr (.inl member))))
    obtain ⟨index, place⟩ := Nat.exists_eq_add_of_le bounds.1
    refine ⟨nodes.modify index change, comments, ?_, commented, nodeRun.modify index same fits⟩
    have position : id = (before.builder.nodes.toList ++ opened).length + index := by
      simpa [Tree.Builder.size] using place
    rw [Tree.Builder.modify, Array.toList_modify, added, ← List.append_assoc, position,
      modify_append_right, List.append_assoc]

theorem get?_opened (grows : Grows before after (node :: back) loose height) :
    after.builder.get? before.builder.size = some node := by
  obtain ⟨nodes, comments, added, commented, nodeRun⟩ := grows.nodeRun
  have position : before.builder.size = before.builder.nodes.toList.length := by
    simp [Tree.Builder.size]
  rw [Tree.Builder.get?, ← Array.getElem?_toList, added, position,
    List.getElem?_append_right (Nat.le_refl _), Nat.sub_self]
  rfl

theorem mark (grows : Grows before after opened loose height) {id : NodeId} (member : id ∈ loose) :
    Ensures (markElementName id) after fun _ marked => Grows before marked opened loose height := by
  refine grows.modify member (fun node => ?_) (fun node fits => ?_)
  · split <;> rfl
  · split
    · have known : "JSXIdentifier" ∈ standardSlots.map Prod.fst := by decide
      rcases fits with standard | noted
      · exact .inl ⟨known, standard.held⟩
      · exact .inl ⟨known, fun entry held => .inr (noted.held entry held)⟩
    · exact fits

end Grows

/-! ## Filling a node of a standard kind -/

/-- From one state to a later one: an open node of a standard kind that has taken some loose nodes,
and others to spare. -/
def Filling (before after : Conversion) (spare : Multiset NodeId) (height : Nat) : Prop :=
  ∃ (node : Node) (loose : Multiset NodeId), node.Standard ∧ node.references + spare ≤ loose ∧
    Grows before after [node] loose height

namespace Filling

variable {before state after : Conversion} {spare rest new : Multiset NodeId} {height taller : Nat}

theorem extend (filling : Filling before state spare height)
    (grows : Grows state after [] new taller) (higher : height ≤ taller) :
    Filling before after (new + spare) taller := by
  obtain ⟨node, loose, standard, takes, grown⟩ := filling
  refine ⟨node, loose + new, standard, ?_, (grown.raise higher).trans grows⟩
  calc (node.references : Multiset NodeId) + (new + spare) = (node.references + spare) +
    new := by abel
    _ ≤ loose + new := add_le_add_left takes new

theorem weaken (filling : Filling before state spare height) (fewer : rest ≤ spare)
    (higher : height ≤ taller) :
    Filling before state rest taller := by
  obtain ⟨node, loose, standard, takes, grown⟩ := filling
  exact ⟨node, loose, standard, (add_le_add_right fewer _).trans takes, grown.raise higher⟩

theorem close (filling : Filling before state spare height) :
    Grows before state [] {before.builder.size} (height + 1) := by
  obtain ⟨node, loose, standard, takes, grown⟩ := filling
  have enough : node.references + (0 : Multiset NodeId) ≤ loose :=
    (add_le_add_right (Multiset.zero_le spare) _).trans takes
  exact grown.close (.inl standard) enough

theorem setSlot (filling : Filling before state spare height) {name : String} {slot : Slot}
    (rest : Multiset NodeId) (holds : name ∈ markSlots ∨ slot.OnlyNodes)
    (takes : slot.ids + rest ≤ spare) :
    Ensures (setSlot before.builder.size name slot) state fun _ after =>
      Filling before after rest height := by
  obtain ⟨node, loose, standard, taken, grown⟩ := filling
  refine ⟨node.setSlot name slot, loose, standard.setSlot holds, ?_,
    @Grows.change _ _ [] [] _ _ _ grown _ rfl _⟩
  calc ((node.setSlot name slot).references : Multiset NodeId) + rest
      ≤ (slot.ids + node.references) + rest :=
        add_le_add_left (node.references_setSlot_le name slot) _
    _ = node.references + (slot.ids + rest) := by abel
    _ ≤ node.references + spare := add_le_add_right takes _
    _ ≤ loose := taken

theorem applyDraft {draft : Draft} (filling : Filling before state draft.ids height) :
    Ensures (applyDraft draft before.builder.size) state fun _ after =>
      Filling before after 0 height := by
  obtain ⟨node, loose, standard, taken, grown⟩ := filling
  refine ⟨draft.applied node, loose, draft.standard_applied standard, ?_,
    @Grows.apply _ _ [] [] _ _ _ draft grown _ rfl⟩
  calc ((draft.applied node).references : Multiset NodeId) + 0
      ≤ draft.ids + node.references := by rw [add_zero]; exact draft.references_applied_le node
    _ = node.references + draft.ids := add_comm _ _
    _ ≤ loose := taken

theorem mark (filling : Filling before state spare height) {id : NodeId} (member : id ∈ spare) :
    Ensures (markElementName id) state fun _ after => Filling before after spare height := by
  obtain ⟨node, loose, standard, takes, grown⟩ := filling
  have loosened : id ∈ loose := Multiset.mem_of_le takes (Multiset.mem_add.mpr (.inr member))
  exact (grown.mark loosened).mono fun _ _ marked => ⟨node, loose, standard, takes, marked⟩

theorem markChild (filling : Filling before state spare height) {name : String} {id : NodeId}
    (found : ((state.builder.get? before.builder.size).bind fun node => node.child? name) =
      some id) :
    Ensures (markElementName id) state fun _ after => Filling before after spare height := by
  obtain ⟨node, loose, standard, takes, grown⟩ := filling
  rw [grown.get?_opened, Option.bind_some] at found
  have loosened : id ∈ loose :=
    Multiset.mem_of_le takes
      (Multiset.mem_add.mpr (.inl (Multiset.mem_coe.mpr (node.mem_references_of_child? found))))
  exact (grown.mark loosened).mono fun _ _ marked => ⟨node, loose, standard, takes, marked⟩

end Filling
end Spellspan.Parse
