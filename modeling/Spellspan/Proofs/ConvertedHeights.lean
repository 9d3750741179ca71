import Mathlib
import Spellspan.Proofs.ConversionSteps
import Spellspan.Proofs.PhraseParts

/-!
How deep a conversion builds, whatever the kinds of its phrases. A step leaves the nodes before it
alone; what it adds refers to what it adds, so that only so many references follow one another. A
phrase is at most two nodes above its parts. The nodes over phrases that were cut off stay without
slots, since slots are set only on nodes that a construct has opened itself.
-/
set_option autoImplicit false

namespace Spellspan.Tree.Builder

/-! ## Chains of references -/

/-- From an offset on, a later table has the same nodes with the same slots. -/
def KeepsSlots (offset : NodeId) (builder later : Builder) : Prop :=
  ∀ id node, offset ≤ id → builder.get? id = some node → ∃ changed, later.get? id = some changed ∧
    changed.slots = node.slots

/-- At most so many references follow one another from a node on, and none of them leads before an
offset. -/
inductive Shallow (builder : Builder) (offset : NodeId) : Nat → NodeId → Prop where
  | bare {height : Nat} {id : NodeId} {node : Node} (inside : offset ≤ id)
      (found : builder.get? id = some node)
      (none : node.references = []) : Shallow builder offset height id
  | above {height : Nat} {id : NodeId} {node : Node} (inside : offset ≤ id)
      (found : builder.get? id = some node)
      (below : ∀ other ∈ node.references, Shallow builder offset height other) :
      Shallow builder offset (height + 1) id

namespace Shallow

variable {builder later : Builder} {offset start id : NodeId} {height taller : Nat}

theorem le (shallow : builder.Shallow offset height id) : offset ≤ id := by
  cases shallow with
  | bare inside _ _ => exact inside
  | above inside _ _ => exact inside

theorem lt_size (shallow : builder.Shallow offset height id) : id < builder.size := by
  cases shallow with
  | bare _ found _ => exact lt_size_of_get? found
  | above _ found _ => exact lt_size_of_get? found

theorem raise (shallow : builder.Shallow offset height id) (higher : height ≤ taller) :
    builder.Shallow offset taller id := by
  induction shallow generalizing taller with
  | bare inside found none => exact .bare inside found none
  | above inside found _ ih =>
      cases taller with
      | zero => exact absurd higher (Nat.not_succ_le_zero _)
      | succ taller => exact .above inside found fun other refers => ih other refers (Nat.le_of_succ_le_succ higher)

theorem lower (shallow : builder.Shallow offset height id) (earlier : start ≤ offset) :
    builder.Shallow start height id := by
  induction shallow with
  | bare inside found none => exact .bare (Nat.le_trans earlier inside) found none
  | above inside found _ ih => exact .above (Nat.le_trans earlier inside) found ih

theorem keep (shallow : builder.Shallow offset height id)
    (keeps : KeepsSlots offset builder later) :
    later.Shallow offset height id := by
  induction shallow with
  | @bare _ id node inside found none =>
      obtain ⟨changed, still, same⟩ := keeps id node inside found
      exact .bare inside still (by rw [Node.references, same]; exact none)
  | @above _ id node inside found _ ih =>
      obtain ⟨changed, still, same⟩ := keeps id node inside found
      exact .above inside still (by rw [Node.references, same]; exact ih)

end Shallow

def Bare (builder : Builder) (offset id : NodeId) : Prop :=
  offset ≤ id ∧ ∃ node, builder.get? id = some node ∧ node.slots = []

namespace Bare

variable {builder later : Builder} {offset start id : NodeId}

theorem lower (bare : builder.Bare offset id) (earlier : start ≤ offset) : builder.Bare start id :=
  ⟨Nat.le_trans earlier bare.1, bare.2⟩

theorem keep (bare : builder.Bare offset id) (keeps : KeepsSlots offset builder later) :
    later.Bare offset id := by
  obtain ⟨inside, node, found, none⟩ := bare
  obtain ⟨changed, still, same⟩ := keeps id node inside found
  exact ⟨inside, changed, still, same.trans none⟩

theorem shallow (bare : builder.Bare offset id) (height : Nat) :
    builder.Shallow offset height id := by
  obtain ⟨inside, node, found, none⟩ := bare
  exact .bare inside found (by rw [Node.references, none, List.flatMap_nil])

end Bare

theorem get?_modify (builder : Builder) (id other : NodeId) (change : Node → Node) :
    (builder.modify id change).get? other = if id = other then (builder.get? other).map change
      else builder.get? other :=
  Array.getElem?_modify ..

theorem get?_modify_of_ne {builder : Builder} {id other : NodeId} {change : Node → Node}
    (different : id ≠ other) :
    (builder.modify id change).get? other = builder.get? other := by
  rw [get?_modify, if_neg different]

theorem keepsSlots_modify (builder : Builder) (offset id : NodeId) {change : Node → Node}
    (silent : ∀ node, (change node).slots = node.slots) :
    KeepsSlots offset builder (builder.modify id change) := by
  intro other node inside found
  rw [get?_modify]
  split
  · rw [found, Option.map_some]
    exact ⟨change node, rfl, silent node⟩
  · exact ⟨node, found, rfl⟩

end Spellspan.Tree.Builder

namespace Spellspan.Parse

open Spellspan.Tree (NodeId NodeValue Node Slot Builder)

namespace Draft

variable {builder : Builder} {id other : NodeId}

theorem size_apply (draft : Draft) : (draft.apply id builder).size = builder.size := by
  induction draft generalizing builder with
  | nil => rfl
  | cons entry rest ih => exact ih.trans Builder.size_setSlot

theorem get?_apply (draft : Draft) (builder : Builder) (id other : NodeId) :
    (draft.apply id builder).get? other = if id = other then (builder.get? other).map draft.applied
      else builder.get? other := by
  induction draft generalizing builder with
  | nil =>
      split
      · exact Option.map_id.symm ▸ rfl
      · rfl
  | cons entry rest ih =>
      refine (ih (builder.setSlot id entry.name (contents entry))).trans ?_
      rw [Builder.setSlot, Builder.get?_modify]
      split
      · rw [Option.map_map]
        rfl
      · rfl

theorem get?_apply_of_ne (draft : Draft) (different : other ≠ id) :
    (draft.apply id builder).get? other = builder.get? other := by
  rw [get?_apply, if_neg (Ne.symm different)]

theorem apply_comm (first second : Draft) (builder : Builder) (different : id ≠ other) :
    first.apply id (second.apply other builder) = second.apply other (first.apply id builder) := by
  have same : ∀ place, (first.apply id (second.apply other builder)).get? place =
      (second.apply other (first.apply id builder)).get? place := fun place => by
    rw [get?_apply, get?_apply, get?_apply, get?_apply]
    split
    · next here => rw [if_neg (here ▸ Ne.symm different), if_neg (here ▸ Ne.symm different)]
    · rfl
  exact congrArg Builder.mk (Array.ext_getElem? same)

end Draft

/-! ## Building -/

/-- A node that is set aside: a comment, or one over a phrase that was cut off. -/
def Conversion.SetsAside (state : Conversion) (id : NodeId) : Prop :=
  id ∈ state.comments ∨ ∃ depth, .tooDeep id depth ∈ state.problems

theorem not_setsAside_start (id : NodeId) : ¬ Conversion.SetsAside {} id := by
  intro aside
  rcases aside with comment | ⟨_, problem⟩
  · exact Array.not_mem_empty id comment
  · exact Array.not_mem_empty _ problem

/-- From one state to a later one: some open nodes, and behind them nodes that refer to one another
only. Those that are set aside have no slots. -/
structure Builds (before after : Conversion) (opened : Nat) (ids : Multiset NodeId) (height : Nat)
    : Prop where
  size : before.builder.size + opened ≤ after.builder.size
  kept : ∀ id < before.builder.size, after.builder.get? id = before.builder.get? id
  shallow : ∀ id ∈ ids, after.builder.Shallow (before.builder.size + opened) height id
  bare : ∀ id, after.SetsAside id → before.SetsAside id ∨
    after.builder.Bare (before.builder.size + opened) id

namespace Builds

variable {before middle after : Conversion} {opened height taller : Nat}
    {ids more : Multiset NodeId} {node : Node}

theorem refl (state : Conversion) (height : Nat) : Builds state state 0 0 height :=
  ⟨Nat.le_refl _, fun _ _ => rfl, by simp, fun _ => .inl⟩

theorem keepsSlots (builds : Builds before after opened ids height) (offset : NodeId) :
    Builder.KeepsSlots offset before.builder after.builder := fun id node _ found =>
  ⟨node, (builds.kept id (Builder.lt_size_of_get? found)).trans found, rfl⟩

theorem trans (first : Builds before middle opened ids height)
    (second : Builds middle after 0 more height) :
    Builds before after opened (ids + more) height where
  size := Nat.le_trans first.size second.size
  kept id earlier := (second.kept id (by have := first.size; omega)).trans (first.kept id earlier)
  shallow id member := by
    rcases Multiset.mem_add.mp member with early | late
    · exact (first.shallow id early).keep (second.keepsSlots _)
    · exact (second.shallow id late).lower first.size
  bare id aside := by
    rcases second.bare id aside with earlier | late
    · exact (first.bare id earlier).imp_right fun bare => bare.keep (second.keepsSlots _)
    · exact .inr (late.lower first.size)

theorem weaken (builds : Builds before after opened ids height) (fewer : more ≤ ids)
    (higher : height ≤ taller) :
    Builds before after opened more taller where
  size := builds.size
  kept := builds.kept
  shallow id member := (builds.shallow id (Multiset.mem_of_le fewer member)).raise higher
  bare := builds.bare

theorem raise (builds : Builds before after opened ids height) (higher : height ≤ taller) :
    Builds before after opened ids taller :=
  builds.weaken le_rfl higher

theorem forget (builds : Builds before after opened ids height) :
    Builds before after opened 0 height :=
  builds.weaken (Multiset.zero_le _) le_rfl

/-- Further changes to the state that concern neither nodes nor what is set aside. -/
theorem unchanged (builds : Builds before middle opened ids height)
    (builder : after.builder = middle.builder)
    (same : ∀ id, after.SetsAside id → middle.SetsAside id) :
    Builds before after opened ids height where
  size := builder ▸ builds.size
  kept := builder ▸ builds.kept
  shallow := builder ▸ builds.shallow
  bare id aside := builder ▸ builds.bare id (same id aside)

/-- A change to the nodes that leaves the nodes before alone, and the slots behind the open
nodes. -/
theorem rebuild (builds : Builds before after opened ids height) {later : Builder}
    (size : later.size = after.builder.size)
    (kept : ∀ id < before.builder.size, later.get? id = after.builder.get? id)
    (slots : Builder.KeepsSlots (before.builder.size + opened) after.builder later) :
    Builds before { after with builder := later } opened ids height where
  size := size ▸ builds.size
  kept id earlier := (kept id earlier).trans (builds.kept id earlier)
  shallow id member := (builds.shallow id member).keep slots
  bare id aside := (builds.bare id aside).imp_right fun bare => bare.keep slots

theorem opening (before : Conversion) (node : Node) (height : Nat) :
    Builds before (before.push node) 1 0 height where
  size := Nat.le_of_eq Builder.size_push.symm
  kept _ earlier := Builder.get?_push_of_lt earlier
  shallow := by simp
  bare _ := .inl

theorem leaf (before : Conversion) (bare : node.slots = []) (height : Nat) :
    Builds before (before.push node) 0 {before.builder.size} height where
  size := Nat.le_trans (Nat.le_succ _) (Nat.le_of_eq Builder.size_push.symm)
  kept _ earlier := Builder.get?_push_of_lt earlier
  shallow id member := by
    rw [Multiset.mem_singleton.mp member]
    exact .bare (Nat.le_refl _) Builder.get?_push_self
      (by rw [Node.references, bare, List.flatMap_nil])
  bare _ := .inl

theorem setAside (builds : Builds before middle opened ids height)
    (builder : after.builder = middle.builder) {one : NodeId}
    (aside : ∀ id, after.SetsAside id → middle.SetsAside id ∨ id = one)
    (bare : middle.builder.Bare (before.builder.size + opened) one) :
    Builds before after opened ids height where
  size := builder ▸ builds.size
  kept := builder ▸ builds.kept
  shallow := builder ▸ builds.shallow
  bare id setAside := by
    rw [builder]
    rcases aside id setAside with earlier | rfl
    · exact builds.bare id earlier
    · exact .inr bare

end Builds

/-! ## Filling a node -/

/-- From one state to a later one: an open node that refers to nodes behind it only, and others it
may refer to. -/
structure Fills (before state : Conversion) (ids : Multiset NodeId) (height : Nat) : Prop where
  builds : Builds before state 1 ids height
  own : ∃ node, state.builder.get? before.builder.size = some node ∧
    ∀ other ∈ node.references, state.builder.Shallow (before.builder.size + 1) height other

namespace Fills

variable {before state after : Conversion} {height taller : Nat} {ids more : Multiset NodeId}

theorem opening (before : Conversion) {node : Node} (bare : node.slots = []) (height : Nat) :
    Fills before (before.push node) 0 height :=
  ⟨.opening before node height, node, Builder.get?_push_self, by simp [Node.references, bare]⟩

theorem extend (fills : Fills before state ids height) (builds : Builds state after 0 more height) :
    Fills before after (ids + more) height := by
  refine ⟨fills.builds.trans builds, ?_⟩
  obtain ⟨node, found, below⟩ := fills.own
  refine ⟨node, (builds.kept _ (Builder.lt_size_of_get? found)).trans found, fun other refers => ?_⟩
  exact (below other refers).keep (builds.keepsSlots _)

theorem weaken (fills : Fills before state ids height) (fewer : more ≤ ids) :
    Fills before state more height :=
  ⟨fills.builds.weaken fewer le_rfl, fills.own⟩

/-- Other nodes may be referred to. -/
theorem offer (fills : Fills before state ids height)
    (shallow : ∀ id ∈ more, state.builder.Shallow (before.builder.size + 1) height id) :
    Fills before state more height :=
  ⟨⟨fills.builds.size, fills.builds.kept, shallow, fills.builds.bare⟩, fills.own⟩

/-- The open node changes, and refers to nodes behind it that are at hand. -/
theorem change (fills : Fills before state ids height) {later : Builder}
    (size : later.size = state.builder.size)
    (others : ∀ other, other ≠ before.builder.size → later.get? other = state.builder.get? other)
    (own : ∀ node, state.builder.get? before.builder.size = some node → ∃ changed,
      later.get? before.builder.size = some changed ∧ ∀ other ∈ changed.references, other ∈ ids ∨
        other ∈ node.references) :
    Fills before { state with builder := later } ids height := by
  have slots : Builder.KeepsSlots (before.builder.size + 1) state.builder later :=
    fun other node inside found =>
    ⟨node, (others other (Nat.ne_of_gt inside)).trans found, rfl⟩
  refine ⟨fills.builds.rebuild size (fun id earlier => others id (Nat.ne_of_lt earlier)) slots, ?_⟩
  obtain ⟨node, found, below⟩ := fills.own
  obtain ⟨changed, still, takes⟩ := own node found
  refine ⟨changed, still, fun other refers => ?_⟩
  rcases takes other refers with new | old
  · exact (fills.builds.shallow other new).keep slots
  · exact (below other old).keep slots

theorem setSlot (fills : Fills before state ids height) (name : String) {slot : Slot}
    (taken : ∀ id ∈ slot.ids, id ∈ ids) :
    Ensures (setSlot before.builder.size name slot) state fun _ after =>
      Fills before after ids height := by
  refine fills.change Builder.size_setSlot
    (fun other different => Builder.get?_setSlot_of_ne different) fun node found => ?_
  refine ⟨node.setSlot name slot, Builder.get?_setSlot_self found, fun other refers => ?_⟩
  have held := Multiset.mem_of_le (node.references_setSlot_le name slot)
    (Multiset.mem_coe.mpr refers)
  exact (Multiset.mem_add.mp held).imp_left (taken other)

theorem applyDraft (draft : Draft) (fills : Fills before state ids height)
    (taken : ∀ id ∈ draft.ids, id ∈ ids) :
    Ensures (applyDraft draft before.builder.size) state fun _ after =>
      Fills before after ids height := by
  refine fills.change draft.size_apply (fun other different => draft.get?_apply_of_ne different)
    fun node found => ?_
  have applied : (draft.apply before.builder.size state.builder).get? before.builder.size =
      some (draft.applied node) := by
    rw [draft.get?_apply, if_pos rfl, found, Option.map_some]
  refine ⟨draft.applied node, applied, fun other refers => ?_⟩
  have held := Multiset.mem_of_le (draft.references_applied_le node) (Multiset.mem_coe.mpr refers)
  exact (Multiset.mem_add.mp held).imp_left (taken other)

theorem mark (fills : Fills before state ids height) {id : NodeId}
    (behind : before.builder.size + 1 ≤ id) :
    Ensures (markElementName id) state fun _ after => Fills before after ids height := by
  have slots : Builder.KeepsSlots (before.builder.size + 1) state.builder
    (state.builder.modify id fun node =>
      if node.kind = "Identifier" then { node with kind := "JSXIdentifier" } else node) :=
    Builder.keepsSlots_modify _ _ _ fun node => by split <;> rfl
  refine ⟨fills.builds.rebuild (Array.size_modify ..) (fun other earlier => ?_) slots, ?_⟩
  · exact Builder.get?_modify_of_ne (Nat.ne_of_gt (Nat.lt_trans earlier behind))
  · obtain ⟨node, found, below⟩ := fills.own
    refine ⟨node, (Builder.get?_modify_of_ne (Nat.ne_of_gt behind)).trans found,
      fun other refers => ?_⟩
    exact (below other refers).keep slots

theorem close (fills : Fills before state ids height) :
    Builds before state 0 (before.builder.size ::ₘ ids) (height + 1) where
  size := Nat.le_trans (Nat.le_succ _) fills.builds.size
  kept := fills.builds.kept
  shallow id member := by
    rcases Multiset.mem_cons.mp member with rfl | behind
    · obtain ⟨node, found, below⟩ := fills.own
      exact .above (Nat.le_refl _) found fun other refers =>
        (below other refers).lower (Nat.le_succ _)
    · exact ((fills.builds.shallow id behind).lower (Nat.le_succ _)).raise (Nat.le_succ _)
  bare id aside := (fills.builds.bare id aside).imp_right fun bare => bare.lower (Nat.le_succ _)

theorem finish (fills : Fills before state ids height) :
    Builds before state 0 {before.builder.size} (height + 1) :=
  fills.close.weaken (Multiset.singleton_le.mpr (Multiset.mem_cons_self _ _)) le_rfl

end Fills

/-! ## Leaves and comments -/

section
variable (source : List Char) (height : Nat)

theorem pushNode_builds {node : Node} (bare : node.slots = []) (before : Conversion) :
    Ensures (pushNode node) before fun id after => Builds before after 0 {id} height :=
  Builds.leaf before bare height

theorem opening_fills {α : Type} {node : Node} (bare : node.slots = []) {before : Conversion}
    {next : NodeId → Convert α} {post : α → Conversion → Prop}
    (later : ∀ opened, Fills before opened 0 height →
      Ensures (next before.builder.size) opened post) :
    Ensures (pushNode node >>= next) before post :=
  later _ (.opening before bare height)

theorem liftComment_builds (phrase : ParseTree) (before : Conversion) :
    Ensures (liftComment source phrase) before fun _ after => Builds before after 0 0 height := by
  refine ((Builds.leaf before rfl height).forget).setAside rfl
    (fun id aside => ?_) ⟨Nat.le_refl _, _, Builder.get?_push_self, rfl⟩
  rcases aside with comment | problem
  · exact (Array.mem_push.mp comment).imp_left .inl
  · exact .inl (.inr problem)

theorem liftNestedComments_builds (phrase : ParseTree) (before : Conversion) :
    Ensures (liftNestedComments source phrase) before fun _ after =>
      Builds before after 0 0 height :=
  .forM (fun state => Builds before state 0 0 height) (.refl before height)
    fun comment _ state builds =>
    (liftComment_builds source height comment state).mono fun _ _ later => builds.trans later

theorem truncate_builds (phrase : ParseTree) (before : Conversion) :
    Ensures (truncate source phrase) before fun result after =>
      Builds before after 0 (result.toList : Multiset NodeId) height := by
  refine .ite (fun _ => (liftComment_builds source height phrase before).bind fun _ _ builds =>
    .pure builds) fun _ => ?_
  refine Ensures.bind (show Ensures (pushKind phrase.kind phrase) before fun id after =>
    id = before.builder.size ∧ after = before.push { kind := phrase.kind, span := phrase.span } from
      ⟨rfl, rfl⟩) ?_
  intro id opened pushed
  obtain ⟨rfl, rfl⟩ := pushed
  let node : Node := { kind := phrase.kind, span := phrase.span }
  refine Ensures.bind (show Ensures (noteKind phrase.kind []) (before.push node) fun _ after =>
    Builds (before.push node) after 0 0 height from
      (Builds.refl (before.push node) height).unchanged rfl fun _ => id) fun _ noted same => ?_
  refine (Ensures.forM (fun state => Builds (before.push node) state 0 0 height) same
    fun child _ state builds =>
    (liftNestedComments_builds source height child state).mono fun _ _ later =>
      builds.trans later).bind fun _ kept rest => ?_
  have found : kept.builder.get? before.builder.size = some node :=
    (rest.kept _ (Nat.lt_of_lt_of_eq (Nat.lt_succ_self _) Builder.size_push.symm)).trans
      Builder.get?_push_self
  refine ((Builds.leaf before rfl height).trans rest).setAside rfl
    (fun id aside => ?_) ⟨Nat.le_refl _, node, found, rfl⟩
  rcases aside with comment | ⟨depth, problem⟩
  · exact .inl (.inl comment)
  · rcases Array.mem_push.mp problem with earlier | same
    · exact .inl (.inr ⟨depth, earlier⟩)
    · cases same
      exact .inr rfl

theorem convertShorthand_builds (phrase : ParseTree) (before : Conversion) :
    Ensures (convertShorthand source phrase) before fun id after =>
      Builds before after 0 {id} (height + 1) := by
  refine opening_fills height rfl fun opened fills => ?_
  refine (pushNode_builds height rfl opened).bind fun key keyed builds => ?_
  refine (pushNode_builds height rfl keyed).bind fun value valued later => ?_
  have both := (fills.extend builds).extend later
  refine (both.setSlot "key" (by simp [Slot.ids])).bind fun _ _ fills => ?_
  refine (fills.setSlot "value" (by simp [Slot.ids])).bind fun _ _ fills => ?_
  exact (fills.setSlot "shorthand" (by simp [Slot.ids])).bind fun _ _ fills => .pure fills.finish

theorem convertLocal_builds (kind : String) (phrase name : ParseTree) (before : Conversion) :
    Ensures (convertLocal source kind phrase name) before fun id after =>
      Builds before after 0 {id} (height + 1) := by
  refine opening_fills height rfl fun opened fills => ?_
  refine (pushNode_builds height rfl opened).bind fun localName named builds => ?_
  exact ((fills.extend builds).setSlot "local" (by simp [Slot.ids])).bind fun _ _ fills =>
    .pure fills.finish

end

/-! ## Drafts -/

/-- From one state to a later one: a draft assembles nodes that were added. -/
def Assembles (before : Conversion) (draft : Draft) (height : Nat) (assembled : Draft)
    (after : Conversion) : Prop :=
  ∃ added, assembled.ids = added + draft.ids ∧ Builds before after 0 added height

namespace Assembles

variable {before middle after : Conversion} {draft assembled : Draft} {height taller : Nat}

theorem nothing (builds : Builds before after 0 0 height) :
    Assembles before draft height draft after :=
  ⟨0, (zero_add _).symm, builds⟩

theorem one {id : NodeId} (name : String) (many : Bool)
    (builds : Builds before after 0 {id} height) :
    Assembles before draft height (draft.push name id many) after :=
  ⟨{id}, by rw [Draft.ids_push, Multiset.singleton_add], builds⟩

theorem trans {final : Draft} (first : Assembles before draft height assembled middle)
    (second : Assembles middle assembled height final after) :
    Assembles before draft height final after := by
  obtain ⟨added, same, builds⟩ := first
  obtain ⟨more, sameLater, buildsLater⟩ := second
  exact ⟨added + more, by rw [sameLater, same]; abel, builds.trans buildsLater⟩

theorem raise (assembles : Assembles before draft height assembled after)
    (higher : height ≤ taller) :
    Assembles before draft taller assembled after := by
  obtain ⟨added, same, builds⟩ := assembles
  exact ⟨added, same, builds.raise higher⟩

theorem declared {name : String}
    (assembles : Assembles before (draft.declareList name) height assembled after) :
    Assembles before draft height assembled after := by
  obtain ⟨added, same, builds⟩ := assembles
  exact ⟨added, by rw [same, Draft.ids_declareList], builds⟩

theorem foldlM {items : List ParseTree} {step : Draft → ParseTree → Convert Draft}
    {before : Conversion} {draft : Draft} (height : Nat)
    (each : ∀ item draft state,
      Ensures (step draft item) state (Assembles state draft height)) :
    Ensures (items.foldlM step draft) before (Assembles before draft height) :=
  .foldlM (Assembles before draft height) (nothing (.refl before height))
    fun item _ assembled state first =>
    (each item assembled state).mono fun _ _ second => first.trans second

theorem note (assembles : Assembles before draft height assembled after) (kind : String)
    (slots : List String) :
    Ensures (noteKind kind slots) after fun _ noted =>
      Assembles before draft height assembled noted := by
  obtain ⟨added, same, builds⟩ := assembles
  exact ⟨added, same, builds.unchanged rfl fun _ => id⟩

theorem extend {start : Conversion} {opened : Nat} {others : Multiset NodeId}
    (assembles : Assembles before draft height assembled after)
    (builds : Builds start before opened (draft.ids + others) height) :
    Builds start after opened (assembled.ids + others) height := by
  obtain ⟨added, same, later⟩ := assembles
  refine (builds.trans later).weaken (le_of_eq ?_) le_rfl
  rw [same]
  abel

theorem apply {start : Conversion} (assembles : Assembles before draft height assembled after)
    (empty : draft.ids = 0) (fills : Fills start before 0 height) :
    Ensures (applyDraft assembled start.builder.size) after fun _ state =>
      Fills start state assembled.ids height := by
  obtain ⟨added, same, builds⟩ := assembles
  rw [empty, add_zero] at same
  have extended := fills.extend builds
  rw [zero_add, ← same] at extended
  exact extended.applyDraft assembled fun _ member => member

end Assembles

section Descent

variable {source : List Char} {descend : ParseTree → Convert (Option NodeId)} {height : Nat}

theorem leaveOut_assembles (draft : Draft) (child : ParseTree) (before : Conversion) :
    Ensures (leaveOut source draft child) before (Assembles before draft height) :=
  (liftNestedComments_builds source height child before).bind fun _ _ builds =>
    .pure (.nothing builds)

theorem keepComment_assembles (draft : Draft) (comment : ParseTree) (before : Conversion) :
    Ensures (do liftComment source comment; pure draft) before (Assembles before draft height) :=
  (liftComment_builds source height comment before).bind fun _ _ builds => .pure (.nothing builds)

theorem finishMapped_shallow (kind : String) {before state : Conversion} {ids : Multiset NodeId}
    (fills : Fills before state ids height) :
    Ensures (finishMapped kind before.builder.size) state fun _ after =>
      Fills before after ids height := by
  refine .ite (fun _ => fills.setSlot _ (by simp [Slot.ids])) fun _ =>
    .ite (fun _ => fills.setSlot _ (by simp [Slot.ids])) fun _ => ?_
  refine .ite (fun _ => ?_) fun _ => .pure fills
  refine Ensures.bind (show Ensures get state fun current after => current = state ∧
    after = state from ⟨rfl, rfl⟩) ?_
  rintro _ _ ⟨rfl, rfl⟩
  split
  · next name named =>
      obtain ⟨node, found, below⟩ := fills.own
      rw [found, Option.bind_some] at named
      exact fills.mark (below name (node.mem_references_of_child? named)).le
  · exact .pure fills

variable (builds : ∀ phrase before,
  Ensures (descend phrase) before fun result after =>
    Builds before after 0 (result.toList : Multiset NodeId) height)
include builds

theorem addOne_assembles (draft : Draft) (name : String) (child : ParseTree) (many : Bool)
    (before : Conversion) :
    Ensures (do
      match ← descend child with
      | some id => pure (Draft.push name id many draft)
      | none => pure draft) before (Assembles before draft height) := by
  refine (builds child before).bind fun result after built => ?_
  cases result with
  | none => exact .pure (.nothing built)
  | some id => exact .pure (.one name many built)

theorem addChild_assembles (draft : Draft) (name : String) (child : ParseTree) (many : Bool)
    (before : Conversion) :
    Ensures (addChild descend draft name child many) before (Assembles before draft height) := by
  refine .ite (fun _ => ?_) fun _ => addOne_assembles builds draft name child many before
  refine Ensures.mono (Assembles.foldlM height fun item draft state =>
    addOne_assembles builds draft name item true state) ?_
  exact fun _ _ assembles => assembles.declared

theorem setConverted_shallow (slot : String) (child : Option ParseTree) {before state : Conversion}
    {ids : Multiset NodeId} (fills : Fills before state ids height) :
    Ensures (setConverted descend before.builder.size slot child) state fun _ after =>
      Fills before after ids height := by
  cases child with
  | none => exact .pure fills
  | some child =>
      refine (builds child state).bind fun result after built => ?_
      have extended := fills.extend built
      cases result with
      | none => exact .pure (extended.weaken (Multiset.le_add_right _ _))
      | some converted =>
          refine (extended.setSlot slot (by simp [Slot.ids])).mono fun _ _ fills => ?_
          exact fills.weaken (Multiset.le_add_right _ _)

/-! ## Constructs -/

omit builds in
/-- A construct that assembles the children of its node in a draft. -/
theorem drafted_builds {kind : String} {phrase : ParseTree} {before : Conversion} {initial : Draft}
    {items : List ParseTree} {step : Draft → ParseTree → Convert Draft} (height : Nat)
    (empty : initial.ids = 0)
    (each : ∀ item draft state, Ensures (step draft item) state (Assembles state draft height)) :
    Ensures (do
      let id ← pushKind kind phrase
      let draft ← items.foldlM step initial
      applyDraft draft id
      pure id) before fun id after => Builds before after 0 {id} (height + 1) :=
  opening_fills height rfl fun _ fills =>
    Ensures.bind (Assembles.foldlM height each) fun _ _ assembles =>
    (assembles.apply empty fills).bind fun _ _ fills => .pure fills.finish

theorem convertMapped_builds (phrase : ParseTree) (mapping : Mapping) (before : Conversion) :
    Ensures (convertMapped source descend phrase mapping) before fun id after =>
      Builds before after 0 {id} (height + 1) := by
  refine opening_fills height rfl fun opened fills => ?_
  refine Ensures.bind (Assembles.foldlM height fun child draft state => ?_)
    fun draft assembled assembles => ?_
  · split
    · exact addChild_assembles builds draft _ child _ state
    · exact leaveOut_assembles draft child state
  · refine (assembles.apply rfl fills).bind fun _ applied fills => ?_
    exact (finishMapped_shallow phrase.kind fills).bind fun _ _ fills => .pure fills.finish

theorem convertUnmapped_builds (phrase : ParseTree) (before : Conversion) :
    Ensures (convertUnmapped descend phrase) before fun id after =>
      Builds before after 0 {id} (height + 1) := by
  refine opening_fills height rfl fun opened fills => ?_
  refine Ensures.bind (Assembles.foldlM height fun child draft state => ?_)
    fun draft assembled assembles => ?_
  · split
    · exact addChild_assembles builds draft _ child _ state
    · exact addChild_assembles builds draft _ child _ state
  · refine (assembles.note phrase.kind (Draft.names draft)).bind fun _ noted assembles => ?_
    exact (assembles.apply rfl fills).bind fun _ _ fills => .pure fills.finish

theorem convertTransparent_builds (phrase : ParseTree) (before : Conversion) :
    Ensures (convertTransparent source descend phrase) before fun result after =>
      Builds before after 0 (result.toList : Multiset NodeId) (height + 1) := by
  refine .ite (fun _ => ?_) fun _ => ?_
  · refine Ensures.mono (Ensures.foldlM
      (fun converted state => Builds before state 0 (converted.toList : Multiset NodeId) height)
        (.refl before height)
      fun child _ converted state built => ?_) fun _ _ built => built.raise (Nat.le_succ _)
    refine .ite (fun _ => ?_) fun _ => ?_
    · exact (liftComment_builds source height child state).bind fun _ _ later =>
        .pure (by simpa using built.trans later)
    · exact (builds child state).mono fun _ _ later =>
        (built.trans later).weaken (Multiset.le_add_left _ _) le_rfl
  · exact (convertUnmapped_builds builds phrase before).bind fun _ _ built => .pure built

theorem convertTemplate_builds (phrase : ParseTree) (before : Conversion) :
    Ensures (convertTemplate source descend phrase) before fun id after =>
      Builds before after 0 {id} (height + 1) := by
  refine opening_fills height rfl fun opened fills => ?_
  refine (Ensures.foldlM (fun (acc : List NodeId × List NodeId × Nat) state =>
    Fills before state (acc.1 + acc.2.1 : Multiset NodeId) height) fills
      fun child _ acc state fills => ?_).bind
    fun acc assembled fills => ?_
  · obtain ⟨quasis, expressions, last⟩ := acc
    refine (pushNode_builds height rfl state).bind fun quasi pushed built => ?_
    refine (Ensures.foldlM (fun (expressions : List NodeId) state =>
      Fills before state (quasis + expressions + {quasi} : Multiset NodeId) height)
        (fills.extend built)
      fun inner _ expressions state fills => ?_).bind fun expressions after fills =>
        .pure (fills.weaken (le_of_eq ?_))
    · refine (builds inner state).bind fun result after built => ?_
      have extended := fills.extend built
      cases result with
      | none => exact .pure (extended.weaken (Multiset.le_add_right _ _))
      | some expression =>
          refine .pure (extended.weaken (le_of_eq ?_))
          simp only [← Multiset.coe_add, Option.toList_some]
          abel
    · simp only [← Multiset.coe_add, Multiset.coe_singleton]
      abel
  · obtain ⟨quasis, expressions, last⟩ := acc
    refine (pushNode_builds height rfl assembled).bind fun quasi pushed built => ?_
    refine ((fills.extend built).setSlot "quasis" fun id member => ?_).bind fun _ _ fills => ?_
    · rw [Slot.ids_nodes] at member
      rcases List.mem_append.mp member with early | last
      · exact Multiset.mem_add.mpr (.inl (Multiset.mem_add.mpr (.inl early)))
      · exact Multiset.mem_add.mpr (.inr (by simpa using last))
    · refine (fills.setSlot "expressions" fun id member => ?_).bind fun _ _ fills =>
        .pure fills.finish
      rw [Slot.ids_nodes] at member
      exact Multiset.mem_add.mpr (.inl (Multiset.mem_add.mpr (.inr member)))

theorem convertSpecifier_builds (kind nameSlot aliasSlot : String) (phrase : ParseTree)
    (before : Conversion) :
    Ensures (convertSpecifier descend kind nameSlot aliasSlot phrase) before fun id after =>
      Builds before after 0 {id} (height + 1) := by
  refine opening_fills height rfl fun opened fills => ?_
  refine (setConverted_shallow builds nameSlot _ fills).bind fun _ _ fills => ?_
  exact (setConverted_shallow builds aliasSlot _ fills).bind fun _ _ fills => .pure fills.finish

theorem addSpecifiers_assembles (kind specifierKind nameSlot aliasSlot : String) (draft : Draft)
    (clause : ParseTree) (before : Conversion) :
    Ensures (addSpecifiers source descend kind specifierKind nameSlot aliasSlot draft clause) before
      (Assembles before draft (height + 1)) := by
  refine Assembles.foldlM (height + 1) fun child draft state => .ite (fun _ => ?_) fun _ =>
    leaveOut_assembles draft child state
  exact (convertSpecifier_builds builds specifierKind nameSlot aliasSlot child state).bind
    fun _ _ built =>
    .pure (.one "specifiers" true built)

theorem addClausePart_assembles (draft : Draft) (part : ParseTree) (before : Conversion) :
    Ensures (addClausePart source descend draft part) before
      (Assembles before draft (height + 1)) := by
  have named : ∀ kind name, Ensures (do let id ← convertLocal source kind part name; pure (Draft.push "specifiers" id true draft))
      before (Assembles before draft (height + 1)) := fun kind name =>
    (convertLocal_builds source height kind part name before).bind fun _ _ built =>
      .pure (.one "specifiers" true built)
  refine .ite (fun _ => named _ part) fun _ => .ite (fun _ => ?_) fun _ =>
    .ite (fun _ => ?_) fun _ => ?_
  · split
    · exact named _ _
    · exact .pure (.nothing (.refl before _))
  · exact addSpecifiers_assembles builds _ _ _ _ draft part before
  · exact leaveOut_assembles draft part before

theorem convertImport_builds (phrase : ParseTree) (before : Conversion) :
    Ensures (convertImport source descend phrase) before fun id after =>
      Builds before after 0 {id} (height + 2) := by
  refine drafted_builds (height + 1) rfl fun child draft state => ?_
  refine .ite (fun _ => keepComment_assembles draft child state) fun _ =>
    .ite (fun _ => ?_) fun _ => ?_
  · exact Assembles.foldlM (height + 1) fun part draft state =>
      addClausePart_assembles builds draft part state
  · refine .ite (fun _ => ?_) fun _ => leaveOut_assembles draft child state
    exact (addChild_assembles builds draft "source" child false state).mono fun _ _ assembles =>
      assembles.raise (Nat.le_succ _)

theorem convertExport_builds (phrase : ParseTree) (before : Conversion) :
    Ensures (convertExport source descend phrase) before fun id after =>
      Builds before after 0 {id} (height + 2) := by
  refine drafted_builds (height + 1) rfl fun child draft state => ?_
  have add : ∀ (draft : Draft) name child state,
    Ensures (addChild descend draft name child false) state
      (Assembles state draft (height + 1)) := fun draft name child state =>
    (addChild_assembles builds draft name child false state).mono fun _ _ assembles =>
      assembles.raise (Nat.le_succ _)
  refine .ite (fun _ => keepComment_assembles draft child state) fun _ =>
    .ite (fun _ => ?_) fun _ => .ite (fun _ => ?_) fun _ => ?_
  · exact (addSpecifiers_assembles builds _ _ _ _ _ child state).mono fun _ _ assembles =>
      assembles.declared
  · exact Assembles.foldlM (height + 1) fun name draft state => add draft "exported" name state
  · exact .ite (fun _ => add draft _ child state) fun _ =>
      .ite (fun _ => add draft _ child state) fun _ =>
      leaveOut_assembles draft child state

theorem convertModuleCall_builds (phrase : ParseTree) (before : Conversion) :
    Ensures (convertModuleCall source descend phrase) before fun id after =>
      Builds before after 0 {id} (height + 1) := by
  refine opening_fills height rfl fun opened fills => ?_
  refine (Ensures.foldlM (fun (acc : Draft × Nat) state => Assembles opened [] height acc.1 state)
    (.nothing (.refl opened height))
    fun child _ acc state assembles => ?_).bind fun acc assembled assembles =>
    (assembles.apply rfl fills).bind fun _ _ fills => .pure fills.finish
  obtain ⟨draft, position⟩ := acc
  have add : ∀ name, Ensures (addChild descend draft name child false) state
    (Assembles state draft height) := fun name =>
    addChild_assembles builds draft name child false state
  refine .ite (fun _ => ?_) fun _ => ?_
  · exact (liftComment_builds source height child state).bind fun _ _ built =>
      .pure (assembles.trans (.nothing built))
  · refine .ite (fun _ => (add "source").bind fun _ _ later =>
      .pure (assembles.trans later)) fun _ => ?_
    refine .ite (fun _ => (add "options").bind fun _ _ later =>
      .pure (assembles.trans later)) fun _ => ?_
    exact (leaveOut_assembles draft child state).bind fun _ _ later => .pure (assembles.trans later)

theorem convertCall_builds (phrase : ParseTree) (before : Conversion) :
    Ensures (convertCall source descend phrase) before fun id after =>
      Builds before after 0 {id} (height + 1) := by
  refine .ite (fun _ => convertModuleCall_builds builds phrase before) fun _ => ?_
  refine drafted_builds height rfl fun child draft state => ?_
  refine .ite (fun _ => addChild_assembles builds draft _ child _ state) fun _ =>
    .ite (fun _ => ?_) fun _ => ?_
  · exact .ite (fun _ => addChild_assembles builds draft _ child _ state) fun _ =>
      addChild_assembles builds draft _ child _ state
  · exact leaveOut_assembles draft child state

theorem convertAttribute_builds (phrase : ParseTree) (before : Conversion) :
    Ensures (convertAttribute source descend phrase) before fun id after =>
      Builds before after 0 {id} (height + 1) := by
  refine opening_fills height rfl fun opened fills => ?_
  refine (Ensures.foldlM (fun (_ : Nat) state => Fills before state 0 height) fills
    fun child _ position state fills => ?_).bind
    fun _ _ fills => .pure fills.finish
  refine .ite (fun _ => ?_) fun _ => ?_
  · exact (liftComment_builds source height child state).bind fun _ _ built =>
      .pure (by simpa using fills.extend built)
  · refine (builds child state).bind fun result after built => ?_
    have extended := fills.extend built
    split
    · next name =>
        refine (extended.mark (extended.builds.shallow name (by simp)).le).bind fun _ _ fills => ?_
        exact (fills.setSlot "name" (by simp [Slot.ids])).bind fun _ _ fills =>
          .pure (fills.weaken (Multiset.zero_le _))
    · next value =>
        exact (extended.setSlot "value" (by simp [Slot.ids])).bind fun _ _ fills =>
          .pure (fills.weaken (Multiset.zero_le _))
    · exact .pure (extended.weaken (Multiset.zero_le _))

omit builds in
/-- A method and its function are open at the same time. The function, which stands behind the
method, can be closed first. -/
theorem method_closes {before assembled : Conversion} {phrase : ParseTree} {draft inner : Draft}
    (built : Builds ((before.push { kind := "MethodDefinition", span := phrase.span }).push
      { kind := "FunctionExpression", span := phrase.span }) assembled 0
        (draft.ids + inner.ids) height) :
    let own := before.builder.size
    Ensures (do
      applyDraft (draft.push "value" (own + 1) false) own
      applyDraft inner (own + 1)
      pure own) assembled fun id after => Builds before after 0 {id} (height + 2) := by
  intro own
  let between := before.push { kind := "MethodDefinition", span := phrase.span }
  let closed : Conversion :=
    { assembled with builder := inner.apply between.builder.size assembled.builder }
  have behind : between.builder.size = own + 1 := Builder.size_push
  have function : Fills between assembled (0 + (draft.ids + inner.ids)) height :=
    (Fills.opening between rfl height).extend built
  have filled : Fills between closed (0 + (draft.ids + inner.ids)) height :=
    function.applyDraft inner fun id member => by simp [member]
  have method : Fills before closed _ (height + 1) :=
    (Fills.opening before rfl (height + 1)).extend filled.close
  have taken : ∀ id ∈ (draft.push "value" (own + 1) false).ids,
      id ∈ 0 + (between.builder.size ::ₘ (0 + (draft.ids + inner.ids))) := by
    intro id member
    rw [Draft.ids_push, ← behind] at member
    simp only [zero_add, Multiset.mem_cons, Multiset.mem_add] at member ⊢
    exact member.imp_right .inl
  have both : Builds before
      { assembled with builder := (draft.push "value" (own + 1) false).apply own (inner.apply between.builder.size assembled.builder) }
      0 {own} (height + 2) := (method.applyDraft (draft.push "value" (own + 1) false) taken).finish
  rw [behind, Draft.apply_comm _ _ _ (Nat.ne_of_lt (Nat.lt_succ_self own))] at both
  exact both

theorem convertMethod_builds (phrase : ParseTree) (before : Conversion) :
    Ensures (convertMethod source descend phrase) before fun id after =>
      Builds before after 0 {id} (height + 2) := by
  let method : Node := { kind := "MethodDefinition", span := phrase.span }
  let function : Node := { kind := "FunctionExpression", span := phrase.span }
  let opened := (before.push method).push function
  refine Ensures.bind (show Ensures (pushKind "MethodDefinition" phrase) before fun id after =>
    id = before.builder.size ∧ after = before.push method from ⟨rfl, rfl⟩) ?_
  rintro _ _ ⟨rfl, rfl⟩
  refine Ensures.bind (show Ensures (pushKind "FunctionExpression" phrase) (before.push method)
    fun id after =>
    id = before.builder.size + 1 ∧ after = opened from ⟨Builder.size_push, rfl⟩) ?_
  rintro _ _ ⟨rfl, rfl⟩
  refine (Ensures.foldlM (fun (drafts : Draft × Draft) state =>
    Builds opened state 0 (drafts.1.ids + drafts.2.ids) height)
    (.refl opened height) fun child _ drafts state built => ?_).bind fun drafts assembled built =>
      method_closes built
  obtain ⟨draft, inner⟩ := drafts
  have swapped : Builds opened state 0 (inner.ids + draft.ids) height := by rwa [add_comm]
  have innerward : ∀ name many,
    Ensures (do let inner ← addChild descend inner name child many; pure (draft, inner)) state
      fun drafts after => Builds opened after 0 (drafts.1.ids + drafts.2.ids) height :=
        fun name many =>
    (addChild_assembles builds inner name child many state).bind fun _ _ assembles =>
      .pure (by rw [add_comm]; exact assembles.extend swapped)
  refine .ite (fun _ => ?_) fun _ => .ite (fun _ => innerward _ _) fun _ =>
    .ite (fun _ => innerward _ _) fun _ => ?_
  · exact (addChild_assembles builds draft "key" child false state).bind fun _ _ assembles =>
      .pure (assembles.extend built)
  · exact (liftNestedComments_builds source height child state).bind fun _ _ later =>
      .pure (by simpa using built.trans later)

/-! ## Phrases -/

theorem Construct.isBuilt {phrase : ParseTree} {handling : ParseTree.Handling}
    {step : (ParseTree → Convert (Option NodeId)) → Convert (Option NodeId)}
    (construct : Construct source phrase step handling) (before : Conversion) :
    Ensures (step descend) before fun result after =>
      Builds before after 0 (result.toList : Multiset NodeId) (height + 2) := by
  -- the node of a construct, if it is at most that high
  have made : ∀ {step : Convert NodeId} {own : Nat}, own ≤ height + 2 →
      Ensures step before (fun id after => Builds before after 0 {id} own) →
      Ensures (some <$> step) before fun result after =>
        Builds before after 0 (result.toList : Multiset NodeId) (height + 2) :=
    fun bound step => step.map fun _ _ built => built.raise bound
  cases construct with
  | comment =>
      exact (liftComment_builds source _ phrase before).bind fun _ _ built => .pure built
  | firstLine => exact .pure (.refl before _)
  | leaf _ _ _ bare => exact made le_rfl (pushNode_builds _ bare before)
  | shorthand => exact made (by omega) (convertShorthand_builds source height phrase before)
  | template => exact made (by omega) (convertTemplate_builds builds phrase before)
  | imports => exact made le_rfl (convertImport_builds builds phrase before)
  | exports => exact made le_rfl (convertExport_builds builds phrase before)
  | moduleCall => exact made (by omega) (convertCall_builds builds phrase before)
  | call => exact made (by omega) (convertCall_builds builds phrase before)
  | method => exact made le_rfl (convertMethod_builds builds phrase before)
  | elementAttribute => exact made (by omega) (convertAttribute_builds builds phrase before)
  | transparent =>
      exact (convertTransparent_builds builds phrase before).mono fun _ _ built =>
        built.raise (by omega)
  | mapped => exact made (by omega) (convertMapped_builds builds phrase _ before)
  | unmapped => exact made (by omega) (convertUnmapped_builds builds phrase before)

theorem convertPhrase_builds (phrase : ParseTree) (before : Conversion) :
    Ensures (convertPhrase source descend phrase) before fun result after =>
      Builds before after 0 (result.toList : Multiset NodeId) (height + 2) :=
  (convertPhrase_construct source phrase).isBuilt builds before

end Descent

/-- A phrase within a number of levels is at most twice as deep, whatever its kinds are. -/
theorem convert_builds (source : List Char) (levels : Nat) (phrase : ParseTree)
    (before : Conversion) :
    Ensures (convert source levels phrase) before fun result after =>
      Builds before after 0 (result.toList : Multiset NodeId) (2 * levels) := by
  induction levels generalizing phrase before with
  | zero => exact truncate_builds source 0 phrase before
  | succ levels ih =>
      exact .counted <| (convertPhrase_builds ih phrase _).mono fun _ _ built =>
        ⟨built.size, built.kept, built.shallow, built.bare⟩

/-- The program of a parse takes what its phrases add, and all the comments. -/
theorem convertProgram_builds (source : List Char) (parse : ParseTree) :
    Ensures (convertProgram source parse) {} fun program after =>
      Builds {} after 0 {program} (2 * maxDepth + 1) := by
  refine opening_fills (2 * maxDepth) rfl fun opened fills => ?_
  rw [fillProgram, bind_assoc]
  refine Ensures.bind (Assembles.foldlM (2 * maxDepth) fun child draft state =>
    addChild_assembles (convert_builds source maxDepth) draft "body" child true state)
      fun draft assembled assembles => ?_
  refine (assembles.apply rfl fills).bind fun _ applied fills => ?_
  have comments : ∀ id ∈ (applied.comments.toList : Multiset NodeId),
      applied.builder.Shallow 1 (2 * maxDepth) id := fun id member => by
    rcases fills.builds.bare id (.inl (Array.mem_toList_iff.mp member)) with early | bare
    · exact absurd early (not_setsAside_start id)
    · exact bare.shallow _
  refine Ensures.bind (show Ensures get applied fun current after => current = applied ∧
    after = applied from ⟨rfl, rfl⟩) ?_
  rintro _ _ ⟨rfl, rfl⟩
  exact ((fills.offer comments).setSlot "comments" (by simp)).bind fun _ _ fills =>
    .pure fills.finish

end Spellspan.Parse
