import Mathlib
import Spellspan.Proofs.ConversionSteps
import Spellspan.Proofs.PhraseParts

/-!
Every construct grows the table by one closed run of nodes. The children of a phrase are converted
into loose nodes, which its draft collects; the node of the phrase takes them when the draft is
applied. A construct adds at most two nodes above those of its children, so a phrase within a number
of levels is at most twice as deep.
-/
set_option autoImplicit false

namespace Spellspan

/-- No row of a parse has the name of a standard kind. -/
def ParseTree.Foreign (parse : ParseTree) : Prop :=
  ∀ row ∈ parse.rows, row.kind ∉ Tree.standardSlots.map Prod.fst

namespace ParseTree.Foreign

variable {phrase part : ParseTree}

theorem kind (foreign : phrase.Foreign) : phrase.kind ∉ Tree.standardSlots.map Prod.fst :=
  foreign phrase phrase.self_mem_rows

theorem child (foreign : phrase.Foreign) (member : part ∈ phrase.children) : part.Foreign :=
  fun row below => foreign row (rows_subset_of_mem member below)

theorem namedChild (foreign : phrase.Foreign) (member : part ∈ phrase.namedChildren) :
    part.Foreign :=
  foreign.child (mem_children_of_mem_namedChildren member)

end ParseTree.Foreign

namespace Parse

open Spellspan.Tree (NodeId NodeValue Node Slot standardSlots slotsIn?)

/-! ## Leaves and comments -/

section
variable (source : List Char)

theorem standard_of_bare {node : Node} (known : node.kind ∈ standardSlots.map Prod.fst)
    (bare : node.slots = []) :
    node.Standard where
  known := known
  held := by simp [bare]

theorem pushNode_grows {node : Node} (standard : node.Standard) (bare : node.slots = [])
    (before : Conversion) :
    Ensures (pushNode node) before fun id after => Grows before after [] {id} 1 :=
  Grows.leaf before standard bare

theorem pushKind_fills {kind : String} (known : kind ∈ standardSlots.map Prod.fst)
    (phrase : ParseTree) (before : Conversion) :
    Ensures (pushKind kind phrase) before fun id after => id = before.builder.size ∧
      Filling before after 0 0 :=
  ⟨rfl, _, 0, standard_of_bare known rfl, le_rfl, Grows.opening before _⟩

theorem pushKind_opens (kind : String) (phrase : ParseTree) (before : Conversion) :
    Ensures (pushKind kind phrase) before fun id after =>
      id = before.builder.size ∧ Grows before after [{ kind, span := phrase.span }] 0 0 :=
  ⟨rfl, Grows.opening before _⟩

theorem noteKind_notes {kind : String} (slots : List String)
    (foreign : kind ∉ standardSlots.map Prod.fst) {before state : Conversion} {opened : List Node}
    {loose : Multiset NodeId} {height : Nat} (grows : Grows before state opened loose height) :
    Ensures (noteKind kind slots) state fun _ after =>
      Grows before after opened loose height ∧ ∃ names, slotsIn? kind after.extraKinds =
        some names ∧ slots ⊆ names :=
  ⟨grows.note slots foreign, slotsIn?_noteKindIn⟩

theorem applyDraft_grows (draft : Draft) {before state : Conversion} {node : Node}
    {loose : Multiset NodeId} {height : Nat} (grows : Grows before state [node] loose height) :
    Ensures (applyDraft draft before.builder.size) state fun _ after =>
      after.extraKinds = state.extraKinds ∧ Grows before after [draft.applied node] loose height :=
  ⟨rfl, @Grows.apply _ _ [] [] _ _ _ draft grows _ rfl⟩

theorem convertName_grows {kind : String} (known : kind ∈ standardSlots.map Prod.fst)
    (phrase : ParseTree) (before : Conversion) :
    Ensures (convertName source kind phrase) before fun id after => Grows before after [] {id} 1 :=
  pushNode_grows (standard_of_bare known rfl) rfl before

theorem pushQuasi_grows (start stop : Nat) (before : Conversion) :
    Ensures (pushQuasi source start stop) before fun id after => Grows before after [] {id} 1 :=
  pushNode_grows (standard_of_bare (show "TemplateElement" ∈ _ by decide) rfl) rfl before

theorem commentKind_standard (text : List Char) :
    (commentParts text).1 ∈ standardSlots.map Prod.fst := by
  have both : (commentParts text).1 = "Line" ∨ (commentParts text).1 = "Block" := by
    unfold commentParts
    split
    · exact .inl rfl
    · split
      · exact .inr rfl
      · exact .inl rfl
    · exact .inl rfl
  rcases both with line | block
  · exact line ▸ by decide
  · exact block ▸ by decide

/-- A comment is a node of its own. -/
theorem liftComment_grows (phrase : ParseTree) (before : Conversion) :
    Ensures (liftComment source phrase) before fun _ after => Grows before after [] 0 1 :=
  Grows.comment before (standard_of_bare (commentKind_standard (phraseText source phrase)) rfl) rfl

theorem liftNestedComments_grows (phrase : ParseTree) (before : Conversion) :
    Ensures (liftNestedComments source phrase) before fun _ after => Grows before after [] 0 1 :=
  .forM (fun state => Grows before state [] 0 1) ((Grows.refl before).raise (Nat.zero_le 1))
    fun comment _ state grown =>
    (liftComment_grows source comment state).mono fun _ _ added => grown.trans added

theorem truncate_grows {phrase : ParseTree} (foreign : phrase.Foreign) (before : Conversion) :
    Ensures (truncate source phrase) before fun result after =>
      Grows before after [] (result.toList : Multiset NodeId) 1 := by
  refine .ite (fun _ => (liftComment_grows source phrase before).bind fun _ _ grown =>
    .pure grown) fun _ => ?_
  refine (pushKind_opens phrase.kind phrase before).bind ?_
  rintro _ _ ⟨rfl, opened⟩
  refine (noteKind_notes [] foreign.kind opened).bind fun _ noted ⟨grown, names, known, _⟩ => ?_
  have fits : Node.Fits noted.extraKinds { kind := phrase.kind, span := phrase.span } :=
    .inr ⟨⟨names, known, by simp⟩, by simp, by simp⟩
  have closed : Grows before noted [] {before.builder.size} 1 :=
    @Grows.close _ _ [] _ 0 0 0 grown fits le_rfl
  refine (Ensures.forM (fun state => Grows before state [] {before.builder.size} 1) closed
    fun child _ state grown => ?_).bind
    fun _ _ grown => ⟨grown.covers, grown.tidy, grown.nodeRun⟩
  exact (liftNestedComments_grows source child state).mono
    fun _ _ added => by simpa using grown.trans added

/-! ## Constructs without children of their own -/

theorem convertShorthand_grows (phrase : ParseTree) (before : Conversion) :
    Ensures (convertShorthand source phrase) before fun id after =>
      Grows before after [] {id} 2 := by
  refine (pushKind_fills (show "Property" ∈ _ by decide) phrase before).bind ?_
  rintro _ opened ⟨rfl, filling⟩
  refine (convertName_grows source (show "Identifier" ∈ _ by decide) phrase opened).bind
    fun key keyed grown => ?_
  refine (convertName_grows source (show "Identifier" ∈ _ by decide) phrase keyed).bind
    fun value valued grownAgain => ?_
  have both := (filling.extend grown (Nat.zero_le 1)).extend grownAgain le_rfl
  refine (both.setSlot {value} (.inr (.inl ⟨key, rfl⟩)) (by simp [Slot.ids, add_comm])).bind
    fun _ _ filling => ?_
  refine (filling.setSlot 0 (.inr (.inl ⟨value, rfl⟩)) (by simp [Slot.ids])).bind
    fun _ _ filling => ?_
  exact (filling.setSlot 0 (.inl (by decide)) (by simp [Slot.ids])).bind fun _ _ filling =>
    .pure filling.close

theorem convertLocal_grows {kind : String} (known : kind ∈ standardSlots.map Prod.fst)
    (phrase name : ParseTree) (before : Conversion) :
    Ensures (convertLocal source kind phrase name) before fun id after =>
      Grows before after [] {id} 2 := by
  refine (pushKind_fills known phrase before).bind ?_
  rintro _ opened ⟨rfl, filling⟩
  refine (convertName_grows source (show "Identifier" ∈ _ by decide) name opened).bind
    fun local' named grown => ?_
  refine ((filling.extend grown (Nat.zero_le 1)).setSlot 0 (.inr (.inl ⟨local', rfl⟩))
    (by simp [Slot.ids])).bind ?_
  exact fun _ _ filling => .pure filling.close

end

/-! ## Drafts that collect loose nodes -/

/-- From one state to a later one: a draft collects the loose nodes that were added. -/
def Collects (before : Conversion) (draft : Draft) (height : Nat) (collected : Draft)
    (after : Conversion) : Prop :=
  ∃ added, collected.ids = added + draft.ids ∧ Grows before after [] added height

namespace Collects

variable {before middle after : Conversion} {draft collected : Draft} {height : Nat}

theorem nothing (grows : Grows before after [] 0 height) :
    Collects before draft height draft after :=
  ⟨0, (zero_add _).symm, grows⟩

theorem refl (state : Conversion) (draft : Draft) (height : Nat) :
    Collects state draft height draft state :=
  nothing ((Grows.refl state).raise (Nat.zero_le height))

theorem one {id : NodeId} (name : String) (many : Bool)
    (grows : Grows before after [] {id} height) :
    Collects before draft height (draft.push name id many) after :=
  ⟨{id}, by rw [Draft.ids_push, Multiset.singleton_add], grows⟩

theorem trans {final : Draft} (first : Collects before draft height collected middle)
    (second : Collects middle collected height final after) :
    Collects before draft height final after := by
  obtain ⟨added, collects, grows⟩ := first
  obtain ⟨more, collectsMore, growsMore⟩ := second
  exact ⟨added + more, by rw [collectsMore, collects]; abel, grows.trans growsMore⟩

theorem raise (collects : Collects before draft height collected after) {taller : Nat}
    (higher : height ≤ taller) :
    Collects before draft taller collected after := by
  obtain ⟨added, same, grows⟩ := collects
  exact ⟨added, same, grows.raise higher⟩

theorem foldlM {items : List ParseTree} {step : Draft → ParseTree → Convert Draft} (height : Nat)
    (draft : Draft) (before : Conversion)
    (each : ∀ item ∈ items, ∀ draft state,
      Ensures (step draft item) state (Collects state draft height)) :
    Ensures (items.foldlM step draft) before (Collects before draft height) :=
  .foldlM (Collects before draft height) (.refl before draft height)
    fun item member collected state first =>
    (each item member collected state).mono fun _ _ second => first.trans second

theorem extend {start : Conversion} {opened : List Node} {others : Multiset NodeId}
    (collects : Collects before draft height collected after)
    (grows : Grows start before opened (draft.ids + others) height) :
    Grows start after opened (collected.ids + others) height := by
  obtain ⟨added, same, grown⟩ := collects
  refine (grows.trans grown).weaken (le_of_eq ?_) le_rfl
  rw [same]
  abel

theorem fill {start : Conversion} (collects : Collects before draft height collected after)
    (empty : draft.ids = 0) (filling : Filling start before 0 0)
    : Filling start after collected.ids height := by
  obtain ⟨added, same, grows⟩ := collects
  rw [same, empty]
  exact filling.extend grows (Nat.zero_le height)

end Collects

/-- What is needed of the conversion of the phrases below: it adds what it returns. -/
def Descends (descend : ParseTree → Convert (Option NodeId)) (height : Nat) : Prop :=
  ∀ phrase, phrase.Foreign → ∀ before,
    Ensures (descend phrase) before fun result after =>
      Grows before after [] (result.toList : Multiset NodeId) height

section Descent

variable {source : List Char} {descend : ParseTree → Convert (Option NodeId)} {height : Nat}

theorem leaveOut_collects (draft : Draft) (child : ParseTree) (before : Conversion) :
    Ensures (leaveOut source draft child) before (Collects before draft (height + 1)) :=
  (liftNestedComments_grows source child before).bind fun _ _ grown =>
    .pure (.nothing (grown.raise (Nat.le_add_left 1 height)))

theorem keepComment_collects (draft : Draft) (comment : ParseTree) (before : Conversion) :
    Ensures (do liftComment source comment; pure draft) before
      (Collects before draft (height + 1)) :=
  (liftComment_grows source comment before).bind fun _ _ grown =>
    .pure (.nothing (grown.raise (Nat.le_add_left 1 height)))

theorem finishMapped_fills (kind : String) {before state : Conversion}
    (filling : Filling before state 0 height) :
    Ensures (finishMapped kind before.builder.size) state fun _ after =>
      Filling before after 0 height := by
  refine .ite (fun _ => filling.setSlot 0 (.inl (by decide)) (by simp [Slot.ids])) fun _ => ?_
  refine .ite (fun _ => filling.setSlot 0 (.inl (by decide)) (by simp [Slot.ids])) fun _ => ?_
  refine .ite (fun _ => ?_) fun _ => .pure filling
  refine Ensures.bind (show Ensures get state fun current after => current = state ∧
    after = state from ⟨rfl, rfl⟩) ?_
  rintro _ _ ⟨rfl, rfl⟩
  split
  · next name named => exact filling.markChild named
  · exact .pure filling

theorem exportKind_standard (phrase : ParseTree) :
    exportKind phrase ∈ standardSlots.map Prod.fst := by
  unfold exportKind
  split
  · decide
  · split <;> decide

theorem mappingFor?_standard {kind : String} {mapping : Mapping}
    (found : mappingFor? kind = some mapping) :
    mapping.kind ∈ standardSlots.map Prod.fst := by
  obtain ⟨entry, listed, rfl⟩ := Option.map_eq_some_iff.mp found
  have all : ∀ entry ∈ mappings, entry.2.kind ∈ standardSlots.map Prod.fst := by decide
  exact all entry (List.mem_of_find?_eq_some listed)

variable (descends : Descends descend (height + 1))
include descends

theorem addOne_collects (draft : Draft) (name : String) {child : ParseTree}
    (foreign : child.Foreign) (many : Bool) (before : Conversion) :
    Ensures (do
      match ← descend child with
      | some id => pure (Draft.push name id many draft)
      | none => pure draft) before (Collects before draft (height + 1)) := by
  refine (descends child foreign before).bind fun result after grown => ?_
  cases result with
  | none => exact .pure (.nothing grown)
  | some id => exact .pure (.one name many grown)

theorem addChild_collects (draft : Draft) (name : String) {child : ParseTree}
    (foreign : child.Foreign) (many : Bool) (before : Conversion) :
    Ensures (addChild descend draft name child many) before
      (Collects before draft (height + 1)) := by
  refine .ite (fun _ => ?_) fun _ => addOne_collects descends draft name foreign many before
  have declared := Collects.foldlM (height + 1) (draft.declareList name) before
    fun item member draft state =>
    addOne_collects descends draft name (foreign.namedChild member) true state
  exact declared.mono fun collected after ⟨added, same, grows⟩ =>
    ⟨added, by rw [same, Draft.ids_declareList], grows⟩

theorem setConverted_fills (slot : String) {child : Option ParseTree}
    (foreign : ∀ phrase, child = some phrase → phrase.Foreign) {before state : Conversion}
    {spare : Multiset NodeId} (filling : Filling before state spare (height + 1)) :
    Ensures (setConverted descend before.builder.size slot child) state fun _ after =>
      Filling before after spare (height + 1) := by
  cases child with
  | none => exact .pure filling
  | some child =>
      refine (descends child (foreign child rfl) state).bind fun result after grown => ?_
      have extended := filling.extend grown le_rfl
      cases result with
      | none => exact .pure (by simpa using extended)
      | some converted => exact extended.setSlot spare (.inr (.inl ⟨converted, rfl⟩)) (by simp [Slot.ids])

/-! ## Constructs -/

theorem convertMapped_grows {phrase : ParseTree} (foreign : phrase.Foreign) {mapping : Mapping}
    (known : mapping.kind ∈ standardSlots.map Prod.fst) (before : Conversion) :
    Ensures (convertMapped source descend phrase mapping) before fun id after =>
      Grows before after [] {id} (height + 2) := by
  refine (pushKind_fills known phrase before).bind ?_
  rintro _ opened ⟨rfl, filling⟩
  refine (Collects.foldlM (height + 1) [] opened fun child member draft state => ?_).bind
    fun draft collected collects => ?_
  · split
    · exact addChild_collects descends draft _ (foreign.namedChild member) _ state
    · exact leaveOut_collects draft child state
  · refine (collects.fill rfl filling).applyDraft.bind fun _ applied filling => ?_
    exact (finishMapped_fills phrase.kind filling).bind fun _ _ filling => .pure filling.close

theorem convertUnmapped_grows {phrase : ParseTree} (foreign : phrase.Foreign)
    (before : Conversion) :
    Ensures (convertUnmapped descend phrase) before fun id after =>
      Grows before after [] {id} (height + 2) := by
  refine (pushKind_opens phrase.kind phrase before).bind ?_
  rintro _ opened ⟨rfl, grown⟩
  refine (Collects.foldlM (height + 1) [] opened fun child member draft state => ?_).bind
    fun draft collected collects => ?_
  · split
    · exact addChild_collects descends draft _ (foreign.namedChild member) _ state
    · exact addChild_collects descends draft _ (foreign.namedChild member) _ state
  · obtain ⟨added, same, grows⟩ := collects
    have loosened := (grown.raise (Nat.zero_le (height + 1))).trans grows
    refine (noteKind_notes draft.names foreign.kind loosened).bind
      fun _ noted ⟨grown, names, known, included⟩ => ?_
    refine Ensures.bind (applyDraft_grows draft grown) fun _ applied ⟨kinds, grown⟩ => .pure ?_
    refine @Grows.close _ _ [] _ _ 0 _ grown
      (.inr ⟨⟨names, ?_, ?_⟩, ?_, draft.nodup_slots_applied (by simp)⟩) ?_
    · rw [Draft.kind_applied, kinds]
      exact known
    · intro entry member
      rcases draft.mem_slots_applied member with earlier | ⟨named, _⟩
      · cases earlier
      · exact included named
    · intro entry member
      rcases draft.mem_slots_applied member with earlier | ⟨_, only⟩
      · cases earlier
      · exact only
    · have takes := draft.references_applied_le { kind := phrase.kind, span := phrase.span }
      rw [same] at takes
      simpa [Node.references] using takes

theorem convertTransparent_grows {phrase : ParseTree} (foreign : phrase.Foreign)
    (before : Conversion) :
    Ensures (convertTransparent source descend phrase) before fun result after =>
      Grows before after [] (result.toList : Multiset NodeId) (height + 2) := by
  refine .ite (fun _ => ?_) fun _ => ?_
  · refine Ensures.mono (Ensures.foldlM
      (fun converted state =>
        Grows before state [] (converted.toList : Multiset NodeId) (height + 1))
      ((Grows.refl before).raise (Nat.zero_le _)) fun child member converted state grown => ?_)
      fun _ _ grown => grown.raise (Nat.le_succ _)
    refine .ite (fun _ => ?_) fun _ => ?_
    · refine (liftComment_grows source child state).bind fun _ _ added => .pure ?_
      simpa using grown.trans (added.raise (Nat.le_add_left 1 height))
    · refine (descends child (foreign.namedChild member) state).mono fun result after added => ?_
      exact (grown.trans added).weaken (Multiset.le_add_left _ _) le_rfl
  · exact (convertUnmapped_grows descends foreign before).bind fun _ _ grown => .pure grown

theorem convertTemplate_grows {phrase : ParseTree} (foreign : phrase.Foreign)
    (before : Conversion) :
    Ensures (convertTemplate source descend phrase) before fun id after =>
      Grows before after [] {id} (height + 2) := by
  refine (pushKind_fills (show "TemplateLiteral" ∈ _ by decide) phrase before).bind ?_
  rintro _ opened ⟨rfl, filling⟩
  refine (Ensures.foldlM (fun (parts : List NodeId × List NodeId × Nat) state =>
    Grows opened state [] (parts.1 + parts.2.1 : Multiset NodeId) (height + 1))
      ((Grows.refl opened).raise (Nat.zero_le _))
    fun child member parts state grown => ?_).bind fun parts collected grown => ?_
  · obtain ⟨quasis, expressions, last⟩ := parts
    have foreignChild := foreign.namedChild (List.mem_filter.mp member).1
    refine (pushQuasi_grows source last child.span.start state).bind fun quasi pushed added => ?_
    have around := grown.trans (added.raise (Nat.le_add_left 1 height))
    refine (Ensures.foldlM (fun (expressions : List NodeId) state =>
      Grows opened state [] (quasis + expressions + {quasi} : Multiset NodeId) (height + 1)) around
      fun inner innerMember expressions state grown => ?_).bind fun expressions after grown =>
        .pure ?_
    · refine (descends inner (foreignChild.namedChild innerMember) state).bind
        fun result after added => ?_
      have both := grown.trans added
      cases result with
      | none => exact .pure (by simpa using both)
      | some expression =>
          refine .pure (both.weaken (le_of_eq ?_) le_rfl)
          simp only [← Multiset.coe_add, Option.toList_some]
          abel
    · refine grown.weaken (le_of_eq ?_) le_rfl
      simp only [← Multiset.coe_add, Multiset.coe_singleton]
      abel
  · obtain ⟨quasis, expressions, last⟩ := parts
    refine (pushQuasi_grows source last (phrase.span.stop - 1) collected).bind
      fun quasi pushed added => ?_
    have filled := filling.extend (grown.trans (added.raise (Nat.le_add_left 1 height)))
      (Nat.zero_le _)
    refine (filled.setSlot (expressions : Multiset NodeId) (.inr (.inr ⟨_, rfl⟩))
      (le_of_eq ?_)).bind fun _ _ filled => ?_
    · simp only [Slot.ids_nodes, ← Multiset.coe_add, Multiset.coe_singleton]
      abel
    · exact (filled.setSlot 0 (.inr (.inr ⟨_, rfl⟩)) (by simp)).bind fun _ _ filled =>
        .pure filled.close

theorem convertSpecifier_grows {kind : String} (known : kind ∈ standardSlots.map Prod.fst)
    (nameSlot aliasSlot : String) {phrase : ParseTree} (foreign : phrase.Foreign)
    (before : Conversion) :
    Ensures (convertSpecifier descend kind nameSlot aliasSlot phrase) before fun id after =>
      Grows before after [] {id} (height + 2) := by
  have below : ∀ field part, phrase.childIn? field = some part → part.Foreign :=
    fun field part found =>
    foreign.child (ParseTree.mem_children_of_childIn? found)
  refine (pushKind_fills known phrase before).bind ?_
  rintro _ opened ⟨rfl, filling⟩
  refine (setConverted_fills descends nameSlot (below "name")
    (filling.weaken le_rfl (Nat.zero_le _))).bind fun _ _ filling => ?_
  refine (setConverted_fills descends aliasSlot (fun part found => ?_) filling).bind
    fun _ _ filling => .pure filling.close
  rcases Option.or_eq_some_iff.mp found with second | ⟨_, first⟩
  · exact below "alias" part second
  · exact below "name" part first

theorem addSpecifiers_collects {kind specifierKind : String}
    (known : specifierKind ∈ standardSlots.map Prod.fst) (nameSlot aliasSlot : String)
    (draft : Draft) {clause : ParseTree} (foreign : clause.Foreign) (before : Conversion) :
    Ensures (addSpecifiers source descend kind specifierKind nameSlot aliasSlot draft clause) before
      (Collects before draft (height + 2)) := by
  refine Collects.foldlM (height + 2) draft before fun child member draft state => ?_
  refine .ite (fun _ => ?_) fun _ => leaveOut_collects draft child state
  refine (convertSpecifier_grows descends known nameSlot aliasSlot (foreign.namedChild member)
    state).bind fun id after grown => ?_
  exact .pure (.one "specifiers" true grown)

theorem addClausePart_collects (draft : Draft) {part : ParseTree} (foreign : part.Foreign)
    (before : Conversion) :
    Ensures (addClausePart source descend draft part) before
      (Collects before draft (height + 2)) := by
  have local_collects : ∀ {kind : String}, kind ∈ standardSlots.map Prod.fst → ∀ name : ParseTree,
      Ensures (do let id ← convertLocal source kind part name; pure (Draft.push "specifiers" id true draft)) before
        (Collects before draft (height + 2)) := fun known name =>
    (convertLocal_grows source known part name before).bind fun id _ grown =>
      .pure (.one "specifiers" true (grown.raise (Nat.le_add_left 2 height)))
  refine .ite (fun _ => local_collects (by decide) part) fun _ => ?_
  refine .ite (fun _ => ?_) fun _ => ?_
  · split
    · exact local_collects (by decide) _
    · exact .pure (.refl before draft _)
  · refine .ite (fun _ => addSpecifiers_collects descends (by decide) _ _ draft foreign before)
      fun _ => ?_
    exact leaveOut_collects draft part before

theorem convertImport_grows {phrase : ParseTree} (foreign : phrase.Foreign) (before : Conversion) :
    Ensures (convertImport source descend phrase) before fun id after =>
      Grows before after [] {id} (height + 3) := by
  refine (pushKind_fills (show "ImportDeclaration" ∈ _ by decide) phrase before).bind ?_
  rintro _ opened ⟨rfl, filling⟩
  refine (Collects.foldlM (height + 2) (Draft.declareList "specifiers" []) opened
    fun child member draft state => ?_).bind
    fun draft collected collects => ?_
  · have foreignChild := foreign.namedChild member
    refine .ite (fun _ => keepComment_collects draft child state) fun _ => ?_
    refine .ite (fun _ => ?_) fun _ => ?_
    · exact Collects.foldlM (height + 2) draft state fun part partMember draft state =>
        addClausePart_collects descends draft (foreignChild.namedChild partMember) state
    · refine .ite (fun _ => ?_) fun _ => leaveOut_collects draft child state
      exact (addChild_collects descends draft "source" foreignChild false state).mono
        fun _ _ collects =>
        collects.raise (Nat.le_succ _)
  · exact (collects.fill rfl filling).applyDraft.bind fun _ _ filling => .pure filling.close

theorem convertExport_grows {phrase : ParseTree} (foreign : phrase.Foreign) (before : Conversion) :
    Ensures (convertExport source descend phrase) before fun id after =>
      Grows before after [] {id} (height + 3) := by
  refine (pushKind_fills (exportKind_standard phrase) phrase before).bind ?_
  rintro _ opened ⟨rfl, filling⟩
  refine (Collects.foldlM (height + 2) [] opened fun child member draft state => ?_).bind
    fun draft collected collects => ?_
  · have foreignChild := foreign.namedChild member
    have add : ∀ name, Ensures (addChild descend draft name child false) state
      (Collects state draft (height + 2)) := fun name =>
      (addChild_collects descends draft name foreignChild false state).mono fun _ _ collects =>
        collects.raise (Nat.le_succ _)
    refine .ite (fun _ => keepComment_collects draft child state) fun _ => ?_
    refine .ite (fun _ => ?_) fun _ => ?_
    · refine (addSpecifiers_collects descends (by decide) _ _ (draft.declareList "specifiers")
        foreignChild state).mono ?_
      exact fun _ _ ⟨added, same, grows⟩ => ⟨added, by rw [same, Draft.ids_declareList], grows⟩
    · refine .ite (fun _ => ?_) fun _ => ?_
      · exact Collects.foldlM (height + 2) draft state fun name nameMember draft state =>
          (addChild_collects descends draft "exported" (foreignChild.namedChild nameMember)
            false state).mono
            fun _ _ collects => collects.raise (Nat.le_succ _)
      · refine .ite (fun _ => add "source") fun _ => .ite (fun _ => add "declaration") fun _ => ?_
        exact leaveOut_collects draft child state
  · exact (collects.fill rfl filling).applyDraft.bind fun _ _ filling => .pure filling.close

theorem convertModuleCall_grows {phrase : ParseTree} (foreign : phrase.Foreign)
    (before : Conversion) :
    Ensures (convertModuleCall source descend phrase) before fun id after =>
      Grows before after [] {id} (height + 2) := by
  refine (pushKind_fills (show "ImportExpression" ∈ _ by decide) phrase before).bind ?_
  rintro _ opened ⟨rfl, filling⟩
  have arguments : ∀ child ∈ ((phrase.childIn? "arguments").map ParseTree.namedChildren).getD [],
      child.Foreign := by
    intro child member
    cases found : phrase.childIn? "arguments" with
    | none => simp [found] at member
    | some list =>
        rw [found] at member
        exact (foreign.child (ParseTree.mem_children_of_childIn? found)).namedChild member
  refine (Ensures.foldlM (fun (acc : Draft × Nat) state =>
    Collects opened [] (height + 1) acc.1 state)
    (Collects.refl opened [] (height + 1)) fun child member acc state collects => ?_).bind
      fun acc collected collects => ?_
  · obtain ⟨draft, position⟩ := acc
    refine .ite (fun _ => ?_) fun _ => ?_
    · exact (liftComment_grows source child state).bind fun _ _ grown =>
        .pure (collects.trans (.nothing (grown.raise (Nat.le_add_left 1 height))))
    · have add : ∀ name, Ensures (addChild descend draft name child false) state
        (Collects state draft (height + 1)) := fun name =>
        addChild_collects descends draft name (arguments child member) false state
      refine .ite (fun _ => (add "source").bind fun _ _ later =>
        .pure (collects.trans later)) fun _ => ?_
      refine .ite (fun _ => (add "options").bind fun _ _ later =>
        .pure (collects.trans later)) fun _ => ?_
      exact (leaveOut_collects draft child state).bind fun _ _ later => .pure (collects.trans later)
  · exact (collects.fill rfl filling).applyDraft.bind fun _ _ filling => .pure filling.close

theorem convertCall_grows {phrase : ParseTree} (foreign : phrase.Foreign) (before : Conversion) :
    Ensures (convertCall source descend phrase) before fun id after =>
      Grows before after [] {id} (height + 2) := by
  refine .ite (fun _ => convertModuleCall_grows descends foreign before) fun _ => ?_
  refine (pushKind_fills (by split <;> decide) phrase before).bind ?_
  rintro _ opened ⟨rfl, filling⟩
  refine (Collects.foldlM (height + 1) [] opened fun child member draft state => ?_).bind
    fun draft collected collects => ?_
  · have add : ∀ name many, Ensures (addChild descend draft name child many) state
        (Collects state draft (height + 1)) :=
      fun name many => addChild_collects descends draft name (foreign.namedChild member) many state
    refine .ite (fun _ => add _ _) fun _ => .ite (fun _ => ?_) fun _ =>
      leaveOut_collects draft child state
    exact .ite (fun _ => add _ _) fun _ => add _ _
  · exact (collects.fill rfl filling).applyDraft.bind fun _ _ filling => .pure filling.close

/-- A method and its function are open at the same time, the function behind the method. -/
theorem convertMethod_grows {phrase : ParseTree} (foreign : phrase.Foreign) (before : Conversion) :
    Ensures (convertMethod source descend phrase) before fun id after =>
      Grows before after [] {id} (height + 3) := by
  let method : Node := { kind := "MethodDefinition", span := phrase.span }
  let function : Node := { kind := "FunctionExpression", span := phrase.span }
  have opened : Grows before ((before.push method).push function) [method, function] 0 0 :=
    .of_opened (by simp [Conversion.push, Tree.Builder.push]) rfl rfl
  refine Ensures.bind (show Ensures (pushKind "MethodDefinition" phrase) before fun id after =>
    id = before.builder.size ∧ after = before.push method from ⟨rfl, rfl⟩) ?_
  rintro _ _ ⟨rfl, rfl⟩
  refine Ensures.bind (show Ensures (pushKind "FunctionExpression" phrase) (before.push method)
    fun id after =>
    id = before.builder.size + 1 ∧ after = (before.push method).push function from
      ⟨Array.size_push .., rfl⟩) ?_
  rintro _ _ ⟨rfl, rfl⟩
  refine (Ensures.foldlM (fun (drafts : Draft × Draft) state =>
    Grows before state [method, function] (drafts.1.ids + drafts.2.ids) (height + 1))
      (opened.raise (Nat.zero_le _))
    fun child member drafts state grown => ?_).bind fun drafts collected grown => ?_
  · obtain ⟨draft, inner⟩ := drafts
    have foreignChild := foreign.namedChild member
    refine .ite (fun _ => ?_) fun _ => .ite (fun _ => ?_) fun _ => .ite (fun _ => ?_) fun _ => ?_
    · exact (addChild_collects descends draft "key" foreignChild false state).bind
        fun _ _ collects =>
        .pure (collects.extend grown)
    · exact (addChild_collects descends inner "params" foreignChild true state).bind
        fun _ _ collects =>
        .pure (by simpa [add_comm] using collects.extend (by simpa [add_comm] using grown))
    · exact (addChild_collects descends inner "body" foreignChild false state).bind
        fun _ _ collects =>
        .pure (by simpa [add_comm] using collects.extend (by simpa [add_comm] using grown))
    · exact (liftNestedComments_grows source child state).bind fun _ _ lifted =>
        .pure (by simpa using grown.trans (lifted.raise (Nat.le_add_left 1 height)))
  · obtain ⟨draft, inner⟩ := drafts
    have outer := @Grows.apply _ _ [] [function]
      _ _ _ (draft.push "value" (before.builder.size + 1) false) grown _ rfl
    have both := @Grows.apply _ _ [_] [] _ _ _ inner outer _ rfl
    have standardInner :=
      inner.standard_applied
        (@standard_of_bare function (show "FunctionExpression" ∈ _ by decide) rfl)
    have standardOuter := (draft.push "value" (before.builder.size + 1) false).standard_applied
      (@standard_of_bare method (show "MethodDefinition" ∈ _ by decide) rfl)
    have takesInner : ((inner.applied function).references : Multiset NodeId) + draft.ids ≤
        draft.ids + inner.ids := by
      rw [add_comm]
      exact add_le_add_right
        (by simpa [function, Node.references] using inner.references_applied_le function) _
    have takesOuter :=
      (draft.push "value" (before.builder.size + 1) false).references_applied_le method
    have closed := @Grows.close _ _ [_] _ _ draft.ids _ both (.inl standardInner) takesInner
    exact @Grows.close _ _ [] _ _ 0 _ closed (.inl standardOuter)
      (by simpa [method, Node.references] using takesOuter)

theorem convertAttribute_grows {phrase : ParseTree} (foreign : phrase.Foreign)
    (before : Conversion) :
    Ensures (convertAttribute source descend phrase) before fun id after =>
      Grows before after [] {id} (height + 2) := by
  refine (pushKind_fills (show "JSXAttribute" ∈ _ by decide) phrase before).bind ?_
  rintro _ opened ⟨rfl, filling⟩
  refine (Ensures.foldlM (fun (_ : Nat) state => Filling before state 0 (height + 1))
    (filling.weaken le_rfl (Nat.zero_le _))
    fun child member position state filling => ?_).bind fun _ _ filling => .pure filling.close
  refine .ite (fun _ => ?_) fun _ => ?_
  · refine (liftComment_grows source child state).bind fun _ _ grown => .pure ?_
    simpa using filling.extend (grown.raise (Nat.le_add_left 1 height)) le_rfl
  · refine (descends child (foreign.namedChild member) state).bind fun result after grown => ?_
    have filled := filling.extend grown le_rfl
    split
    · next name =>
        refine (filled.mark (by simp)).bind fun _ _ filled => ?_
        exact (filled.setSlot 0 (.inr (.inl ⟨name, rfl⟩)) (by simp [Slot.ids])).bind
          fun _ _ filled => .pure filled
    · next value =>
        exact (filled.setSlot 0 (.inr (.inl ⟨value, rfl⟩)) (by simp [Slot.ids])).bind
          fun _ _ filled => .pure filled
    · exact .pure (filled.weaken (Multiset.zero_le _) le_rfl)

/-! ## Phrases -/

theorem Construct.grows {phrase : ParseTree} {handling : ParseTree.Handling}
    {step : (ParseTree → Convert (Option NodeId)) → Convert (Option NodeId)}
    (construct : Construct source phrase step handling) (foreign : phrase.Foreign)
    (before : Conversion) :
    Ensures (step descend) before fun result after =>
      Grows before after [] (result.toList : Multiset NodeId) (height + 3) := by
  -- the node of a construct, if it is at most that high
  have made : ∀ {step : Convert NodeId} {own : Nat}, own ≤ height + 3 →
      Ensures step before (fun id after => Grows before after [] {id} own) →
      Ensures (some <$> step) before fun result after =>
        Grows before after [] (result.toList : Multiset NodeId) (height + 3) :=
    fun bound step => step.map fun _ _ grown => grown.raise bound
  cases construct with
  | comment =>
      exact (liftComment_grows source phrase before).bind fun _ _ grown =>
        .pure (grown.raise (by omega))
  | firstLine => exact .pure ((Grows.refl before).raise (Nat.zero_le _))
  | leaf _ standard _ bare =>
      exact made (by omega) (pushNode_grows (standard_of_bare standard bare) bare before)
  | shorthand => exact made (by omega) (convertShorthand_grows source phrase before)
  | template => exact made (by omega) (convertTemplate_grows descends foreign before)
  | imports => exact made le_rfl (convertImport_grows descends foreign before)
  | exports => exact made le_rfl (convertExport_grows descends foreign before)
  | moduleCall => exact made (by omega) (convertCall_grows descends foreign before)
  | call => exact made (by omega) (convertCall_grows descends foreign before)
  | method => exact made le_rfl (convertMethod_grows descends foreign before)
  | elementAttribute => exact made (by omega) (convertAttribute_grows descends foreign before)
  | transparent =>
      exact (convertTransparent_grows descends foreign before).mono fun _ _ grown =>
        grown.raise (by omega)
  | mapped _ found =>
      exact made (by omega)
        (convertMapped_grows descends foreign (mappingFor?_standard found) before)
  | unmapped => exact made (by omega) (convertUnmapped_grows descends foreign before)

/-- A phrase adds at most two nodes above what its parts add. -/
theorem convertPhrase_grows {phrase : ParseTree} (foreign : phrase.Foreign) (before : Conversion) :
    Ensures (convertPhrase source descend phrase) before fun result after =>
      Grows before after [] (result.toList : Multiset NodeId) (height + 3) :=
  (convertPhrase_construct source phrase).grows descends foreign before

end Descent

theorem convert_descends (source : List Char) (levels : Nat) :
    Descends (convert source levels) (2 * levels + 1) := by
  induction levels with
  | zero => exact fun phrase foreign before => truncate_grows source foreign before
  | succ levels ih =>
      exact fun phrase foreign before => .counted <| (convertPhrase_grows ih foreign _).mono
        fun _ _ grown =>
        ⟨grown.covers, grown.tidy, grown.nodeRun⟩

end Parse
end Spellspan
