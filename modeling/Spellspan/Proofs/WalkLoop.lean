import Spellspan.Tree.Walk

/-!
The loop of the walk, one entry of the stack at a time. A pass asks the tree whether a child exists
before it looks at the mark of the child, and the marks can only be read and written within their
bounds: any other access is a fault. Every run that starts at an existing root ends without a fault,
in a bounded number of passes, with the result that the walk has.
-/
set_option autoImplicit false

namespace Spellspan

theorem SyntaxTree.get?_eq_none_iff {tree : SyntaxTree} {id : Tree.NodeId} : tree.get? id = none ↔
    tree.size ≤ id :=
  Array.getElem?_eq_none_iff

theorem SyntaxTree.get?_isSome_iff {tree : SyntaxTree} {id : Tree.NodeId} : (tree.get? id).isSome ↔
    id < tree.size := by
  rw [Option.isSome_iff_ne_none, ne_eq, get?_eq_none_iff, Nat.not_le]

namespace Tree

namespace WalkState

section
variable (state : WalkState) (id : NodeId) (key : Option SlotKey) (errors : List TraversalError)
    (kind : String)
  (source : SlotSource)

@[simp] theorem marks_report : (state.report errors).marks = state.marks := rfl

@[simp] theorem frames_report : (state.report errors).frames = state.frames := rfl

@[simp] theorem frames_enter : (state.enter id key).frames = ⟨id, key⟩ :: state.frames := rfl

@[simp] theorem marks_enter :
    (state.enter id key).marks = state.marks.setIfInBounds id .inProgress := rfl

@[simp] theorem frames_leave : (state.leave id).frames = state.frames.tail := rfl

@[simp] theorem marks_leave : (state.leave id).marks = state.marks.setIfInBounds id .done := rfl

@[simp] theorem marks_noteKind : (state.noteKind id kind source).marks = state.marks := by
  unfold noteKind
  split <;> rfl

@[simp] theorem frames_noteKind : (state.noteKind id kind source).frames = state.frames := by
  unfold noteKind
  split <;> rfl

@[simp] theorem visits_noteKind : (state.noteKind id kind source).visits = state.visits := by
  unfold noteKind
  split <;> rfl

@[simp] theorem visited_noteKind : (state.noteKind id kind source).visited = state.visited := by
  unfold noteKind
  split <;> rfl

@[simp] theorem parents_noteKind : (state.noteKind id kind source).parents = state.parents := by
  unfold noteKind
  split <;> rfl

theorem errors_noteKind :
    (state.noteKind id kind source).errors.toList =
      state.errors.toList ++ if source = .fallback ∧
        kind ∉ state.degraded then [.unknownKind id kind] else [] := by
  unfold noteKind
  split
  · simp [report]
  · simp

theorem mem_degraded_noteKind {other : String} :
    other ∈ (state.noteKind id kind source).degraded ↔
      other ∈ state.degraded ∨ source = .fallback ∧ other = kind := by
  unfold noteKind
  split
  · next unknown => simp [unknown.1, or_comm]
  · next known =>
      constructor
      · exact .inl
      · rintro (met | ⟨unlisted, rfl⟩)
        · exact met
        · exact Classical.not_not.mp fun unmet => known ⟨unlisted, unmet⟩

end
end WalkState

/-- Where the loop stands after a pass. -/
inductive Pass where
  | next (stack : List Step) (state : WalkState)
  | finished (state : WalkState) (cycle : Option CycleError)
  | fault (id : NodeId)

namespace Walker

/-- Enters a node whether or not it was visited. Its mark is written. -/
def passInto (walker : Walker) (id : NodeId) (key : Option SlotKey) (rest : List Step)
    (state : WalkState) : Pass :=
  if id < state.marks.size then
    .next ((walker.expand state id key).2 ++ .leave id :: rest) (walker.expand state id key).1
  else .fault id

/-- Takes one entry off the stack. A node without a frame above it or without a key is the root,
which is always entered. -/
def pass (walker : Walker) : List Step → WalkState → Pass
  | [], state => .finished state none
  | .leave id :: rest, state => if id < state.marks.size then .next rest (state.leave id)
      else .fault id
  | .enter id key :: rest, state =>
    match state.frames, key with
    | parent :: _, some slot =>
      match walker.tree.get? id with
      | none => .next rest (state.report [.danglingChild id parent.node slot.render])
      | some _ =>
        match state.marks[id]? with
        | none => .fault id
        | some .inProgress => .finished state (some ⟨id, parent.node, slot.render⟩)
        | some .done => .next rest (state.report [.sharedNode id parent.node slot.render])
        | some .unvisited => walker.passInto id key rest state
    | _, _ => walker.passInto id key rest state

def passes (walker : Walker) : Nat → List Step → WalkState → Pass
  | 0, stack, state => .next stack state
  | count + 1, stack, state =>
    match walker.pass stack state with
    | .next stack state => walker.passes count stack state
    | .finished state cycle => .finished state cycle
    | .fault id => .fault id

/-- The walk when its loop is given at most `count` passes; none when these do not suffice. -/
def walkWithin (walker : Walker) (count : Nat) : Option Walk :=
  match walker.tree.get? walker.tree.root with
  | none =>
    some { visits := [], visited := 0, errors := [.missingRoot walker.tree.root]
           parents := Array.replicate walker.tree.size none, cycle := none }
  | some _ =>
    match walker.passes count [.enter walker.tree.root none] (WalkState.start walker.tree.size) with
    | .finished state cycle =>
      some { visits := state.visits.toList, visited := state.visited, errors := state.errors.toList
             parents := state.parents, cycle }
    | _ => none

/-! ## One pass at a time of the run -/

section
variable (walker : Walker) {id : NodeId} {slot : SlotKey} {key : Option SlotKey} {rest : List Step}
    {state : WalkState}
  {parent : Frame} {above : List Frame}

@[simp] theorem run_nil : walker.run [] state = (state, none) := by
  rw [run]

@[simp] theorem run_leave :
    walker.run (.leave id :: rest) state = walker.run rest (state.leave id) := by
  rw [run]

theorem run_unvisited (fresh : state.marks[id]? = some .unvisited) :
    walker.run (.enter id key :: rest) state =
      walker.run ((walker.expand state id key).2 ++ .leave id :: rest)
        (walker.expand state id key).1 := by
  rw [run]
  split
  · rfl
  · next other => exact absurd fresh other

theorem run_dangling (framed : state.frames = parent :: above) (missing : state.marks[id]? = none) :
    walker.run (.enter id (some slot) :: rest) state =
      walker.run rest (state.report [.danglingChild id parent.node slot.render]) := by
  rw [run]
  split
  · next fresh => simp [missing] at fresh
  · rw [framed]
    dsimp only
    split
    · rfl
    · next done _ => simp [missing] at done
    · next marked _ => simp [missing] at marked

theorem run_done (framed : state.frames = parent :: above) (done : state.marks[id]? = some .done) :
    walker.run (.enter id (some slot) :: rest) state =
      walker.run rest (state.report [.sharedNode id parent.node slot.render]) := by
  rw [run]
  split
  · next fresh => simp [done] at fresh
  · rw [framed]
    dsimp only
    split
    · next missing _ => simp [done] at missing
    · rfl
    · next marked different _ _ =>
        have same := Option.some.inj (marked.symm.trans done)
        exact (different done (proof_irrel_heq _ _) same).elim

theorem run_inProgress (framed : state.frames = parent :: above)
    (pending : state.marks[id]? = some .inProgress) :
    walker.run (.enter id (some slot) :: rest) state =
      (state, some ⟨id, parent.node, slot.render⟩) := by
  rw [run]
  split
  · next fresh => simp [pending] at fresh
  · rw [framed]
    dsimp only
    split
    · next missing _ => simp [pending] at missing
    · next done _ => simp [pending] at done
    · rfl

end

/-! ## What the parts of a pass leave of the state -/

@[simp] theorem length_frames_expand (walker : Walker) (state : WalkState) (id : NodeId)
    (key : Option SlotKey) :
    (walker.expand state id key).1.frames.length = state.frames.length + 1 := by
  unfold expand
  dsimp only
  split
  · simp
  · split <;> simp

@[simp] theorem size_marks_expand (walker : Walker) (state : WalkState) (id : NodeId)
    (key : Option SlotKey) :
    (walker.expand state id key).1.marks.size = state.marks.size := by
  unfold expand
  dsimp only
  split
  · simp
  · split <;> simp

theorem keyed_expand (walker : Walker) (state : WalkState) (id : NodeId) (key : Option SlotKey) :
    ∀ step ∈ (walker.expand state id key).2, ∃ child slot, step = .enter child (some slot) := by
  intro step queued
  unfold expand at queued
  dsimp only at queued
  split at queued
  · simp at queued
  · split at queued
    · simp at queued
    · obtain ⟨reference, _, made⟩ := List.mem_filterMap.mp queued
      cases reference with
      | child child slot => exact ⟨child, slot, by simpa [Reference.step?] using made.symm⟩
      | malformed slot found => simp [Reference.step?] at made

/-- The stack is bracketed: every pending entry stands above the end of the visit of its parent, and
there are as many visits to end as there are frames. -/
inductive Bracketed (size : Nat) : Nat → List Step → Prop where
  | nil : Bracketed size 0 []
  | leave {depth : Nat} {id : NodeId} {rest : List Step} (inBounds : id < size)
      (below : Bracketed size depth rest) :
      Bracketed size (depth + 1) (.leave id :: rest)
  | enter {depth : Nat} {id : NodeId} {slot : SlotKey} {rest : List Step}
      (below : Bracketed size (depth + 1) rest) :
      Bracketed size (depth + 1) (.enter id (some slot) :: rest)

theorem Bracketed.append {size depth : Nat} {queued rest : List Step}
    (keyed : ∀ step ∈ queued, ∃ child slot, step = .enter child (some slot))
    (below : Bracketed size (depth + 1) rest) :
    Bracketed size (depth + 1) (queued ++ rest) := by
  induction queued with
  | nil => exact below
  | cons step queued ih =>
      obtain ⟨child, slot, rfl⟩ := keyed step List.mem_cons_self
      exact .enter (ih fun later member => keyed later (List.mem_cons_of_mem _ member))

theorem Bracketed.enter_tail {size depth : Nat} {id : NodeId} {key : Option SlotKey}
    {rest : List Step} (bracketed : Bracketed size depth (.enter id key :: rest)) :
    (∃ slot, key = some slot) ∧ 0 < depth ∧ Bracketed size depth rest := by
  cases bracketed with
  | @enter depth _ slot _ below => exact ⟨⟨slot, rfl⟩, Nat.succ_pos depth, below⟩

theorem Bracketed.leave_tail {size depth : Nat} {id : NodeId} {rest : List Step}
    (bracketed : Bracketed size depth (.leave id :: rest)) :
    id < size ∧ Bracketed size (depth - 1) rest := by
  cases bracketed with
  | leave inBounds below => exact ⟨inBounds, below⟩

/-- The loop ends from a stack and a state with a result, and on the way there it never faults. -/
structure Ends (walker : Walker) (stack : List Step) (state : WalkState)
    (result : WalkState × Option CycleError) :
    Prop where
  finishes : ∃ enough, ∀ more, walker.passes (more + enough) stack state =
    .finished result.1 result.2
  safe : ∀ count id, walker.passes count stack state ≠ .fault id

theorem Ends.of_finished {walker : Walker} {stack : List Step} {state after : WalkState}
    {cycle : Option CycleError} (passed : walker.pass stack state = .finished after cycle) :
    walker.Ends stack state (after, cycle) where
  finishes := ⟨1, fun more => by simp [passes, passed]⟩
  safe count id := by
    cases count with
    | zero => simp [passes]
    | succ count => simp [passes, passed]

theorem Ends.of_next {walker : Walker} {stack later : List Step} {state after : WalkState}
    {result : WalkState × Option CycleError} (passed : walker.pass stack state = .next later after)
    (ends : walker.Ends later after result) : walker.Ends stack state result where
  finishes := by
    obtain ⟨enough, finished⟩ := ends.finishes
    refine ⟨enough + 1, fun more => ?_⟩
    rw [← Nat.add_assoc, passes, passed]
    exact finished more
  safe count id := by
    cases count with
    | zero => simp [passes]
    | succ count => simpa [passes, passed] using ends.safe count id

theorem get?_of_mark (walker : Walker) {state : WalkState} {id : NodeId} {mark : Mark}
    (sized : state.marks.size = walker.tree.size) (marked : state.marks[id]? = some mark) :
    ∃ node, walker.tree.get? id = some node := by
  obtain ⟨inBounds, _⟩ := Array.getElem?_eq_some_iff.mp marked
  exact Option.isSome_iff_exists.mp (SyntaxTree.get?_isSome_iff.mpr (sized ▸ inBounds))

theorem pass_unvisited (walker : Walker) {id : NodeId} {key : Option SlotKey} {rest : List Step}
    {state : WalkState} (sized : state.marks.size = walker.tree.size)
    (fresh : state.marks[id]? = some .unvisited) :
    walker.pass (.enter id key :: rest) state =
      .next ((walker.expand state id key).2 ++ .leave id :: rest)
        (walker.expand state id key).1 := by
  obtain ⟨node, found⟩ := walker.get?_of_mark sized fresh
  have into : walker.passInto id key rest state =
      .next ((walker.expand state id key).2 ++ .leave id :: rest) (walker.expand state id key).1 :=
    if_pos (Array.getElem?_eq_some_iff.mp fresh).1
  unfold pass
  dsimp only
  split
  · simp [found, fresh, into]
  · exact into

/-- From a bracketed stack the loop ends with the result of the run. The induction is on the run,
whose own measure shows that it ends. -/
theorem ends_run (walker : Walker) (stack : List Step) (state : WalkState)
    (sized : state.marks.size = walker.tree.size)
    (bracketed : Bracketed walker.tree.size state.frames.length stack) :
    walker.Ends stack state (walker.run stack state) := by
  fun_induction run walker stack state with
  | case1 state => exact .of_finished rfl
  | case2 state id rest ih =>
      obtain ⟨inBounds, below⟩ := bracketed.leave_tail
      have passed : walker.pass (.leave id :: rest) state = .next rest (state.leave id) :=
        if_pos (sized ▸ inBounds)
      exact .of_next passed (ih (by simpa using sized) (by simpa using below))
  | case3 state id key rest fresh expanded ih =>
      refine .of_next (walker.pass_unvisited sized fresh) (ih (by simpa [expanded] using sized) ?_)
      have inBounds : id < walker.tree.size := sized ▸ (Array.getElem?_eq_some_iff.mp fresh).1
      simp only [expanded, length_frames_expand]
      exact .append (walker.keyed_expand state id key) (.leave inBounds bracketed.enter_tail.2.2)
  | case4 state id rest parent above slot framed missing _ _ ih =>
      have absent : walker.tree.get? id = none := by
        rw [SyntaxTree.get?_eq_none_iff, ← sized]
        exact Array.getElem?_eq_none_iff.mp missing
      have passed : walker.pass (.enter id (some slot) :: rest) state =
          .next rest (state.report [.danglingChild id parent.node slot.render]) := by
        simp [pass, framed, absent]
      exact .of_next passed (ih sized bracketed.enter_tail.2.2)
  | case5 state id rest parent above slot framed done _ _ ih =>
      obtain ⟨node, found⟩ := walker.get?_of_mark sized done
      have passed : walker.pass (.enter id (some slot) :: rest) state =
          .next rest (state.report [.sharedNode id parent.node slot.render]) := by
        simp [pass, framed, found, done]
      exact .of_next passed (ih sized bracketed.enter_tail.2.2)
  | case6 state id rest parent above slot framed mark marked notDone notFresh _ =>
      obtain ⟨node, found⟩ := walker.get?_of_mark sized marked
      refine .of_finished ?_
      cases mark with
      | unvisited => exact absurd marked notFresh
      | inProgress => simp [pass, framed, found, marked]
      | done => exact (notDone marked (proof_irrel_heq _ _) rfl).elim
  | case7 state id key rest unframed _ _ =>
      obtain ⟨⟨slot, keyed⟩, deep, _⟩ := bracketed.enter_tail
      obtain ⟨parent, above, framed⟩ := List.exists_cons_of_length_pos deep
      exact (unframed parent above slot framed keyed).elim

/-- From an existing root the loop ends with the result of the run. -/
theorem ends_run_root (walker : Walker) (rooted : (walker.tree.get? walker.tree.root).isSome) :
    walker.Ends [.enter walker.tree.root none] (WalkState.start walker.tree.size)
      (walker.run [.enter walker.tree.root none] (WalkState.start walker.tree.size)) := by
  have inBounds := SyntaxTree.get?_isSome_iff.mp rooted
  have fresh : (WalkState.start walker.tree.size).marks[walker.tree.root]? = some .unvisited := by
    simp [WalkState.start, inBounds]
  have sized : (WalkState.start walker.tree.size).marks.size = walker.tree.size :=
    Array.size_replicate
  rw [walker.run_unvisited fresh]
  refine .of_next (walker.pass_unvisited sized fresh)
    (walker.ends_run _ _ (by simpa using sized) ?_)
  simp only [length_frames_expand]
  exact .append (walker.keyed_expand _ _ _) (.leave inBounds .nil)

/-- Enough passes give the walk. -/
theorem walkWithin_eq_walk (walker : Walker) :
    ∃ enough, ∀ count, enough ≤ count → walker.walkWithin count = some walker.walk := by
  cases found : walker.tree.get? walker.tree.root with
  | none =>
      refine ⟨0, fun count _ => ?_⟩
      simp only [walkWithin, walk, found]
      rfl
  | some node =>
      obtain ⟨enough, finished⟩ :=
        (walker.ends_run_root (Option.isSome_iff_exists.mpr ⟨node, found⟩)).finishes
      refine ⟨enough, fun count reached => ?_⟩
      have last := finished (count - enough)
      rw [Nat.sub_add_cancel reached] at last
      simp only [walkWithin, walk, found, last]

end Walker
end Tree
end Spellspan
