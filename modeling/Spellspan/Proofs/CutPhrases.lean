import Mathlib
import Spellspan.Proofs.ConvertedParts

/-!
What the conversion of a parse cuts off, and that it counts its levels. The phrases at the limit are
known from the parse: those that are reached by way of parts in so many steps. Each of them leads to
one problem. A conversion that looks at the count of phrases alone does the same, whatever it would
do beyond the limit.
-/
set_option autoImplicit false

namespace Spellspan.ParseTree

open Parse (isCommentKind maxDepth)

/-! ## Rows below a phrase -/

/-- A row lies a number of levels below a phrase. -/
inductive LiesBelow : ParseTree → Nat → ParseTree → Prop where
  | self (phrase : ParseTree) : LiesBelow phrase 0 phrase
  | child {phrase part row : ParseTree} {levels : Nat} (member : part ∈ phrase.children)
      (below : LiesBelow part levels row) :
      LiesBelow phrase (levels + 1) row

theorem LiesBelow.trans {phrase part row : ParseTree} {levels more : Nat}
    (first : phrase.LiesBelow levels part) (second : part.LiesBelow more row)
    : phrase.LiesBelow (levels + more) row := by
  induction first with
  | self => rwa [Nat.zero_add]
  | child member _ ih =>
      rw [Nat.add_right_comm]
      exact .child member (ih second)

theorem exists_liesBelow_of_mem_rows {phrase row : ParseTree} (member : row ∈ phrase.rows) :
    ∃ levels, phrase.LiesBelow levels row := by
  induction phrase using induction_children with
  | step phrase ih =>
      rw [rows_eq] at member
      rcases List.mem_cons.mp member with rfl | later
      · exact ⟨0, .self _⟩
      · obtain ⟨part, listed, below⟩ := List.mem_flatMap.mp later
        obtain ⟨levels, lies⟩ := ih part listed below
        exact ⟨levels + 1, .child listed lies⟩

/-- The phrases that are reached by way of parts in a number of steps, comments apart. -/
def cutRows : Nat → ParseTree → List ParseTree
  | 0, phrase => if isCommentKind phrase.kind then [] else [phrase]
  | levels + 1, phrase => phrase.parts.flatMap (cutRows levels)

def cutPhrases (parse : ParseTree) : List ParseTree :=
  parse.programParts.flatMap (cutRows maxDepth)

theorem liesBelow_of_mem_cutRows {levels : Nat} {phrase row : ParseTree}
    (member : row ∈ cutRows levels phrase) :
    ∃ below, levels ≤ below ∧ phrase.LiesBelow below row := by
  induction levels generalizing phrase with
  | zero =>
      rw [cutRows] at member
      split at member
      · cases member
      · rw [List.mem_singleton.mp member]
        exact ⟨0, Nat.le_refl 0, .self phrase⟩
  | succ levels ih =>
      obtain ⟨part, listed, cut⟩ := List.mem_flatMap.mp member
      obtain ⟨child, inside, row⟩ := exists_child_of_mem_parts listed
      obtain ⟨between, reaches⟩ := exists_liesBelow_of_mem_rows row
      obtain ⟨below, enough, lies⟩ := ih cut
      exact ⟨between + below + 1, by omega, .child inside (reaches.trans lies)⟩

theorem liesBelow_of_mem_cutPhrases {parse row : ParseTree} (member : row ∈ parse.cutPhrases) :
    ∃ below, maxDepth < below ∧ parse.LiesBelow below row := by
  obtain ⟨part, listed, cut⟩ := List.mem_flatMap.mp member
  obtain ⟨child, inside, row⟩ := exists_child_of_mem_programParts listed
  obtain ⟨between, reaches⟩ := exists_liesBelow_of_mem_rows row
  obtain ⟨below, enough, lies⟩ := liesBelow_of_mem_cutRows cut
  exact ⟨between + below + 1, by omega, .child inside (reaches.trans lies)⟩

end Spellspan.ParseTree

namespace Spellspan.Parse

open Spellspan.Tree (NodeId Node Slot Span TraversalError)
open ParseTree (cutRows)

/-! ## The problems of a conversion -/

/-- From one state to a later one: some phrases were cut off at a limit, each with a node of its own
over it. -/
structure Cuts (limit : Nat) (before after : Conversion) (rows : List ParseTree) : Prop where
  depth : after.depth = before.depth
  noted : ∃ ids : List NodeId, after.problems.toList = before.problems.toList ++ ids.map
    (fun id => .tooDeep id limit) ∧
    Laid before.spans after.spans ids rows

namespace Cuts

variable {limit : Nat} {before middle after : Conversion} {rows more : List ParseTree}

theorem trans (first : Cuts limit before middle rows) (second : Cuts limit middle after more) :
    Cuts limit before after (rows ++ more) := by
  obtain ⟨ids, noted, laid⟩ := first.noted
  obtain ⟨later, notedLater, laidLater⟩ := second.noted
  refine ⟨second.depth.trans first.depth, ids ++ later, ?_, laid.trans laidLater⟩
  rw [notedLater, noted, List.map_append, List.append_assoc]

theorem of_calm {α : Type} {step : Convert α} (calm : Calm step) (before : Conversion) :
    Cuts limit before (step.run before).2 [] :=
  ⟨calm.depth before,
    [], by rw [calm.problems, List.map_nil, List.append_nil], .nothing (calm.kept before)⟩

end Cuts

theorem Converts.cuts {α : Type} {step : (ParseTree → Convert (Option NodeId)) → Convert α}
    {phrases : List ParseTree} (converts : Converts step phrases)
    {descend : ParseTree → Convert (Option NodeId)} {limit depth : Nat}
    {each : ParseTree → List ParseTree}
    (below : ∀ phrase before, before.depth = depth →
      Cuts limit before ((descend phrase).run before).2 (each phrase)) :
    ∀ before, before.depth = depth →
      Cuts limit before ((step descend).run before).2 (phrases.flatMap each) := by
  induction converts with
  | own calm => exact fun before _ => .of_calm calm before
  | part phrase =>
      intro before counted
      rw [List.flatMap_singleton]
      exact below phrase before counted
  | bind _ _ first later =>
      intro before counted
      have earlier := first before counted
      rw [List.flatMap_append]
      exact earlier.trans (later _ _ (earlier.depth.trans counted))

/-- A phrase at the limit is cut off, unless it is a comment. -/
theorem truncate_cuts (source : List Char) (phrase : ParseTree) (before : Conversion) :
    Cuts before.depth before ((truncate source phrase).run before).2 (cutRows 0 phrase) := by
  rw [cutRows, truncate]
  split
  · exact .of_calm ((liftComment_calm source phrase).bind fun _ => .pure none) before
  · let opened := ((pushKind phrase.kind phrase).run before).2
    have rest : Calm (do noteKind phrase.kind []; phrase.namedChildren.forM (liftNestedComments source)) :=
      (noteKind_calm _ _).bind fun _ => .forM (liftNestedComments_calm source)
    let kept := ((do noteKind phrase.kind []; phrase.namedChildren.forM (liftNestedComments source) : Convert Unit).run opened).2
    have depth : kept.depth = before.depth := rest.depth opened
    have problems : kept.problems = before.problems := rest.problems opened
    have first : Laid before.spans opened.spans [before.builder.size] [phrase] := .push rfl rfl
    refine ⟨depth, [before.builder.size], ?_, first.trans (.nothing (rest.kept opened))⟩
    show (kept.problems.push (.tooDeep before.builder.size kept.depth)).toList = _
    rw [Array.toList_push, depth, problems]
    rfl

/-- Within a number of levels, the phrases that many parts below are cut off. -/
theorem convert_cuts (source : List Char) {limit levels : Nat} (phrase : ParseTree)
    (before : Conversion) (counted : before.depth + levels = limit) :
    Cuts limit before ((convert source levels phrase).run before).2 (cutRows levels phrase) := by
  induction levels generalizing phrase before with
  | zero =>
      obtain rfl : before.depth = limit := counted
      exact truncate_cuts source phrase before
  | succ levels ih =>
      have below : ∀ part state, state.depth = before.depth + 1 →
          Cuts limit state ((convert source levels part).run state).2 (cutRows levels part) :=
            fun part state same =>
        ih part state (by omega)
      obtain ⟨depth, noted⟩ :=
        (convertPhrase_converts source phrase).cuts below { before with depth :=
          before.depth + 1 } rfl
      exact ⟨congrArg (· - 1) depth, noted⟩

/-! ## Counting levels -/

/-- Two steps do the same from every state with this count, and leave the count as it is. -/
def AgreeAt {α : Type} (depth : Nat) (first second : Convert α) : Prop :=
  ∀ state, state.depth = depth → first.run state = second.run state ∧
    (second.run state).2.depth = depth

theorem Converts.agree {α : Type} {step : (ParseTree → Convert (Option NodeId)) → Convert α}
    {phrases : List ParseTree} (converts : Converts step phrases)
    {first second : ParseTree → Convert (Option NodeId)} {depth : Nat}
    (below : ∀ phrase, AgreeAt depth (first phrase) (second phrase)) :
    AgreeAt depth (step first) (step second) := by
  induction converts with
  | own calm => exact fun state counted => ⟨rfl, (calm.depth state).trans counted⟩
  | part phrase => exact below phrase
  | @bind _ _ earlier next _ _ _ _ ihEarlier ihLater =>
      intro state counted
      obtain ⟨same, still⟩ := ihEarlier state counted
      obtain ⟨sameLater, stillLater⟩ :=
        ihLater ((earlier second).run state).1 ((earlier second).run state).2 still
      refine ⟨?_, stillLater⟩
      show (next ((earlier first).run state).1 first).run ((earlier first).run state).2 = _
      rw [same]
      exact sameLater

theorem run_counted (step : Convert (Option NodeId)) (state : Conversion) :
    (counted step).run state =
      let (id, after) := step.run { state with depth := state.depth + 1 }
      (id, { after with depth := after.depth - 1 }) :=
  rfl

theorem AgreeAt.counted {first second : Convert (Option NodeId)} {depth : Nat}
    (agree : AgreeAt (depth + 1) first second) :
    AgreeAt depth (counted first) (counted second) := by
  intro state same
  obtain ⟨equal, still⟩ := agree { state with depth := state.depth + 1 } (congrArg (· + 1) same)
  refine ⟨?_, congrArg (· - 1) still⟩
  rw [run_counted, run_counted, equal]

/-- The conversion of a phrase, unless as many phrases are being converted as may be. -/
def guarded (source : List Char) (phrase : ParseTree) (step : Convert (Option NodeId)) :
    Convert (Option NodeId) := do
  let state ← get
  if maxDepth ≤ state.depth then truncate source phrase else counted step

/-- Converts a phrase by the count of phrases alone. A phrase nested deeper than a number of levels
would be converted in some other way. -/
def convertByCount (source : List Char) (beyond : ParseTree → Convert (Option NodeId)) :
    Nat → ParseTree → Convert (Option NodeId)
  | 0, phrase => guarded source phrase (beyond phrase)
  | levels + 1, phrase =>
      guarded source phrase (convertPhrase source (convertByCount source beyond levels) phrase)

theorem guarded_agrees {source : List Char} {phrase : ParseTree} {step : Convert (Option NodeId)}
    {depth : Nat}
    (room : depth < maxDepth →
      AgreeAt depth (counted step) (convert source (maxDepth - depth) phrase)) :
    AgreeAt depth (guarded source phrase step) (convert source (maxDepth - depth) phrase) := by
  intro state counted
  have run : (guarded source phrase step).run state =
      (if maxDepth ≤ state.depth then truncate source phrase else Parse.counted step).run state :=
        rfl
  rw [run]
  by_cases full : maxDepth ≤ depth
  · rw [if_pos (counted ▸ full), Nat.sub_eq_zero_of_le full]
    exact ⟨rfl, (truncate_cuts source phrase state).depth.trans counted⟩
  · rw [if_neg (counted ▸ full)]
    exact room (Nat.lt_of_not_le full) state counted

/-- With levels enough to reach the limit, what would be done beyond them does not matter: no phrase
gets there. -/
theorem convertByCount_agrees (source : List Char) (beyond : ParseTree → Convert (Option NodeId))
    {levels depth : Nat} (enough : maxDepth ≤ depth + levels) (phrase : ParseTree) :
    AgreeAt depth (convertByCount source beyond levels phrase)
      (convert source (maxDepth - depth) phrase) := by
  induction levels generalizing depth phrase with
  | zero => exact guarded_agrees fun room => absurd enough (by omega)
  | succ levels ih =>
      refine guarded_agrees fun room => ?_
      have left : maxDepth - depth = maxDepth - (depth + 1) + 1 := by omega
      rw [left]
      exact AgreeAt.counted ((convertPhrase_converts source phrase).agree fun part =>
        ih (by omega) part)

/-! ## A whole parse -/

theorem fillProgram_converts (parse : ParseTree) (program : NodeId) :
    Converts (fun descend => fillProgram descend parse program) parse.programParts :=
  (Converts.foldlM _ fun child _ draft => addChild_converts draft "body" child true).before
    fun draft => applyDraft_calm draft program

theorem convertProgramBy_converts (source : List Char) (parse : ParseTree) :
    Converts (fun descend => convertProgramBy source descend parse) parse.programParts := by
  refine .after (pushNode_calm _) fun program => ?_
  refine (fillProgram_converts parse program).before fun _ => ?_
  refine Calm.bind ⟨fun _ => rfl, fun _ => rfl, fun _ => List.prefix_refl _⟩ fun state => ?_
  exact (setSlot_calm _ _ _).bind fun _ => .pure program

/-- A parse is converted by the count of phrases alone: beyond the limit no phrase is converted. -/
theorem convertProgram_agrees (source : List Char) (parse : ParseTree)
    (beyond : ParseTree → Convert (Option NodeId)) {levels : Nat} (enough : maxDepth ≤ levels) :
    AgreeAt 0 (convertProgramBy source (convertByCount source beyond levels) parse)
      (convertProgram source parse) :=
  (convertProgramBy_converts source parse).agree fun phrase =>
    convertByCount_agrees source beyond (by rwa [Nat.zero_add]) phrase

theorem convertProgram_cuts (source : List Char) (parse : ParseTree) :
    Cuts maxDepth {} ((convertProgram source parse).run {}).2 parse.cutPhrases :=
  (convertProgramBy_converts source parse).cuts
    (fun phrase before counted => convert_cuts source phrase before (by rw [counted, Nat.zero_add]))
      {} rfl

end Spellspan.Parse
