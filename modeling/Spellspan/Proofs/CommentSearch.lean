import Mathlib
import Spellspan.Parse.Conversion
import Spellspan.Proofs.ParseRows

/-!
The search for comments in a phrase that is left out. It keeps a stack and never calls itself, so it
is compared with the recursive preorder. A comment is told apart from others by its address: which
named child to take at each step down. Addresses in lexicographic order are rows in preorder.
-/
set_option autoImplicit false

namespace Spellspan.ParseTree

/-! ## Addresses -/

/-- A row that is reached from the top of a phrase through named children, without passing through a
comment. -/
inductive Reaches : ParseTree → List Nat → ParseTree → Prop where
  | top (phrase : ParseTree) : Reaches phrase [] phrase
  | through {phrase part row : ParseTree} {index : Nat} {address : List Nat}
      (other : phrase.kind ≠ "comment")
      (listed : phrase.namedChildren[index]? = some part) (below : Reaches part address row) :
      Reaches phrase (index :: address) row

mutual

/-- The comments that the recursive preorder finds, each with its address. -/
def addressed : ParseTree → List (List Nat × ParseTree)
  | .mk field kind named span children =>
    if kind = "comment" then [([], .mk field kind named span children)] else addressedIn 0 children

def addressedIn (index : Nat) : List ParseTree → List (List Nat × ParseTree)
  | [] => []
  | part :: rest =>
    if part.named then part.addressed.map (fun entry => (index :: entry.1, entry.2)) ++
      addressedIn (index + 1) rest
    else addressedIn index rest

end

theorem addressedIn_eq_flatMap (index : Nat) (children : List ParseTree) :
    addressedIn index children =
      ((children.filter named).zipIdx index).flatMap fun place =>
        place.1.addressed.map fun entry => (place.2 :: entry.1, entry.2) := by
  induction children generalizing index with
  | nil => rfl
  | cons part rest ih =>
      rw [addressedIn, List.filter_cons]
      cases part.named with
      | true =>
          rw [if_pos rfl, if_pos rfl, List.zipIdx_cons, List.flatMap_cons, ih]
      | false =>
          rw [if_neg Bool.false_ne_true, if_neg Bool.false_ne_true]
          exact ih index

theorem addressed_of_comment {phrase : ParseTree} (comment : phrase.kind = "comment") :
    phrase.addressed = [([], phrase)] := by
  cases phrase with
  | mk => exact (if_pos comment : _ = _)

theorem addressed_of_other {phrase : ParseTree} (other : phrase.kind ≠ "comment") :
    phrase.addressed = phrase.namedChildren.zipIdx.flatMap fun place =>
      place.1.addressed.map fun entry => (place.2 :: entry.1, entry.2) := by
  cases phrase with
  | mk => exact (if_neg other : _ = _).trans (addressedIn_eq_flatMap 0 _)

theorem induction_namedChildren {motive : ParseTree → Prop}
    (step : ∀ phrase, (∀ part ∈ phrase.namedChildren, motive part) → motive phrase)
    (phrase : ParseTree) : motive phrase := by
  induction phrase using induction_children with
  | step phrase ih => exact step phrase fun part member => ih part (mem_children_of_mem_namedChildren member)

theorem mem_addressed_iff (phrase : ParseTree) :
    ∀ address row, (address, row) ∈ phrase.addressed ↔
      phrase.Reaches address row ∧ row.kind = "comment" := by
  induction phrase using induction_namedChildren with
  | step phrase ih =>
      intro address row
      by_cases comment : phrase.kind = "comment"
      · rw [addressed_of_comment comment, List.mem_singleton]
        constructor
        · intro same
          cases same
          exact ⟨.top phrase, comment⟩
        · rintro ⟨reached, _⟩
          cases reached with
          | top => rfl
          | through other => exact absurd comment other
      · rw [addressed_of_other comment, List.mem_flatMap]
        constructor
        · rintro ⟨⟨part, index⟩, place, member⟩
          obtain ⟨⟨below, found⟩, listed, same⟩ := List.mem_map.mp member
          cases same
          have held : phrase.namedChildren[index]? = some part :=
            List.mem_zipIdx_iff_getElem?.mp place
          obtain ⟨reached, kind⟩ := (ih part (List.mem_of_getElem? held) below found).mp listed
          exact ⟨.through comment held reached, kind⟩
        · rintro ⟨reached, kind⟩
          cases reached with
          | top => exact absurd kind comment
          | @through _ part _ index below _ listed reached =>
              refine ⟨(part, index), List.mem_zipIdx_iff_getElem?.mpr listed,
                List.mem_map.mpr ⟨(below, row), ?_, rfl⟩⟩
              exact (ih part (List.mem_of_getElem? listed) below row).mpr ⟨reached, kind⟩

/-- Addresses grow: within one child by the rest of the address, from one child to the next by the
first index. -/
theorem pairwise_addressed (phrase : ParseTree) :
    (phrase.addressed.map Prod.fst).Pairwise (· < ·) := by
  induction phrase using induction_namedChildren with
  | step phrase ih =>
      by_cases comment : phrase.kind = "comment"
      · rw [addressed_of_comment comment]
        exact List.pairwise_singleton _ _
      · rw [addressed_of_other comment, List.map_flatMap]
        refine List.pairwise_flatMap.mpr ⟨?_, ?_⟩
        · rintro ⟨part, index⟩ place
          have held : phrase.namedChildren[index]? = some part :=
            List.mem_zipIdx_iff_getElem?.mp place
          have within := List.pairwise_map.mp (ih part (List.mem_of_getElem? held))
          rw [List.map_map]
          exact List.pairwise_map.mpr (within.imp fun earlier => List.Lex.cons earlier)
        · have indices : (phrase.namedChildren.zipIdx.map Prod.snd).Pairwise (· < ·) := by
            rw [List.zipIdx_map_snd]
            exact List.pairwise_lt_range'
          refine (List.pairwise_map.mp indices).imp
            fun {first second} before left inFirst right inSecond => ?_
          obtain ⟨_, early, rfl⟩ := List.mem_map.mp inFirst
          obtain ⟨_, late, rfl⟩ := List.mem_map.mp inSecond
          obtain ⟨_, _, rfl⟩ := List.mem_map.mp early
          obtain ⟨_, _, rfl⟩ := List.mem_map.mp late
          exact List.Lex.rel before

theorem map_snd_addressed {phrase : ParseTree} (other : phrase.kind ≠ "comment") :
    phrase.addressed.map Prod.snd = phrase.namedChildren.flatMap fun part =>
      part.addressed.map Prod.snd := by
  rw [addressed_of_other other, List.map_flatMap]
  conv_rhs => rw [← List.zipIdx_map_fst 0 phrase.namedChildren, List.flatMap_map]
  refine List.flatMap_congr fun place _ => ?_
  rw [List.map_map]
  rfl

theorem sizes_reverse (trees : List ParseTree) : sizes trees.reverse = sizes trees := by
  induction trees with
  | nil => rfl
  | cons tree rest ih =>
      rw [List.reverse_cons, sizes_append, ih, sizes, sizes, sizes]
      omega

end Spellspan.ParseTree

namespace Spellspan.Parse

open ParseTree (sizes sizes_append sizes_reverse sizes_namedChildren_lt)
open Spellspan.Tree (NodeId Node)

/-! ## The loop -/

/-- The stack holds, top first, what is still to be searched. -/
theorem nestedComments_eq_addressed (stack : List ParseTree) :
    nestedComments stack = stack.flatMap fun phrase => phrase.addressed.map Prod.snd := by
  induction stack using nestedComments.induct with
  | case1 => rw [nestedComments, List.flatMap_nil]
  | case2 phrase rest comment ih =>
      rw [nestedComments, if_pos comment, List.flatMap_cons,
        ParseTree.addressed_of_comment comment, ih]
      rfl
  | case3 phrase rest other ih =>
      rw [nestedComments, if_neg other, ih, List.flatMap_append, List.flatMap_cons,
        ParseTree.map_snd_addressed other]

/-- The search as a loop over a stack that grows and shrinks at its end: a comment is lifted as soon
as it is taken from the stack, any other phrase is replaced by its named children, the last of them
first. -/
def searchLoop (source : List Char) (stack : List ParseTree) : Convert Unit :=
  if nonempty : stack ≠ [] then
    let phrase := stack.getLast nonempty
    if phrase.kind = "comment" then do
      liftComment source phrase
      searchLoop source stack.dropLast
    else searchLoop source (stack.dropLast ++ phrase.namedChildren.reverse)
  else pure ()
termination_by sizes stack
decreasing_by
  all_goals
    have whole := congrArg sizes (List.dropLast_append_getLast nonempty)
    have smaller := sizes_namedChildren_lt (stack.getLast nonempty)
    simp only [sizes_append, sizes_reverse, sizes] at whole ⊢
    omega

/-- Lifting while searching and lifting all that was found are the same. -/
theorem searchLoop_eq (source : List Char) (stack : List ParseTree) :
    searchLoop source stack = (nestedComments stack.reverse).forM (liftComment source) := by
  have last : ∀ {stack : List ParseTree} (nonempty : stack ≠ []),
      stack.reverse = stack.getLast nonempty :: stack.dropLast.reverse := by
    intro stack nonempty
    rw [← List.reverse_concat, List.dropLast_append_getLast]
  induction stack using searchLoop.induct with
  | case1 stack nonempty phrase comment ih =>
      rw [searchLoop, dif_pos nonempty, if_pos comment, last nonempty, nestedComments,
        if_pos comment, ih, List.forM_eq_forM, List.forM_cons]
  | case2 stack nonempty phrase other ih =>
      rw [searchLoop, dif_pos nonempty, if_neg other, last nonempty, nestedComments, if_neg other,
        ih, List.reverse_append, List.reverse_reverse]
  | case3 stack empty =>
      obtain rfl := not_not.mp empty
      rw [searchLoop, dif_neg empty, List.reverse_nil, nestedComments, List.forM_eq_forM,
        List.forM_nil]

/-! ## What is lifted -/

def commentNode (source : List Char) (row : ParseTree) : Node :=
  let parts := commentParts (phraseText source row)
  { kind := parts.1, span := row.span, value := some (.string (String.ofList parts.2)) }

theorem run_liftComments (source : List Char) (rows : List ParseTree) (before : Conversion) :
    (rows.forM (liftComment source)).run before = ((), { before with
      builder := ⟨before.builder.nodes ++ (rows.map (commentNode source)).toArray⟩
      comments := before.comments ++ (List.range' before.builder.size rows.length).toArray }) := by
  have shift : ∀ {α : Type} (front : Array α) (item : α) (back : List α), front.push item ++
    back.toArray =
      front ++ (item :: back).toArray := by simp
  induction rows generalizing before with
  | nil =>
      have kept : ((), before) = ((), { before with
          builder := ⟨before.builder.nodes ++ #[]⟩, comments := before.comments ++ #[] }) := by
        rw [Array.append_empty, Array.append_empty]
      exact kept
  | cons row rest ih =>
      have later := ih { before with
        builder := ⟨before.builder.nodes.push (commentNode source row)⟩
        comments := before.comments.push before.builder.size }
      have size : (⟨before.builder.nodes.push (commentNode source row)⟩ : Tree.Builder).size =
          before.builder.size + 1 :=
        Array.size_push ..
      dsimp only at later
      rw [size, shift, shift] at later
      rw [List.map_cons, List.length_cons, List.range'_succ]
      exact later

/-- The search of a phrase lifts the comments that are reached through named children from outside
of all other comments: each once, in preorder, behind the comments that are there already. It adds
their nodes and changes nothing else. -/
theorem search_lifts_in_preorder (source : List Char) (phrase : ParseTree) (before : Conversion) :
    searchLoop source [phrase] = liftNestedComments source phrase ∧
    ∃ (addresses : List (List Nat)) (rows : List ParseTree),
      addresses.Pairwise (· < ·) ∧
      List.Forall₂ (fun address row => phrase.Reaches address row ∧ row.kind = "comment")
        addresses rows ∧
      (∀ address row, phrase.Reaches address row → row.kind = "comment" → address ∈ addresses) ∧
      (liftNestedComments source phrase).run before = ((), { before with
        builder := ⟨before.builder.nodes ++ (rows.map (commentNode source)).toArray⟩
        comments := before.comments ++
          (List.range' before.builder.size rows.length).toArray }) := by
  have found : nestedComments [phrase] = phrase.addressed.map Prod.snd := by
    rw [nestedComments_eq_addressed, List.flatMap_singleton]
  refine ⟨searchLoop_eq source [phrase], phrase.addressed.map Prod.fst,
    phrase.addressed.map Prod.snd, phrase.pairwise_addressed, ?_, ?_, ?_⟩
  · rw [List.forall₂_map_left_iff, List.forall₂_map_right_iff, List.forall₂_same]
    exact fun entry member => (phrase.mem_addressed_iff entry.1 entry.2).mp member
  · intro address row reached comment
    exact List.mem_map.mpr
      ⟨(address, row), (phrase.mem_addressed_iff address row).mpr ⟨reached, comment⟩, rfl⟩
  · rw [liftNestedComments, found, run_liftComments]

end Spellspan.Parse
