import Mathlib
import Spellspan.Proofs.PhraseParts

/-!
The comments of a parse, and where they may stand so that a conversion meets each of them once. A
comment is met where the construct around it is taken apart: not in a token or a leaf, not in the
text of a template, not between the names of a specifier, not beside the list of arguments of a
module call. What a construct leaves out is searched, but for comments of the usual kind only.
-/
set_option autoImplicit false

namespace Spellspan.ParseTree

open Parse (isCommentKind nestedComments)

def isComment (row : ParseTree) : Bool :=
  row.named && isCommentKind row.kind

def comments (parse : ParseTree) : List ParseTree :=
  parse.rows.filter isComment

theorem comments_eq (parse : ParseTree) :
    parse.comments =
      (if parse.isComment then [parse] else []) ++ parse.children.flatMap comments := by
  rw [comments, rows_eq, List.filter_cons, List.filter_flatMap]
  split <;> rfl

theorem comments_of_silent {parse : ParseTree} (plain : parse.isComment = false)
    (silent : ∀ child ∈ parse.children, child.comments = []) : parse.comments = [] := by
  rw [comments_eq, plain, List.flatMap_eq_nil_iff.mpr silent]
  rfl

theorem isComment_eq_false {phrase : ParseTree} (other : ¬ isCommentKind phrase.kind) :
    phrase.isComment = false := by
  rw [isComment, Bool.eq_false_iff.mpr other, Bool.and_false]

theorem flatMap_filter_comments {phrases : List ParseTree} {keep : ParseTree → Bool}
    (silent : ∀ phrase ∈ phrases, keep phrase = false → phrase.comments = []) :
    (phrases.filter keep).flatMap comments = phrases.flatMap comments := by
  induction phrases with
  | nil => rfl
  | cons phrase rest ih =>
      have later := ih fun other member => silent other (List.mem_cons_of_mem _ member)
      rw [List.filter_cons, List.flatMap_cons]
      split
      · rw [List.flatMap_cons, later]
      · next dropped =>
          have none := silent phrase List.mem_cons_self (Bool.eq_false_iff.mpr dropped)
          rw [later, none, List.nil_append]

/-- Where only one phrase may have comments, its comments are all. -/
theorem flatMap_find?_comments {phrases : List ParseTree} {one : ParseTree → Bool}
    (silent : ∀ phrase ∈ phrases.eraseP one, phrase.comments = []) :
    phrases.flatMap comments = ((phrases.find? one).map comments).getD [] := by
  induction phrases with
  | nil => rfl
  | cons phrase rest ih =>
      rw [List.flatMap_cons, List.find?_cons]
      cases found : one phrase with
      | true =>
          rw [List.eraseP_cons_of_pos found] at silent
          rw [List.flatMap_eq_nil_iff.mpr silent, List.append_nil]
          rfl
      | false =>
          rw [List.eraseP_cons_of_neg (by simp [found])] at silent
          rw [silent phrase List.mem_cons_self, List.nil_append]
          exact ih fun other member => silent other (List.mem_cons_of_mem _ member)

/-! ## Where comments may stand -/

def specifierKinds : List String :=
  ["import_specifier", "export_specifier", "namespace_import"]

/-- Where the comments below one phrase may stand. -/
structure OrderlyAt (phrase : ParseTree) : Prop where
  comment : isCommentKind phrase.kind → phrase.named = true ∧ phrase.children = []
  leaf : phrase.named = false ∨ phrase.kind ∈ leafKinds ++ specifierKinds →
    ∀ child ∈ phrase.children, child.comments = []
  template : phrase.kind = "template_string" →
    ∀ child ∈ phrase.children, child.kind ≠ "template_substitution" → child.comments = []
  -- The list of arguments is the first child in its field, and no comment itself.
  moduleCall : phrase.kind = "call_expression" →
    (phrase.childIn? "function").map kind = some "import" →
      (∀ child ∈ phrase.children.eraseP fun child => child.field == some "arguments",
        child.comments = []) ∧
      ∀ arguments ∈ phrase.childIn? "arguments", arguments.isComment = false

instance (phrase : ParseTree) : Decidable phrase.OrderlyAt :=
  decidable_of_iff
    ((isCommentKind phrase.kind → phrase.named = true ∧ phrase.children = []) ∧
      (phrase.named = false ∨ phrase.kind ∈ leafKinds ++ specifierKinds →
        ∀ child ∈ phrase.children, child.comments = []) ∧
      (phrase.kind = "template_string" →
        ∀ child ∈ phrase.children, child.kind ≠ "template_substitution" → child.comments = []) ∧
      (phrase.kind = "call_expression" → (phrase.childIn? "function").map kind = some "import" →
        (∀ child ∈ phrase.children.eraseP fun child => child.field == some "arguments",
          child.comments = []) ∧
        ∀ arguments ∈ phrase.childIn? "arguments", arguments.isComment = false))
    ⟨fun ⟨comment, leaf, template, moduleCall⟩ => ⟨comment, leaf, template, moduleCall⟩,
      fun ⟨comment, leaf, template, moduleCall⟩ => ⟨comment, leaf, template, moduleCall⟩⟩

def Orderly (phrase : ParseTree) : Prop :=
  ∀ row ∈ phrase.rows, row.OrderlyAt

instance (phrase : ParseTree) : Decidable phrase.Orderly :=
  inferInstanceAs (Decidable (∀ row ∈ phrase.rows, row.OrderlyAt))

namespace Orderly

variable {phrase part : ParseTree}

theorem self (orderly : phrase.Orderly) : phrase.OrderlyAt :=
  orderly phrase phrase.self_mem_rows

theorem row (orderly : phrase.Orderly) (below : part ∈ phrase.rows) : part.Orderly :=
  fun row inside => orderly row (rows_subset_of_mem_rows below inside)

theorem child (orderly : phrase.Orderly) (member : part ∈ phrase.children) : part.Orderly :=
  fun row inside => orderly row (rows_subset_of_mem member inside)

theorem named (orderly : phrase.Orderly) (member : part ∈ phrase.namedChildren) : part.Orderly :=
  orderly.child (mem_children_of_mem_namedChildren member)

theorem comments_of_comment (orderly : phrase.Orderly) (comment : isCommentKind phrase.kind) :
    phrase.comments = [phrase] := by
  obtain ⟨named, childless⟩ := orderly.self.comment comment
  have itself : phrase.isComment = true := by rw [isComment, named, comment]; rfl
  rw [comments_eq, itself, childless]
  rfl

theorem comments_of_leaf (orderly : phrase.Orderly) (other : ¬ isCommentKind phrase.kind)
    (leaf : phrase.kind ∈ leafKinds ++ specifierKinds) : phrase.comments = [] :=
  comments_of_silent (isComment_eq_false other) (orderly.self.leaf (.inr leaf))

theorem comments_of_phrase (orderly : phrase.Orderly) (other : ¬ isCommentKind phrase.kind) :
    phrase.comments = phrase.namedChildren.flatMap comments := by
  have silent : ∀ child ∈ phrase.children, child.named = false → child.comments = [] := by
    intro child member token
    have plain : child.isComment = false := by rw [isComment, token]; rfl
    exact comments_of_silent plain ((orderly.child member).self.leaf (.inl token))
  rw [comments_eq, isComment_eq_false other, namedChildren, flatMap_filter_comments silent]
  rfl

theorem comments_of_moduleCall (orderly : phrase.Orderly) (call : phrase.kind = "call_expression")
    (loads : (phrase.childIn? "function").map kind = some "import") :
    phrase.comments =
      (((phrase.childIn? "arguments").map namedChildren).getD []).flatMap comments := by
  obtain ⟨silent, plain⟩ := orderly.self.moduleCall call loads
  have other : ¬ isCommentKind phrase.kind := by rw [call]; decide
  rw [comments_eq, isComment_eq_false other, flatMap_find?_comments silent, ← childIn?]
  cases found : phrase.childIn? "arguments" with
  | none => rfl
  | some arguments =>
      have below := orderly.child (mem_children_of_childIn? found)
      have noComment : ¬ isCommentKind arguments.kind := by
        intro comment
        have itself : arguments.isComment = true := by
          rw [isComment, (below.self.comment comment).1, comment]
          rfl
        rw [plain arguments found] at itself
        cases itself
      exact below.comments_of_phrase noComment

end Orderly

/-! ## Phrases that are searched -/

def HtmlFree (phrase : ParseTree) : Prop :=
  ∀ row ∈ phrase.rows, row.kind ≠ "html_comment"

instance (phrase : ParseTree) : Decidable phrase.HtmlFree :=
  inferInstanceAs (Decidable (∀ row ∈ phrase.rows, row.kind ≠ "html_comment"))

theorem HtmlFree.row {phrase part : ParseTree} (free : phrase.HtmlFree)
    (below : part ∈ phrase.rows) : part.HtmlFree :=
  fun row inside => free row (rows_subset_of_mem_rows below inside)

structure Searchable (phrase : ParseTree) : Prop where
  orderly : phrase.Orderly
  free : phrase.HtmlFree

theorem Searchable.row {phrase part : ParseTree} (searchable : phrase.Searchable)
    (below : part ∈ phrase.rows) : part.Searchable :=
  ⟨searchable.orderly.row below, searchable.free.row below⟩

theorem Searchable.named {phrase part : ParseTree} (searchable : phrase.Searchable)
    (member : part ∈ phrase.namedChildren) : part.Searchable :=
  searchable.row (mem_rows_of_mem_namedChildren member part.self_mem_rows)

theorem nestedComments_eq (stack : List ParseTree)
    (searchable : ∀ phrase ∈ stack, phrase.Searchable) :
    nestedComments stack = stack.flatMap comments := by
  induction stack using Parse.nestedComments.induct with
  | case1 => rw [nestedComments, List.flatMap_nil]
  | case2 phrase rest usual ih =>
      have orderly := (searchable phrase List.mem_cons_self).orderly
      have comment : isCommentKind phrase.kind := by rw [usual]; decide
      have later := ih fun other member => searchable other (List.mem_cons_of_mem _ member)
      rw [nestedComments, if_pos usual, List.flatMap_cons,
        orderly.comments_of_comment comment, later]
      rfl
  | case3 phrase rest unusual ih =>
      have first := searchable phrase List.mem_cons_self
      have notHtml := first.free phrase phrase.self_mem_rows
      have other : ¬ isCommentKind phrase.kind := by simp [isCommentKind, unusual, notHtml]
      rw [nestedComments, if_neg unusual, List.flatMap_cons, first.orderly.comments_of_phrase other,
        ← List.flatMap_append]
      refine ih fun part member => ?_
      rcases List.mem_append.mp member with inner | later
      · exact first.named inner
      · exact searchable part (List.mem_cons_of_mem _ later)

/-! ## Phrases that are converted -/

/-- Comments in the style of HTML stand where phrases are converted, within a number of levels. At
the limit a phrase is searched, unless it is a comment itself. -/
inductive HtmlInReach : Nat → ParseTree → Prop where
  | free {levels : Nat} {phrase : ParseTree} (free : phrase.HtmlFree) : HtmlInReach levels phrase
  | comment {levels : Nat} {phrase : ParseTree} (comment : isCommentKind phrase.kind) :
      HtmlInReach levels phrase
  | within {levels : Nat} {phrase : ParseTree}
      (converted : ∀ part ∈ phrase.parts, HtmlInReach levels part)
      (searched : ∀ part ∈ phrase.leftOut, part.HtmlFree) : HtmlInReach (levels + 1) phrase

theorem htmlInReach_zero_iff {phrase : ParseTree} :
    HtmlInReach 0 phrase ↔ phrase.HtmlFree ∨ isCommentKind phrase.kind := by
  constructor
  · intro reach
    cases reach with
    | free free => exact .inl free
    | comment comment => exact .inr comment
  · intro either
    cases either with
    | inl free => exact .free free
    | inr comment => exact .comment comment

theorem htmlInReach_succ_iff {levels : Nat} {phrase : ParseTree} :
    HtmlInReach (levels + 1) phrase ↔
      (phrase.HtmlFree ∨ isCommentKind phrase.kind) ∨
      (∀ part ∈ phrase.parts, HtmlInReach levels part) ∧
        ∀ part ∈ phrase.leftOut, part.HtmlFree := by
  constructor
  · intro reach
    cases reach with
    | free free => exact .inl (.inl free)
    | comment comment => exact .inl (.inr comment)
    | within converted searched => exact .inr ⟨converted, searched⟩
  · rintro ((free | comment) | ⟨converted, searched⟩)
    · exact .free free
    · exact .comment comment
    · exact .within converted searched

instance decidableHtmlInReach :
    ∀ (levels : Nat) (phrase : ParseTree), Decidable (HtmlInReach levels phrase)
  | 0, _ => decidable_of_iff _ htmlInReach_zero_iff.symm
  | levels + 1, _ =>
    have : DecidablePred (HtmlInReach levels) := decidableHtmlInReach levels
    decidable_of_iff _ htmlInReach_succ_iff.symm

/-- All comments below a phrase are met within a number of levels. -/
structure Clear (levels : Nat) (phrase : ParseTree) : Prop where
  orderly : phrase.Orderly
  html : HtmlInReach levels phrase

theorem Searchable.clear {phrase : ParseTree} (searchable : phrase.Searchable) (levels : Nat) :
    Clear levels phrase :=
  ⟨searchable.orderly, .free searchable.free⟩

theorem Clear.searchable {phrase : ParseTree} (clear : Clear 0 phrase)
    (other : ¬ isCommentKind phrase.kind) : phrase.Searchable := by
  cases clear.html with
  | free free => exact ⟨clear.orderly, free⟩
  | comment comment => exact absurd comment other

/-- All comments below a phrase are met where a construct converts and searches these parts. -/
structure Reached (levels : Nat) (phrase : ParseTree) (handling : Handling) : Prop where
  orderly : phrase.Orderly
  converted : ∀ part ∈ handling.converted, Clear levels part
  searched : ∀ part ∈ handling.searched, part.Searchable

theorem Clear.reached {levels : Nat} {phrase : ParseTree} (clear : Clear (levels + 1) phrase)
    (other : ¬ isCommentKind phrase.kind) : Reached levels phrase phrase.handling := by
  have below : ∀ part, (∃ child ∈ phrase.children, part ∈ child.rows) → part ∈ phrase.rows := by
    rintro part ⟨child, inside, row⟩
    exact rows_subset_of_mem inside row
  have orderly : ∀ part, (∃ child ∈ phrase.children, part ∈ child.rows) → part.Orderly :=
    fun part inside => clear.orderly.row (below part inside)
  refine ⟨clear.orderly, fun part member => ?_, fun part member => ?_⟩
  · have inside := exists_child_of_mem_parts member
    refine ⟨orderly part inside, ?_⟩
    cases clear.html with
    | free free => exact .free (free.row (below part inside))
    | comment comment => exact absurd comment other
    | within converted _ => exact converted part member
  · have inside := exists_child_of_mem_leftOut member
    refine ⟨orderly part inside, ?_⟩
    cases clear.html with
    | free free => exact free.row (below part inside)
    | comment comment => exact absurd comment other
    | within _ searched => exact searched part member

theorem Reached.inField {levels : Nat} {fields : List String} {phrase child : ParseTree}
    (reached : Reached levels phrase
      { converted := phrase.fieldParts fields, searched := phrase.fieldRest fields })
    (member : child ∈ phrase.namedChildren) :
    (child.field.any fields.contains → ∀ item ∈ child.items, Clear levels item) ∧
      (child.field.any fields.contains = false → child.Searchable) := by
  refine ⟨fun taken item inside => ?_, fun left => ?_⟩
  · exact reached.converted item (List.mem_flatMap.mpr ⟨child, member, by rwa [if_pos taken]⟩)
  · exact reached.searched child (List.mem_filter.mpr ⟨member, by rw [left]; rfl⟩)

end Spellspan.ParseTree
