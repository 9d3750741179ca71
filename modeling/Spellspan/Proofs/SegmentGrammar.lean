import Mathlib
import Spellspan.Proofs.TextWords
import Spellspan.Scope.Pattern

/-!
How the segments of a pattern are written. A wildcard is written with stars. A label is made of
names with dots between them, and may end in a name in brackets. What is read at a position of a
pattern is exactly what can be written there.
-/
set_option autoImplicit false

namespace Spellspan.Scope

/-! ## Names -/

/-- Letters from `A` to `Z` and from `a` to `z`, the underscore and the dollar sign. -/
def NameStart (c : Char) : Prop :=
  c.isAlpha ∨ c = '_' ∨ c = '$'

def NamePart (c : Char) : Prop :=
  NameStart c ∨ c.isDigit

def NameText (text : String) : Prop :=
  ∃ first rest, text.toList = first :: rest ∧ NameStart first ∧ ∀ c ∈ rest, NamePart c

def ComponentText (text : String) : Prop :=
  text.toList ≠ [] ∧ ∀ c ∈ text.toList, NamePart c

inductive Dotted : List String → Prop where
  | intro {first : String} {more : List String} (name : NameText first) (others : ∀ part ∈ more,
      ComponentText part) :
      Dotted (first :: more)

theorem isNameStart_iff {c : Char} : isNameStart c = true ↔ NameStart c := by
  simp [isNameStart, NameStart, Char.isAlpha, Char.isUpper, Char.isLower, Char.le_def, or_assoc]

theorem isNameChar_iff {c : Char} : isNameChar c = true ↔ NamePart c := by
  simp [isNameChar, NamePart, isNameStart_iff, Char.isDigit, Char.le_def]

theorem isName_iff {text : List Char} : isName text = true ↔ NameText (String.ofList text) := by
  cases text with
  | nil => simp [isName, NameText]
  | cons first rest => simp [isName, NameText, isNameStart_iff, isNameChar_iff]

theorem isComponent_iff {text : List Char} : isComponent text = true ↔
    ComponentText (String.ofList text) := by
  simp [isComponent, ComponentText, isNameChar_iff]

theorem areComponents_iff {parts : List (List Char)} : areComponents parts = true ↔
    Dotted (parts.map String.ofList) := by
  cases parts with
  | nil =>
      constructor
      · intro valid
        cases valid
      · intro dotted
        cases dotted
  | cons first more =>
      simp only [areComponents, Bool.and_eq_true, List.all_eq_true, isName_iff, isComponent_iff,
        List.map_cons]
      constructor
      · intro valid
        exact .intro valid.1 (List.forall_mem_map.mpr valid.2)
      · intro dotted
        cases dotted with
        | intro name others => exact ⟨name, List.forall_mem_map.mp others⟩

/-! ## Characters of labels -/

theorem NamePart.code {c : Char} (part : NamePart c) :
    c.toNat = 36 ∨ c.toNat = 95 ∨ 48 ≤ c.toNat ∧ c.toNat ≤ 57 ∨ 65 ≤ c.toNat ∧ c.toNat ≤ 90 ∨
      97 ≤ c.toNat ∧ c.toNat ≤ 122 := by
  simp only [NamePart, NameStart, Char.isAlpha, Char.isUpper, Char.isLower, Char.isDigit,
    Bool.or_eq_true, Bool.and_eq_true, decide_eq_true_eq, ge_iff_le, UInt32.le_iff_toNat_le] at part
  change (((65 ≤ c.toNat ∧ c.toNat ≤ 90 ∨ 97 ≤ c.toNat ∧ c.toNat ≤ 122) ∨ c = '_' ∨ c = '$') ∨
    48 ≤ c.toNat ∧ c.toNat ≤ 57) at part
  obtain (letter | rfl | rfl) | digit := part
  · omega
  · decide
  · decide
  · omega

theorem NamePart.solid {c : Char} (part : NamePart c) : Text.isWhiteSpace c = false := by
  have code := part.code
  simp only [Text.isWhiteSpace, Text.inRanges, Text.whiteSpaceRanges, List.any_cons, List.any_nil,
    Bool.or_eq_false_iff, Bool.and_eq_false_iff, decide_eq_false_iff_not, and_true]
  omega

theorem NamePart.plain {c : Char} (part : NamePart c) : c ≠ '[' ∧ c ≠ '.' ∧ c ≠ '*' := by
  have code := part.code
  refine ⟨?_, ?_, ?_⟩
  all_goals
    rintro rfl
    revert code
    decide

theorem NameText.component {text : String} (name : NameText text) : ComponentText text := by
  obtain ⟨first, rest, letters, starts, goesOn⟩ := name
  rw [ComponentText, letters]
  exact ⟨List.cons_ne_nil first rest, List.forall_mem_cons.mpr ⟨.inl starts, goesOn⟩⟩

theorem Dotted.components {components : List String} (dotted : Dotted components) :
    ∀ part ∈ components, ComponentText part := by
  cases dotted with
  | intro name others => exact List.forall_mem_cons.mpr ⟨name.component, others⟩

theorem Dotted.ne_nil {components : List String} (dotted : Dotted components) :
    components ≠ [] := by
  cases dotted with
  | intro _ _ => exact List.cons_ne_nil _ _

theorem Dotted.mem_text {components : List String} (dotted : Dotted components) :
    ∀ c ∈ (".".intercalate components).toList, NamePart c ∨ c = '.' := by
  apply Text.forall_mem_intercalate
  · intro c member
    exact .inr (List.mem_singleton.mp member)
  · intro part listed c member
    exact .inl ((dotted.components part listed).2 c member)

theorem Dotted.exists_start {components : List String} (dotted : Dotted components) :
    ∃ first rest, (".".intercalate components).toList = first :: rest ∧ NameStart first := by
  cases dotted with
  | @intro front more name _ =>
      obtain ⟨first, rest, letters, starts, _⟩ := name
      cases more with
      | nil => exact ⟨first, rest, by rw [String.intercalate_singleton, letters], starts⟩
      | cons next more =>
          have text := congrArg String.toList
            (String.intercalate_cons_cons (s := ".") (t := front) (u := next) (l := more))
          rw [String.toList_append, String.toList_append, letters] at text
          exact ⟨first, _, text, starts⟩

/-! ## Segments -/

namespace Segment

inductive Labels : String → Segment → Prop where
  | plain {components : List String} (dotted : Dotted components) :
      Labels (".".intercalate components) (.label components none)
  | keyed {components : List String} {key : String} (dotted : Dotted components)
      (name : NameText key) :
      Labels (".".intercalate components ++ "[" ++ key ++ "]") (.label components (some key))

/-- How segments are written at a position of a pattern. -/
inductive Written : Nat → String → Segment → Prop where
  | anyDepth : Written 0 "**" .anyDepth
  | anyOne {position : Nat} : Written position "*" .anyOne
  | label {position : Nat} {text : String} {segment : Segment} (labels : Labels text segment) :
      Written position text segment

def refusal (position : Nat) (text : String) : PatternError :=
  if text = "**" then .misplacedAnyDepth position else .invalidSegment text

theorem components?_eq_some_iff {text : List Char} {components : List String} :
    components? text = some components ↔
      Dotted components ∧ text = (".".intercalate components).toList := by
  simp only [components?, areComponents_iff, Option.ite_none_right_eq_some, Option.some.injEq]
  constructor
  · intro cut
    obtain ⟨dotted, read⟩ := cut
    have whole := Text.joined_piecesOf '.' (String.ofList text)
    rw [Text.piecesOf, String.toList_ofList, read, Text.joined_eq_intercalate] at whole
    exact ⟨read ▸ dotted, by rw [← String.toList_ofList (l := text), ← whole]; rfl⟩
  · intro joined
    obtain ⟨dotted, whole⟩ := joined
    have dotless : ∀ part ∈ components, '.' ∉ part.toList := by
      intro part listed inside
      exact ((dotted.components part listed).2 '.' inside).plain.2.1 rfl
    have cut := Text.piecesOf_joined dotless dotted.ne_nil
    rw [Text.joined_eq_intercalate, Text.piecesOf] at cut
    change (Text.pieces (· == '.') (".".intercalate components).toList).map String.ofList =
      components at cut
    rw [whole, cut]
    exact ⟨dotted, rfl⟩

theorem parseLabel?_of_plain {text : List Char} (free : '[' ∉ text) :
    parseLabel? text = (components? text).map fun components => .label components none := by
  simp [parseLabel?, Text.takeWhile_of_plain free]

theorem parseLabel?_of_closed {front : List Char} (free : '[' ∉ front) (inner : List Char) :
    parseLabel? (front ++ '[' :: (inner ++ [']'])) =
      if isName inner then (components? front).map fun components =>
        .label components (some (String.ofList inner)) else none := by
  simp [parseLabel?, Text.takeWhile_of_bracket free]

theorem parseLabel?_of_unclosed {front rest : List Char} (free : '[' ∉ front)
    (unended : rest.getLast? ≠ some ']') :
    parseLabel? (front ++ '[' :: rest) = none := by
  simp [parseLabel?, Text.takeWhile_of_bracket free, unended]

theorem bracketless_of_dotted {components : List String} (dotted : Dotted components) :
    '[' ∉ (".".intercalate components).toList := by
  intro inside
  cases dotted.mem_text '[' inside with
  | inl part => exact part.plain.1 rfl
  | inr dot => exact absurd dot (by decide)

theorem parseLabel?_eq_some_iff {text : String} {segment : Segment} :
    parseLabel? text.toList = some segment ↔ Labels text segment := by
  constructor
  · intro read
    obtain ⟨letters, rfl⟩ : ∃ letters, text = String.ofList letters :=
      ⟨text.toList, String.ofList_toList.symm⟩
    rw [String.toList_ofList] at read
    cases Text.bracketing letters with
    | plain free =>
        rw [parseLabel?_of_plain free] at read
        obtain ⟨components, found, rfl⟩ := Option.map_eq_some_iff.mp read
        obtain ⟨dotted, rfl⟩ := components?_eq_some_iff.mp found
        rw [String.ofList_toList]
        exact .plain dotted
    | @closed front inner free =>
        rw [parseLabel?_of_closed free, Option.ite_none_right_eq_some] at read
        obtain ⟨components, found, rfl⟩ := Option.map_eq_some_iff.mp read.2
        obtain ⟨dotted, rfl⟩ := components?_eq_some_iff.mp found
        have written := Labels.keyed dotted (isName_iff.mp read.1)
        rw [← String.ofList_toList (s := _ ++ "]"), Text.toList_bracketed,
          String.toList_ofList] at written
        exact written
    | unclosed free unended =>
        rw [parseLabel?_of_unclosed free unended] at read
        cases read
  · intro labels
    cases labels with
    | plain dotted =>
        rw [parseLabel?_of_plain (bracketless_of_dotted dotted),
          components?_eq_some_iff.mpr ⟨dotted, rfl⟩, Option.map_some]
    | @keyed components key dotted name =>
        have named : isName key.toList = true := isName_iff.mpr (by rwa [String.ofList_toList])
        rw [Text.toList_bracketed,
          parseLabel?_of_closed (bracketless_of_dotted dotted), if_pos named,
          components?_eq_some_iff.mpr ⟨dotted, rfl⟩, Option.map_some, String.ofList_toList]

theorem Labels.exists_start {text : String} {segment : Segment} (labels : Labels text segment) :
    ∃ first rest, text.toList = first :: rest ∧ NameStart first := by
  cases labels with
  | plain dotted => exact dotted.exists_start
  | keyed dotted name =>
      obtain ⟨first, rest, letters, starts⟩ := dotted.exists_start
      rw [Text.toList_bracketed, letters]
      exact ⟨first, _, rfl, starts⟩

theorem Labels.starless {text : String} {segment : Segment} (labels : Labels text segment) :
    text ≠ "**" ∧ text ≠ "*" := by
  obtain ⟨first, rest, letters, starts⟩ := labels.exists_start
  have plain := (NamePart.plain (.inl starts)).2.2
  constructor
  · rintro rfl
    exact plain (List.cons.inj letters).1.symm
  · rintro rfl
    exact plain (List.cons.inj letters).1.symm

/-- What is read is what is written. -/
theorem parse_eq_ok_iff {position : Nat} {text : String} {segment : Segment} :
    parse position text = .ok segment ↔ Written position text segment := by
  constructor
  · intro read
    unfold parse at read
    split at read
    · next stars =>
        subst stars
        split at read
        · next front =>
            obtain rfl := Except.ok.inj read
            rw [front]
            exact .anyDepth
        · cases read
    · split at read
      · next star =>
          obtain rfl := Except.ok.inj read
          rw [star]
          exact .anyOne
      · split at read
        · next found =>
            obtain rfl := Except.ok.inj read
            exact .label (parseLabel?_eq_some_iff.mp found)
        · cases read
  · intro written
    cases written with
    | anyDepth => rfl
    | anyOne => rfl
    | label labels =>
        rw [parse, if_neg labels.starless.1, if_neg labels.starless.2,
          parseLabel?_eq_some_iff.mpr labels]

theorem parse_eq_error_iff {position : Nat} {text : String} {error : PatternError} :
    parse position text = .error error ↔
      (¬ ∃ segment, Written position text segment) ∧ error = refusal position text := by
  have said : ∀ {other}, parse position text = .error other → other = refusal position text := by
    intro other failed
    unfold parse at failed
    unfold refusal
    split at failed
    · next stars =>
        split at failed
        · cases failed
        · rw [if_pos stars]
          exact (Except.error.inj failed).symm
    · next starless =>
        rw [if_neg starless]
        split at failed
        · cases failed
        · split at failed
          · cases failed
          · exact (Except.error.inj failed).symm
  constructor
  · intro failed
    refine ⟨?_, said failed⟩
    rintro ⟨segment, written⟩
    rw [parse_eq_ok_iff.mpr written] at failed
    cases failed
  · intro failed
    obtain ⟨unwritten, refused⟩ := failed
    cases read : parse position text with
    | ok segment => exact absurd ⟨segment, parse_eq_ok_iff.mp read⟩ unwritten
    | error other => rw [refused, said read]

theorem Labels.solid {text : String} {segment : Segment} (labels : Labels text segment) :
    ∀ c ∈ text.toList, Text.isWhiteSpace c = false := by
  have dotted_solid : ∀ {components : List String}, Dotted components →
      ∀ c ∈ (".".intercalate components).toList, Text.isWhiteSpace c = false := by
    intro components dotted c member
    cases dotted.mem_text c member with
    | inl part => exact part.solid
    | inr dot => exact dot ▸ by decide
  cases labels with
  | plain dotted => exact dotted_solid dotted
  | keyed dotted name =>
      rw [Text.toList_bracketed]
      exact Text.solid_bracketed.mpr ⟨dotted_solid dotted, fun c inner =>
        (name.component.2 c inner).solid⟩

theorem Written.isWord {position : Nat} {text : String} {segment : Segment}
    (written : Written position text segment) :
    Text.IsWord text.toList := by
  have star : Text.isWhiteSpace '*' = false := by decide
  cases written with
  | anyDepth => exact ⟨by simp, by simp [star]⟩
  | anyOne => exact ⟨by simp, by simp [star]⟩
  | label labels =>
      obtain ⟨first, rest, letters, _⟩ := labels.exists_start
      exact ⟨by simp [letters], labels.solid⟩

theorem Written.render_eq {position : Nat} {text : String} {segment : Segment}
    (written : Written position text segment) :
    segment.render = text := by
  cases written with
  | anyDepth => rfl
  | anyOne => rfl
  | label labels =>
      cases labels with
      | plain _ => rw [render, Text.joined_eq_intercalate]
      | keyed _ _ => rw [render, Text.joined_eq_intercalate]

end Segment
end Spellspan.Scope
