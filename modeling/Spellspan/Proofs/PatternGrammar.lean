import Mathlib
import Spellspan.Proofs.ReadablePatterns

/-!
How patterns are written. Every word of the text stands for a segment at its place, and the first
word that does not decides the error. A pattern is shown by the words it was read from, with a blank
between each two of them, and reading them gives the pattern.
-/
set_option autoImplicit false

namespace Spellspan.Scope.ScopePattern

/-- Words that stand for segments one by one. Positions are counted from `start`. -/
inductive WrittenFrom : Nat → List String → List Segment → Prop where
  | nil {start : Nat} : WrittenFrom start [] []
  | cons {start : Nat} {token : String} {tokens : List String} {segment : Segment}
      {segments : List Segment}
      (here : Segment.Written start token segment)
      (rest : WrittenFrom (start + 1) tokens segments) :
      WrittenFrom start (token :: tokens) (segment :: segments)

/-- The first word that stands for no segment at its place. -/
structure FirstUnwritten (start : Nat) (tokens : List String) (index : Nat) (token : String)
    : Prop where
  found : tokens[index]? = some token
  unwritten : ¬ ∃ segment, Segment.Written (start + index) token segment
  before : ∀ earlier other, earlier < index → tokens[earlier]? = some other →
    ∃ segment, Segment.Written (start + earlier) other segment

section
variable {start : Nat} {token : String} {tokens : List String} {segments : List Segment}

theorem WrittenFrom.isWord (written : WrittenFrom start tokens segments) :
    ∀ token ∈ tokens, Text.IsWord token.toList := by
  induction written with
  | nil => simp
  | cons here _ ih => exact List.forall_mem_cons.mpr ⟨here.isWord, ih⟩

theorem WrittenFrom.map_render (written : WrittenFrom start tokens segments) :
    segments.map Segment.render = tokens := by
  induction written with
  | nil => rfl
  | cons here _ ih => rw [List.map_cons, here.render_eq, ih]

theorem WrittenFrom.ne_nil_iff (written : WrittenFrom start tokens segments) :
    tokens ≠ [] ↔ segments ≠ [] := by
  rw [← written.map_render, ne_eq, List.map_eq_nil_iff]

theorem exists_writtenFrom_iff :
    (∃ segments, WrittenFrom start tokens segments) ↔
      ∀ index token, tokens[index]? = some token →
        ∃ segment, Segment.Written (start + index) token segment := by
  induction tokens generalizing start with
  | nil =>
      constructor
      · intro _ index token found
        cases found
      · intro _
        exact ⟨[], .nil⟩
  | cons token tokens ih =>
      have shift : ∀ index, start + 1 + index = start + (index + 1) := fun index => by omega
      constructor
      · rintro ⟨_, written⟩ index other found
        cases written with
        | cons here rest =>
            cases index with
            | zero =>
                obtain rfl := Option.some.inj found
                exact ⟨_, here⟩
            | succ index =>
                rw [← shift]
                exact ih.mp ⟨_, rest⟩ index other found
      · intro each
        obtain ⟨segment, here⟩ := each 0 token rfl
        obtain ⟨segments, rest⟩ := ih.mpr fun index other found =>
          shift index ▸ each (index + 1) other found
        exact ⟨segment :: segments, .cons here rest⟩

theorem firstUnwritten_cons_succ {index : Nat} {other : String} :
    FirstUnwritten start (token :: tokens) (index + 1) other ↔
      (∃ segment, Segment.Written start token segment) ∧
        FirstUnwritten (start + 1) tokens index other := by
  have shift : ∀ index, start + 1 + index = start + (index + 1) := fun index => by omega
  constructor
  · intro first
    refine ⟨first.before 0 token (Nat.succ_pos index) rfl, first.found, ?_, ?_⟩
    · rw [shift]
      exact first.unwritten
    · intro earlier word less found
      rw [shift]
      exact first.before (earlier + 1) word (Nat.succ_lt_succ less) found
  · intro split
    obtain ⟨here, later⟩ := split
    refine ⟨later.found, ?_, ?_⟩
    · rw [← shift]
      exact later.unwritten
    · intro earlier word less found
      cases earlier with
      | zero =>
          obtain rfl := Option.some.inj found
          exact here
      | succ earlier =>
          rw [← shift]
          exact later.before earlier word (Nat.lt_of_succ_lt_succ less) found

theorem firstUnwritten_cons_zero {other : String} :
    FirstUnwritten start (token :: tokens) 0 other ↔
      other = token ∧ ¬ ∃ segment, Segment.Written start token segment := by
  constructor
  · intro first
    obtain rfl := Option.some.inj first.found
    exact ⟨rfl, first.unwritten⟩
  · rintro ⟨rfl, unwritten⟩
    exact ⟨rfl, unwritten, fun earlier _ less => absurd less (Nat.not_lt_zero earlier)⟩

end

/-! ## Reading lists of words -/

theorem parseSegments_eq_ok_iff {start : Nat} {texts : List String} {segments : List Segment} :
    parseSegments start texts = .ok segments ↔
      WrittenFrom start (texts.map Text.trimmed) segments := by
  induction texts generalizing start segments with
  | nil =>
      constructor
      · intro read
        obtain rfl := Except.ok.inj read
        exact .nil
      · intro written
        cases written
        rfl
  | cons text texts ih =>
      rw [parseSegments_cons_eq_ok_iff, List.map_cons]
      constructor
      · rintro ⟨segment, rest, parsed, others, rfl⟩
        exact .cons (Segment.parse_eq_ok_iff.mp parsed) (ih.mp others)
      · intro written
        cases written with
        | cons here rest => exact ⟨_, _, Segment.parse_eq_ok_iff.mpr here, ih.mpr rest, rfl⟩

theorem parseSegments_eq_error_iff {start : Nat} {texts : List String} {error : PatternError} :
    parseSegments start texts = .error error ↔
      ∃ index token, FirstUnwritten start (texts.map Text.trimmed) index token ∧
        error = Segment.refusal (start + index) token := by
  induction texts generalizing start with
  | nil =>
      constructor
      · intro failed
        cases failed
      · rintro ⟨index, token, first, _⟩
        cases first.found
  | cons text texts ih =>
      have shift : ∀ index, start + 1 + index = start + (index + 1) := fun index => by omega
      rw [parseSegments, List.map_cons]
      cases parsed : Segment.parse start (Text.trimmed text) with
      | error refused =>
          obtain ⟨unwritten, rfl⟩ := Segment.parse_eq_error_iff.mp parsed
          constructor
          · intro failed
            exact ⟨0, _, firstUnwritten_cons_zero.mpr ⟨rfl, unwritten⟩,
              (Except.error.inj failed).symm⟩
          · rintro ⟨index, token, first, rfl⟩
            cases index with
            | zero =>
                obtain ⟨rfl, _⟩ := firstUnwritten_cons_zero.mp first
                rfl
            | succ index => exact absurd (firstUnwritten_cons_succ.mp first).1 unwritten
      | ok segment =>
          have written : ∃ segment, Segment.Written start (Text.trimmed text) segment :=
            ⟨segment, Segment.parse_eq_ok_iff.mp parsed⟩
          have later : (parseSegments (start + 1) texts).map (segment :: ·) = .error error ↔
              parseSegments (start + 1) texts = .error error := by
            cases parseSegments (start + 1) texts <;> simp [Except.map]
          dsimp only
          rw [later, ih]
          constructor
          · rintro ⟨index, token, first, refused⟩
            exact ⟨index + 1, token, firstUnwritten_cons_succ.mpr ⟨written, first⟩,
              shift index ▸ refused⟩
          · rintro ⟨index, token, first, refused⟩
            cases index with
            | zero => exact absurd written (firstUnwritten_cons_zero.mp first).2
            | succ index => exact ⟨index, token, (firstUnwritten_cons_succ.mp first).2,
                (shift index).symm ▸ refused⟩

theorem ofSegments_eq_ok_iff_written {texts : List String} {pattern : ScopePattern} :
    ofSegments texts = .ok pattern ↔
      texts ≠ [] ∧ WrittenFrom 0 (texts.map Text.trimmed) pattern.segments := by
  rw [ofSegments_eq_ok_iff, parseSegments_eq_ok_iff, and_comm]
  apply and_congr_left
  intro written
  rw [← written.ne_nil_iff, ne_eq, List.map_eq_nil_iff]

theorem ofSegments_eq_error_iff {texts : List String} {error : PatternError} :
    ofSegments texts = .error error ↔
      texts = [] ∧ error = .empty ∨
      ∃ position token, FirstUnwritten 0 (texts.map Text.trimmed) position token ∧
        error = Segment.refusal position token := by
  have refused : parseSegments 0 texts = .error error ↔ _ := parseSegments_eq_error_iff
  simp only [Nat.zero_add] at refused
  rw [← refused, ofSegments]
  cases texts with
  | nil => simp [parseSegments, eq_comm]
  | cons text texts =>
      cases read : parseSegments 0 (text :: texts) with
      | error _ => simp
      | ok segments =>
          cases parseSegments_eq_ok_iff.mp read with
          | cons _ _ => simp

/-! ## Reading texts -/

theorem map_trimmed_wordsOf (text : String) :
    (Text.wordsOf text).map Text.trimmed = Text.wordsOf text := by
  conv_rhs => rw [← List.map_id (Text.wordsOf text)]
  apply List.map_congr_left
  intro token member
  exact Text.trimmed_of_isWord (Text.isWord_of_mem_wordsOf member)

theorem parse_eq_ok_iff {text : String} {pattern : ScopePattern} :
    parse text = .ok pattern ↔
      Text.wordsOf text ≠ [] ∧ WrittenFrom 0 (Text.wordsOf text) pattern.segments := by
  rw [parse, ofSegments_eq_ok_iff_written, map_trimmed_wordsOf]

theorem parse_eq_error_iff {text : String} {error : PatternError} :
    parse text = .error error ↔
      Text.wordsOf text = [] ∧ error = .empty ∨
      ∃ position token, FirstUnwritten 0 (Text.wordsOf text) position token ∧
        error = Segment.refusal position token := by
  rw [parse, ofSegments_eq_error_iff, map_trimmed_wordsOf]

theorem render_of_written {tokens : List String} {pattern : ScopePattern}
    (written : WrittenFrom 0 tokens pattern.segments) :
    pattern.render = " ".intercalate tokens := by
  rw [render, written.map_render, Text.joined_eq_intercalate]

/-- A pattern is read back from the words that stand for its segments. -/
theorem parse_render {tokens : List String} {pattern : ScopePattern} (nonempty : tokens ≠ [])
    (written : WrittenFrom 0 tokens pattern.segments) : parse pattern.render = .ok pattern := by
  rw [parse_eq_ok_iff, render_of_written written, Text.wordsOf_intercalate written.isWord]
  exact ⟨nonempty, written⟩

/-- A text is read exactly when it has words and each of them stands for a segment at its place.
Otherwise there is no word, or the first one that stands for none decides the error. What is read is
shown by its words and is read back from them, and so is what is read from a list of segments. -/
theorem parse_follows_grammar (text : String) :
    (∀ tokens : List String, Text.Spaced text.toList (tokens.map String.toList) ↔
      Text.wordsOf text = tokens) ∧
    ((∃ pattern, parse text = .ok pattern) ↔
      Text.wordsOf text ≠ [] ∧
        ∀ position token, (Text.wordsOf text)[position]? = some token →
          ∃ segment, Segment.Written position token segment) ∧
    (∀ error, parse text = .error error ↔
      Text.wordsOf text = [] ∧ error = .empty ∨
      ∃ position token, FirstUnwritten 0 (Text.wordsOf text) position token ∧
        error = Segment.refusal position token) ∧
    (∀ pattern, parse text = .ok pattern →
      pattern.render = " ".intercalate (Text.wordsOf text) ∧ parse pattern.render = .ok pattern) ∧
    ∀ texts pattern, ofSegments texts = .ok pattern → parse pattern.render = .ok pattern := by
  refine ⟨fun _ => Text.spaced_iff_wordsOf, ?_, fun _ => parse_eq_error_iff, ?_, ?_⟩
  · have each : (∃ segments, WrittenFrom 0 (Text.wordsOf text) segments) ↔ _ :=
      exists_writtenFrom_iff
    simp only [Nat.zero_add] at each
    rw [← each]
    constructor
    · rintro ⟨pattern, read⟩
      obtain ⟨nonempty, written⟩ := parse_eq_ok_iff.mp read
      exact ⟨nonempty, pattern.segments, written⟩
    · rintro ⟨nonempty, segments, written⟩
      exact ⟨⟨segments⟩, parse_eq_ok_iff.mpr ⟨nonempty, written⟩⟩
  · intro pattern read
    obtain ⟨nonempty, written⟩ := parse_eq_ok_iff.mp read
    exact ⟨render_of_written written, parse_render nonempty written⟩
  · intro texts pattern read
    obtain ⟨nonempty, written⟩ := ofSegments_eq_ok_iff_written.mp read
    exact parse_render (by simpa using nonempty) written

def outerSource : ScopePattern :=
  ⟨[.anyDepth, .label ["ImportDeclaration"] (some "source"), .label ["Literal", "string"] none]⟩

theorem parse_follows_grammar_outerSource :
    parse " ** ImportDeclaration[source]\u2003Literal.string" = .ok outerSource ∧
      ofSegments ["**", "ImportDeclaration[source] ", "\tLiteral.string"] = .ok outerSource ∧
      outerSource.render = "** ImportDeclaration[source] Literal.string" ∧
        parse outerSource.render = .ok outerSource ∧
      ∃ position token, FirstUnwritten 0 (Text.wordsOf "Program ** 1a") position token ∧
        .misplacedAnyDepth 1 = Segment.refusal position token := by
  have read : parse " ** ImportDeclaration[source]\u2003Literal.string" = .ok outerSource := by cbv
  have listed : ofSegments ["**", "ImportDeclaration[source] ", "\tLiteral.string"] =
    .ok outerSource := by cbv
  have refused : parse "Program ** 1a" = .error (.misplacedAnyDepth 1) := by cbv
  obtain ⟨_, _, _, shown, fromList⟩ :=
    parse_follows_grammar " ** ImportDeclaration[source]\u2003Literal.string"
  obtain ⟨_, _, errors, _, _⟩ := parse_follows_grammar "Program ** 1a"
  have words : Text.wordsOf " ** ImportDeclaration[source]\u2003Literal.string" =
      ["**", "ImportDeclaration[source]", "Literal.string"] := by cbv
  refine ⟨read, listed, ?_, fromList _ _ listed, ?_⟩
  · rw [(shown _ read).1, words]
    rfl
  · cases (errors _).mp refused with
    | inl empty => exact absurd empty.2 (by simp)
    | inr first => exact first

end Spellspan.Scope.ScopePattern
