import Mathlib
import Spellspan.Proofs.TextPieces
import Spellspan.Text.WhiteSpace

/-!
Words of a text. White space stands between each two of them, and nothing else does, so a text that
is put together from words with blanks between them has these words. A word may end in a part in
brackets, which starts at the first bracket that opens.
-/
set_option autoImplicit false

namespace Spellspan.Text

/-! ## Words and white space -/

/-- A word has at least one character, and none that is white space. -/
structure IsWord (text : List Char) : Prop where
  nonempty : text ≠ []
  solid : ∀ c ∈ text, isWhiteSpace c = false

/-- A text and its words in order. White space may stand around every word, and stands between each
two of them. -/
inductive Spaced : List Char → List (List Char) → Prop where
  | nil : Spaced [] []
  | white {c : Char} {text : List Char} {found : List (List Char)} (white : isWhiteSpace c = true)
      (rest : Spaced text found) :
      Spaced (c :: text) found
  | last {word : List Char} (isWord : IsWord word) : Spaced word [word]
  | word {word text : List Char} {c : Char} {found : List (List Char)} (isWord : IsWord word)
      (white : isWhiteSpace c = true)
      (rest : Spaced text found) : Spaced (word ++ c :: text) (word :: found)

section
variable {word text : List Char} {c : Char}

theorem words_white_cons (white : isWhiteSpace c = true) : words (c :: text) = words text := by
  simp [words, pieces, white]

theorem words_of_isWord (isWord : IsWord word) : words word = [word] := by
  rw [words, pieces_eq_splitOnP, List.splitOnP_eq_singleton isWord.solid]
  simp [isWord.nonempty]

theorem words_append_white (isWord : IsWord word) (white : isWhiteSpace c = true) :
    words (word ++ c :: text) = word :: words text := by
  rw [words, words, pieces_eq_splitOnP, pieces_eq_splitOnP,
    List.splitOnP_append_cons_of_forall_mem isWord.solid _ white, List.filter_cons_of_pos]
  simp [isWord.nonempty]

theorem isWord_of_mem_words (member : word ∈ words text) : IsWord word := by
  obtain ⟨cut, nonempty⟩ := List.mem_filter.mp member
  exact ⟨by simpa using nonempty, not_separates_of_mem_pieces cut⟩

end

theorem Spaced.words_eq {text : List Char} {found : List (List Char)} (spaced : Spaced text found) :
    words text = found := by
  induction spaced with
  | nil => rfl
  | white white _ ih => rw [words_white_cons white, ih]
  | last isWord => exact words_of_isWord isWord
  | word isWord white _ ih => rw [words_append_white isWord white, ih]

/-- The words of a text are there. The induction carries the beginning of a word that is still going
on. -/
theorem spaced_words_append (front : List Char) (solid : ∀ c ∈ front, isWhiteSpace c = false)
    (text : List Char) :
    Spaced (front ++ text) (words (front ++ text)) := by
  induction text generalizing front with
  | nil =>
      rw [List.append_nil]
      by_cases empty : front = []
      · subst empty
        exact .nil
      · rw [words_of_isWord ⟨empty, solid⟩]
        exact .last ⟨empty, solid⟩
  | cons c text ih =>
      cases white : isWhiteSpace c with
      | false =>
          have longer : ∀ d ∈ front ++ [c], isWhiteSpace d = false := by
            intro d member
            cases List.mem_append.mp member with
            | inl earlier => exact solid d earlier
            | inr last => exact List.mem_singleton.mp last ▸ white
          rw [List.append_cons]
          exact ih (front ++ [c]) longer
      | true =>
          have rest : Spaced text (words text) := ih [] (by simp)
          by_cases empty : front = []
          · subst empty
            rw [List.nil_append, words_white_cons white]
            exact .white white rest
          · rw [words_append_white ⟨empty, solid⟩ white]
            exact .word ⟨empty, solid⟩ white rest

theorem spaced_iff {text : List Char} {found : List (List Char)} : Spaced text found ↔
    words text = found := by
  constructor
  · exact Spaced.words_eq
  · intro same
    rw [← same]
    exact spaced_words_append [] (by simp) text

theorem spaced_intercalate {tokens : List (List Char)} (solid : ∀ token ∈ tokens, IsWord token) :
    Spaced ([' '].intercalate tokens) tokens := by
  induction tokens with
  | nil => exact .nil
  | cons token rest ih =>
      obtain ⟨first, others⟩ := List.forall_mem_cons.mp solid
      cases rest with
      | nil =>
          rw [List.intercalate_singleton]
          exact .last first
      | cons next rest =>
          have blank : isWhiteSpace ' ' = true := by decide
          rw [List.intercalate_cons_cons, List.append_assoc]
          exact .word first blank (ih others)

/-! ## Words of strings -/

theorem spaced_iff_wordsOf {text : String} {tokens : List String} :
    Spaced text.toList (tokens.map String.toList) ↔ wordsOf text = tokens := by
  have back : ∀ found : List (List Char), found = tokens.map String.toList ↔
      found.map String.ofList = tokens := by
    intro found
    constructor
    · intro same
      simp [same, Function.comp_def]
    · intro same
      simp [← same, Function.comp_def]
  rw [spaced_iff, wordsOf, back]

theorem wordsOf_intercalate {tokens : List String} (solid : ∀ token ∈ tokens, IsWord token.toList) :
    wordsOf (" ".intercalate tokens) = tokens := by
  rw [← spaced_iff_wordsOf, String.toList_intercalate]
  apply spaced_intercalate
  intro token member
  obtain ⟨text, listed, rfl⟩ := List.mem_map.mp member
  exact solid text listed

theorem isWord_of_mem_wordsOf {text token : String} (member : token ∈ wordsOf text) :
    IsWord token.toList := by
  obtain ⟨word, listed, rfl⟩ := List.mem_map.mp member
  rw [String.toList_ofList]
  exact isWord_of_mem_words listed

theorem trimmed_of_isWord {text : String} (isWord : IsWord text.toList) : trimmed text = text := by
  have kept : ∀ letters : List Char, (∀ c ∈ letters, isWhiteSpace c = false) →
      letters.dropWhile isWhiteSpace = letters := by
    intro letters solid
    rw [List.dropWhile_eq_self_iff]
    intro bound
    simp [solid _ (List.getElem_mem bound)]
  rw [trimmed, trim, kept _ isWord.solid, kept _ (by simpa using isWord.solid),
    List.reverse_reverse, String.ofList_toList]

/-! ## Brackets -/

/-- A text by its first bracket that opens: there is none, or the text ends in a bracket that
closes, or it does not. -/
inductive Bracketing : List Char → Prop where
  | plain {text : List Char} (free : '[' ∉ text) : Bracketing text
  | closed {front inner : List Char} (free : '[' ∉ front) :
      Bracketing (front ++ '[' :: (inner ++ [']']))
  | unclosed {front rest : List Char} (free : '[' ∉ front) (unended : rest.getLast? ≠ some ']') :
      Bracketing (front ++ '[' :: rest)

theorem bracketing (text : List Char) : Bracketing text := by
  by_cases opens : '[' ∈ text
  · obtain ⟨front, rest, rfl, free⟩ := List.eq_append_cons_of_mem opens
    by_cases ended : rest.getLast? = some ']'
    · rw [← List.dropLast_append_getLast? _ ended]
      exact .closed free
    · exact .unclosed free ended
  · exact .plain opens

theorem toList_bracketed (front inner : String) :
    (front ++ "[" ++ inner ++ "]").toList = front.toList ++ '[' :: (inner.toList ++ [']']) := by
  simp

theorem solid_bracketed {front inner : List Char} :
    (∀ c ∈ front ++ '[' :: (inner ++ [']']), isWhiteSpace c = false) ↔
      (∀ c ∈ front, isWhiteSpace c = false) ∧ ∀ c ∈ inner, isWhiteSpace c = false := by
  have brackets : isWhiteSpace '[' = false ∧ isWhiteSpace ']' = false := by decide
  simp [or_imp, forall_and, brackets]

theorem takeWhile_of_plain {text : List Char} (free : '[' ∉ text) :
    text.takeWhile (· != '[') = text := by
  rw [List.takeWhile_eq_self_iff]
  intro c member
  exact bne_iff_ne.mpr fun same => free (same ▸ member)

theorem takeWhile_of_bracket {front : List Char} (free : '[' ∉ front) (rest : List Char) :
    (front ++ '[' :: rest).takeWhile (· != '[') = front := by
  have before : ∀ c ∈ front, (c != '[') = true := by
    intro c member
    exact bne_iff_ne.mpr fun same => free (same ▸ member)
  rw [List.takeWhile_append_of_pos before, List.takeWhile_cons_of_neg (by simp), List.append_nil]

end Spellspan.Text
