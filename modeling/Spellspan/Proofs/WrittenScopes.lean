import Mathlib
import Spellspan.Proofs.DecisionMemos
import Spellspan.Proofs.TextWords

/-!
Scope paths as texts. A step is read from the first bracket that opens to the bracket at its end, so
a key may hold brackets and a label may not. Paths that can be read are told apart by their texts,
and a memo that is asked for them is never wrong.
-/
set_option autoImplicit false

namespace Spellspan.Scope

/-- Steps that have a text form: the label is a word up to the bracket, and the key is a word. -/
structure ScopeEntry.Writable (entry : ScopeEntry) : Prop where
  label : Text.IsWord entry.label.toList
  bracketless : '[' ∉ entry.label.toList
  key : ∀ key, entry.key = some key → Text.IsWord key.toList

def ScopePath.Writable (path : ScopePath) : Prop :=
  ∀ entry ∈ path.entries, entry.Writable

/-! ## Single steps -/

theorem ScopeEntry.Writable.isWord {entry : ScopeEntry} (writable : entry.Writable) :
    Text.IsWord entry.render.toList := by
  obtain ⟨label, key⟩ := entry
  have word : Text.IsWord label.toList := writable.label
  cases key with
  | none => exact word
  | some key =>
      rw [render, Text.toList_bracketed]
      exact ⟨by simp, Text.solid_bracketed.mpr ⟨word.solid, (writable.key key rfl).solid⟩⟩

namespace ScopePath

theorem parseEntry_of_plain {word : List Char} (free : '[' ∉ word) :
    parseEntry? word = some ⟨String.ofList word, none⟩ := by
  unfold parseEntry?
  simp [Text.takeWhile_of_plain free]

theorem parseEntry_of_closed {front : List Char} (free : '[' ∉ front) (inner : List Char) :
    parseEntry? (front ++ '[' :: (inner ++ [']'])) =
      if inner ≠ [] ∧ front ≠ [] then some ⟨String.ofList front, some (String.ofList inner)⟩
      else none := by
  unfold parseEntry?
  simp [Text.takeWhile_of_bracket free]

theorem parseEntry_of_unclosed {front rest : List Char} (free : '[' ∉ front)
    (unended : rest.getLast? ≠ some ']') :
    parseEntry? (front ++ '[' :: rest) = none := by
  unfold parseEntry?
  simp [Text.takeWhile_of_bracket free, unended]

theorem parseEntry_render {entry : ScopeEntry} (writable : entry.Writable) :
    parseEntry? entry.render.toList = some entry := by
  obtain ⟨label, key⟩ := entry
  have bracketless : '[' ∉ label.toList := writable.bracketless
  cases key with
  | none => rw [ScopeEntry.render, parseEntry_of_plain bracketless, String.ofList_toList]
  | some key =>
      have filled : key.toList ≠ [] ∧ label.toList ≠ [] :=
        ⟨(writable.key key rfl).nonempty, writable.label.nonempty⟩
      rw [ScopeEntry.render, Text.toList_bracketed, parseEntry_of_closed bracketless, if_pos filled,
        String.ofList_toList, String.ofList_toList]

theorem parseEntry_eq_some_iff {word : List Char} {entry : ScopeEntry} (isWord : Text.IsWord word) :
    parseEntry? word = some entry ↔ entry.Writable ∧ entry.render = String.ofList word := by
  constructor
  · intro read
    cases Text.bracketing word with
    | plain free =>
        rw [parseEntry_of_plain free] at read
        obtain rfl := Option.some.inj read
        refine ⟨⟨?_, ?_, ?_⟩, rfl⟩
        · rwa [String.toList_ofList]
        · rwa [String.toList_ofList]
        · intro key keyed
          cases keyed
    | @closed front inner free =>
        rw [parseEntry_of_closed free, Option.ite_none_right_eq_some] at read
        obtain ⟨⟨keyed, labelled⟩, rest⟩ := read
        obtain rfl := Option.some.inj rest
        obtain ⟨labelSolid, keySolid⟩ := Text.solid_bracketed.mp isWord.solid
        refine ⟨⟨?_, ?_, ?_⟩, ?_⟩
        · rw [String.toList_ofList]
          exact ⟨labelled, labelSolid⟩
        · rwa [String.toList_ofList]
        · intro key same
          obtain rfl := Option.some.inj same
          rw [String.toList_ofList]
          exact ⟨keyed, keySolid⟩
        · rw [← String.toList_inj, ScopeEntry.render, Text.toList_bracketed]
          simp only [String.toList_ofList]
    | unclosed free unended =>
        rw [parseEntry_of_unclosed free unended] at read
        cases read
  · intro written
    obtain ⟨writable, rendered⟩ := written
    have read := parseEntry_render writable
    rwa [rendered, String.toList_ofList] at read

/-! ## Paths -/

theorem parseEntries_cons_eq_ok_iff {word : List Char} {rest : List (List Char)}
    {entries : List ScopeEntry} :
    parseEntries (word :: rest) = .ok entries ↔
      ∃ entry others, parseEntry? word = some entry ∧ parseEntries rest = .ok others ∧
        entries = entry :: others := by
  rw [parseEntries]
  cases parseEntry? word with
  | none => simp
  | some entry =>
      cases parseEntries rest with
      | error _ => simp [Except.map]
      | ok others => simp [Except.map, eq_comm]

theorem parseEntries_eq_ok_iff {tokens : List (List Char)} {entries : List ScopeEntry}
    (solid : ∀ word ∈ tokens, Text.IsWord word) :
    parseEntries tokens = .ok entries ↔
      (∀ entry ∈ entries, entry.Writable) ∧ entries.map ScopeEntry.render =
        tokens.map String.ofList := by
  induction tokens generalizing entries with
  | nil =>
      constructor
      · intro read
        obtain rfl := Except.ok.inj read
        simp
      · intro written
        obtain ⟨_, rendered⟩ := written
        obtain rfl := List.map_eq_nil_iff.mp rendered
        rfl
  | cons word rest ih =>
      obtain ⟨isWord, later⟩ := List.forall_mem_cons.mp solid
      rw [parseEntries_cons_eq_ok_iff]
      constructor
      · intro parsed
        obtain ⟨entry, others, first, read, split⟩ := parsed
        obtain ⟨writable, rendered⟩ := (parseEntry_eq_some_iff isWord).mp first
        obtain ⟨allWritable, allRendered⟩ := (ih later).mp read
        rw [split, List.map_cons, List.map_cons, rendered, allRendered]
        exact ⟨List.forall_mem_cons.mpr ⟨writable, allWritable⟩, rfl⟩
      · intro written
        obtain ⟨writable, rendered⟩ := written
        cases entries with
        | nil => cases rendered
        | cons entry others =>
            obtain ⟨here, there⟩ := List.forall_mem_cons.mp writable
            obtain ⟨first, more⟩ := List.cons.inj rendered
            exact ⟨entry, others, (parseEntry_eq_some_iff isWord).mpr ⟨here, first⟩,
              (ih later).mpr ⟨there, more⟩, rfl⟩

/-- A text is read as a path exactly when the steps of the path have its words as their texts. -/
theorem parse_eq_ok_iff {text : String} {path : ScopePath} :
    parse text = .ok path ↔
      path.Writable ∧ path.entries.map ScopeEntry.render = Text.wordsOf text := by
  have entries : parse text = .ok path ↔
      parseEntries (Text.words text.toList) = .ok path.entries := by
    rw [parse]
    cases parseEntries (Text.words text.toList) with
    | error _ => simp [Except.map]
    | ok entries =>
        obtain ⟨others⟩ := path
        simp [Except.map]
  rw [entries, parseEntries_eq_ok_iff fun _ => Text.isWord_of_mem_words]
  rfl

theorem render_eq_intercalate (path : ScopePath) :
    path.render = " ".intercalate (path.entries.map ScopeEntry.render) := by
  rw [render, Text.joined_eq_intercalate]

theorem Writable.parse_render {path : ScopePath} (writable : path.Writable) :
    parse path.render = .ok path := by
  have solid : ∀ token ∈ path.entries.map ScopeEntry.render, Text.IsWord token.toList := by
    intro token member
    obtain ⟨entry, listed, rfl⟩ := List.mem_map.mp member
    exact (writable entry listed).isWord
  rw [parse_eq_ok_iff, render_eq_intercalate, Text.wordsOf_intercalate solid]
  exact ⟨writable, rfl⟩

theorem render_injOn_writable : Set.InjOn render {path | path.Writable} := by
  intro path writable other otherWritable same
  have read := Writable.parse_render writable
  rw [same, Writable.parse_render otherWritable] at read
  exact (Except.ok.inj read).symm

/-! ## Memos of paths that were read -/

theorem firstAlike_of_writable {paths : List ScopePath} {path : ScopePath}
    (writable : ∀ other ∈ paths, other.Writable) (listed : path ∈ paths)
    : firstAlike paths path = path := by
  rw [firstAlike]
  cases found : paths.find? fun other => other.render == path.render with
  | none => rfl
  | some first =>
      have same : first.render = path.render := by simpa using List.find?_some found
      exact render_injOn_writable (writable first (List.mem_of_find?_eq_some found))
        (writable path listed) same

theorem card_texts_of_writable {paths : List ScopePath} (writable : ∀ path ∈ paths, path.Writable) :
    (paths.map render).toFinset.card = paths.toFinset.card := by
  have texts : (paths.map render).toFinset = paths.toFinset.image render := by
    ext text
    simp
  rw [texts, Finset.card_image_of_injOn]
  intro path listed other otherListed same
  exact render_injOn_writable (writable path (by simpa using listed))
    (writable other (by simpa using otherListed)) same

/-- The text of a path is read back as the path, and what is read has such a text, up to the white
space between its words. So a memo answers paths that were read as if it had no memory, and makes
one decision for each of them. -/
theorem text_tells_path :
    (∀ path : ScopePath, path.Writable → parse path.render = .ok path) ∧
    (∀ text path, parse text = .ok path → path.Writable ∧
      path.render = " ".intercalate (Text.wordsOf text)) ∧
    ∀ (rules : List ScopeRule) (paths : List ScopePath),
      (∀ path ∈ paths, ∃ text, parse text = .ok path) →
      (DecisionMemo.decideEach rules {} paths).1 = paths.map (Decision.ofRules rules) ∧
      (DecisionMemo.decideEach rules {} paths).2.misses = paths.toFinset.card ∧
      (DecisionMemo.decideEach rules {} paths).2.hits +
        (DecisionMemo.decideEach rules {} paths).2.misses = paths.length := by
  refine ⟨fun _ => Writable.parse_render, ?_, ?_⟩
  · intro text path read
    obtain ⟨writable, words⟩ := parse_eq_ok_iff.mp read
    exact ⟨writable, by rw [render_eq_intercalate, words]⟩
  · intro rules paths read
    have writable : ∀ path ∈ paths, path.Writable := by
      intro path listed
      obtain ⟨text, parsed⟩ := read path listed
      exact (parse_eq_ok_iff.mp parsed).1
    obtain ⟨answers, counted⟩ :=
      (DecisionMemo.remembers_empty rules).decideEach DecisionMemo.tallies_empty paths
    rw [List.nil_append] at answers counted
    refine ⟨?_, counted.misses.trans (card_texts_of_writable writable), counted.total⟩
    rw [answers]
    apply List.map_congr_left
    intro path listed
    rw [firstAlike_of_writable writable listed]

def bracketedKey : ScopePath :=
  ⟨[⟨"Block", some "body][0]"⟩, ⟨"Text", none⟩]⟩

theorem text_tells_path_bracketedKey :
    parse "Block[body][0]]\u2003Text " = .ok bracketedKey ∧ bracketedKey.Writable ∧
      bracketedKey.render = "Block[body][0]] Text" ∧ parse bracketedKey.render = .ok bracketedKey ∧
      (DecisionMemo.decideEach [⟨⟨[.label ["Text"] none]⟩, true⟩] {}
        [bracketedKey, ⟨[]⟩, bracketedKey]).1 =
        [⟨true, 8⟩, ⟨false, 0⟩, ⟨true, 8⟩] ∧
      (DecisionMemo.decideEach [⟨⟨[.label ["Text"] none]⟩, true⟩] {}
        [bracketedKey, ⟨[]⟩, bracketedKey]).2.misses = 2 := by
  have read : parse "Block[body][0]]\u2003Text " = .ok bracketedKey := by cbv
  have words : Text.wordsOf "Block[body][0]]\u2003Text " = ["Block[body][0]]", "Text"] := by cbv
  have empty : parse "" = .ok ⟨[]⟩ := by cbv
  have all : ∀ path ∈ [bracketedKey, ⟨[]⟩, bracketedKey], ∃ text, parse text = .ok path := by
    intro path listed
    simp only [List.mem_cons, List.not_mem_nil, or_false] at listed
    obtain rfl | rfl | rfl := listed
    · exact ⟨_, read⟩
    · exact ⟨_, empty⟩
    · exact ⟨_, read⟩
  obtain ⟨back, shown, remembered⟩ := text_tells_path
  obtain ⟨writable, text⟩ := shown _ _ read
  obtain ⟨answers, decided, _⟩ := remembered [⟨⟨[.label ["Text"] none]⟩, true⟩] _ all
  refine ⟨read, writable, ?_, back _ writable, ?_, ?_⟩
  · rw [text, words]
    rfl
  · rw [answers]
    rfl
  · rw [decided]
    rfl

end ScopePath
end Spellspan.Scope
