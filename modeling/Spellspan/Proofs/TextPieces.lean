import Mathlib
import Spellspan.Text.Pieces

/-!
Cutting and joining texts. The pieces of a text hold no separator and give the text back when they
are joined, and they are the only texts that do.
-/
set_option autoImplicit false

namespace Spellspan.Text

theorem pieces_eq_splitOnP (separates : Char → Bool) (text : List Char) :
    pieces separates text = text.splitOnP separates := by
  induction text with
  | nil => rfl
  | cons c rest ih =>
      rw [pieces, List.splitOnP_cons_eq_if_modifyHead, ih]
      split
      · rfl
      · obtain ⟨piece, more, cut⟩ :=
          List.exists_cons_of_ne_nil (List.splitOnP_ne_nil separates rest)
        rw [cut]
        rfl

theorem not_separates_of_mem_pieces {separates : Char → Bool} {text piece : List Char}
    (cut : piece ∈ pieces separates text) :
    ∀ c ∈ piece, separates c = false := by
  induction text generalizing piece with
  | nil =>
      obtain rfl : piece = [] := by simpa [pieces] using cut
      simp
  | cons c rest ih =>
      rw [pieces] at cut
      split at cut
      · rcases List.mem_cons.mp cut with rfl | later
        · simp
        · exact ih later
      · next apart =>
          have kept : separates c = false := by simpa using apart
          cases pieces_eq : pieces separates rest with
          | nil =>
              rw [pieces_eq] at cut
              obtain rfl : piece = [c] := by simpa [extendFirst] using cut
              simpa using kept
          | cons first more =>
              rw [pieces_eq] at cut ih
              rcases List.mem_cons.mp cut with rfl | later
              · exact List.forall_mem_cons.mpr ⟨kept, ih List.mem_cons_self⟩
              · exact ih (List.mem_cons_of_mem _ later)

theorem joined_eq_intercalate (separator : String) (texts : List String) :
    joined separator texts = separator.intercalate texts := by
  induction texts with
  | nil => rfl
  | cons text rest ih =>
      cases rest with
      | nil => simp [joined]
      | cons next rest => rw [joined, ih, String.intercalate_cons_cons]

theorem toList_joined (separator : String) (texts : List String) :
    (joined separator texts).toList = separator.toList.intercalate (texts.map String.toList) := by
  rw [joined_eq_intercalate, String.toList_intercalate]

theorem piecesOf_eq_splitOn (separator : Char) (text : String) :
    piecesOf separator text = (text.toList.splitOn separator).map String.ofList := by
  rw [piecesOf, pieces_eq_splitOnP, List.splitOn]

theorem joined_piecesOf (separator : Char) (text : String) :
    joined (String.singleton separator) (piecesOf separator text) = text := by
  apply String.toList_inj.mp
  rw [toList_joined, piecesOf_eq_splitOn, List.map_map]
  simp [Function.comp_def, List.intercalate_splitOn]

theorem notMem_of_mem_piecesOf {separator : Char} {text piece : String}
    (cut : piece ∈ piecesOf separator text) :
    separator ∉ piece.toList := by
  obtain ⟨letters, member, rfl⟩ := List.mem_map.mp cut
  intro inside
  have apart := not_separates_of_mem_pieces member separator (by simpa using inside)
  simp at apart

theorem piecesOf_joined {separator : Char} {texts : List String}
    (free : ∀ text ∈ texts, separator ∉ text.toList) (nonempty : texts ≠ []) :
    piecesOf separator (joined (String.singleton separator) texts) = texts := by
  have cut := List.splitOn_intercalate separator (List.forall_mem_map.mpr free)
    (by simpa using nonempty)
  rw [piecesOf_eq_splitOn, toList_joined, String.toList_singleton, cut, List.map_map]
  simp [Function.comp_def]

/-- What holds of the characters of a separator and of some texts holds of those of the texts with
the separator between them. -/
theorem forall_mem_intercalate {P : Char → Prop} {separator : String} {texts : List String}
    (between : ∀ c ∈ separator.toList, P c) (inside : ∀ text ∈ texts, ∀ c ∈ text.toList, P c) :
    ∀ c ∈ (separator.intercalate texts).toList, P c := by
  induction texts with
  | nil => simp
  | cons text rest ih =>
      obtain ⟨first, others⟩ := List.forall_mem_cons.mp inside
      cases rest with
      | nil => simpa using first
      | cons next rest =>
          rw [String.intercalate_cons_cons, String.toList_append, String.toList_append]
          intro c member
          simp only [List.mem_append] at member
          obtain (here | here) | later := member
          · exact first c here
          · exact between c here
          · exact ih others c later

end Spellspan.Text
