import Mathlib
import Spellspan.Proofs.ByteOffsets
import Spellspan.Tree.Bundle

/-!
Offsets in UTF-16 code units. A counted offset belongs to the longest beginning of the text that has
no more code units, and its byte offset is the number of bytes of that beginning: so offsets of
character boundaries are exact, an offset inside a pair of surrogates goes back to the start of its
character, and one past the end comes to the end. The nodes of a bundle are its records in the order
in which they are read, and the text under a node is the text between the offsets of its record.
-/
set_option autoImplicit false

namespace Spellspan

namespace Text

def utf16Length : List Char → Nat
  | [] => 0
  | c :: rest => codeUnits c + utf16Length rest

/-- Byte offset at which the character holding code unit `offset` starts; the end of the text past
its last unit. -/
def byteOfUnit : List Char → Nat → Nat
  | [], _ => 0
  | c :: rest, offset =>
    if offset < codeUnits c then 0 else c.utf8Size + byteOfUnit rest (offset - codeUnits c)

theorem unitTable_ne_nil (start : Nat) (text : List Char) : unitTable start text ≠ [] := by
  cases text with
  | nil => exact List.cons_ne_nil _ _
  | cons c rest => exact List.append_ne_nil_of_right_ne_nil _ (unitTable_ne_nil _ rest)

/-- The table holds for each code unit the start of its character, and at last the end of the
text. -/
theorem lookup_unitTable (start : Nat) (text : List Char) (offset : Nat) :
    (unitTable start text)[offset]?.getD ((unitTable start text).getLastD 0) =
      start + byteOfUnit text offset := by
  induction text generalizing start offset with
  | nil =>
      cases offset with
      | zero => rfl
      | succ offset => rfl
  | cons c rest ih =>
      have last : (unitTable start (c :: rest)).getLastD 0 =
          (unitTable (start + c.utf8Size) rest).getLastD 0 := by
        simp only [unitTable, List.getLastD_eq_getLast?,
          List.getLast?_append_of_ne_nil _ (unitTable_ne_nil _ rest)]
      rw [last, unitTable, byteOfUnit]
      split
      · next inside => simp [List.getElem?_append_left, inside]
      · next outside =>
          rw [List.getElem?_append_right (by simpa using outside), List.length_replicate, ih,
            Nat.add_assoc]

/-- Looking up an offset in the table goes back to the start of its character. -/
theorem toByte_utf16 (text : List Char) : toByte text .utf16 = byteOfUnit text := by
  funext offset
  rw [← Nat.zero_add (byteOfUnit text offset), ← lookup_unitTable]
  rfl

theorem codeUnits_pos (c : Char) : 0 < codeUnits c := by
  unfold codeUnits
  split <;> omega

/-- Within the code units of a character, an offset is the byte at which the character starts. -/
theorem byteOfUnit_within {before : List Char} {c : Char} {after : List Char} {offset : Nat}
    (reached : utf16Length before ≤ offset) (inside : offset < utf16Length before + codeUnits c) :
    byteOfUnit (before ++ c :: after) offset = byteLength before := by
  induction before generalizing offset with
  | nil =>
      rw [utf16Length, Nat.zero_add] at inside
      rw [List.nil_append, byteOfUnit, if_pos inside]
      rfl
  | cons first before ih =>
      rw [utf16Length] at reached inside
      rw [List.cons_append, byteOfUnit, if_neg (by omega), ih (by omega) (by omega)]
      rfl

theorem byteOfUnit_past {text : List Char} {offset : Nat} (past : utf16Length text ≤ offset) :
    byteOfUnit text offset = byteLength text := by
  induction text generalizing offset with
  | nil => rfl
  | cons c rest ih =>
      rw [utf16Length] at past
      have positive := codeUnits_pos c
      rw [byteOfUnit, if_neg (by omega), ih (by omega)]
      rfl

/-- The code units of a beginning of a text count as many as its bytes. -/
theorem byteOfUnit_append (before after : List Char) :
    byteOfUnit (before ++ after) (utf16Length before) = byteLength before := by
  cases after with
  | nil =>
      rw [List.append_nil]
      exact byteOfUnit_past (Nat.le_refl _)
  | cons c after => exact byteOfUnit_within (Nat.le_refl _) (Nat.lt_add_of_pos_right (codeUnits_pos c))

theorem monotone_byteOfUnit (text : List Char) : Monotone (byteOfUnit text) := by
  induction text with
  | nil => exact fun _ _ _ => Nat.le_refl _
  | cons c rest ih =>
      intro first second ordered
      simp only [byteOfUnit]
      by_cases early : first < codeUnits c
      · rw [if_pos early]
        exact Nat.zero_le _
      · rw [if_neg early, if_neg (by omega)]
        exact Nat.add_le_add_left (ih (Nat.sub_le_sub_right ordered _)) _

theorem isBoundary_byteOfUnit (text : List Char) (offset : Nat) :
    IsBoundary text (byteOfUnit text offset) := by
  induction text generalizing offset with
  | nil => exact ⟨[], [], rfl, rfl⟩
  | cons c rest ih =>
      rw [byteOfUnit]
      split
      · exact ⟨[], c :: rest, rfl, rfl⟩
      · obtain ⟨before, after, divided, length⟩ := ih (offset - codeUnits c)
        exact ⟨c :: before, after, congrArg (c :: ·) divided, congrArg (c.utf8Size + ·) length⟩

/-- The text between two offsets in code units can be cut out in bytes. -/
theorem slice?_byteOfUnit (before middle after : List Char) :
    slice? (before ++ middle ++ after) (byteOfUnit (before ++ middle ++ after) (utf16Length before))
      (byteOfUnit (before ++ middle ++ after) (utf16Length (before ++ middle))) = some middle := by
  have first : byteOfUnit (before ++ middle ++ after) (utf16Length before) = byteLength before := by
    rw [List.append_assoc, byteOfUnit_append]
  rw [first, byteOfUnit_append]
  exact slice?_eq_some_iff.mpr ⟨before, after, rfl, rfl, rfl⟩

end Text

namespace Tree

/-! ## The records of a bundle -/

def Node.bare (node : Node) : Node :=
  { node with slots := [] }

namespace Builder

def bareNodes (builder : Builder) : List Node :=
  builder.nodes.toList.map Node.bare

theorem bareNodes_push (builder : Builder) (node : Node) :
    (builder.push node).2.bareNodes = builder.bareNodes ++ [node.bare] := by
  simp [push, bareNodes]

theorem bareNodes_setSlot (builder : Builder) (id : NodeId) (name : String) (slot : Slot) :
    (builder.setSlot id name slot).bareNodes = builder.bareNodes := by
  apply List.ext_getElem?
  intro position
  simp only [bareNodes, setSlot, modify, List.getElem?_map, Array.getElem?_toList,
    Array.getElem?_modify]
  split
  · cases builder.nodes[position]? <;> rfl
  · rfl

end Builder

namespace Bundle

mutual

def records : Json → List (List (String × Json))
  | .object fields =>
      if (Json.lookup "type" fields).isSome then fields :: fieldRecords fields else []
  | .array items => itemRecords items
  | _ => []

def itemRecords : List Json → List (List (String × Json))
  | [] => []
  | item :: rest => records item ++ itemRecords rest

def fieldRecords : List (String × Json) → List (List (String × Json))
  | [] => []
  | (key, value) :: rest => if isSkipped key value then fieldRecords rest
      else records value ++ fieldRecords rest

end

section
variable (text : List Char) (encoding : Text.OffsetEncoding)

mutual

theorem bareNodes_readSlot (value : Json) (builder : Builder) :
    (readSlot text encoding value builder).2.bareNodes =
      builder.bareNodes ++ (records value).map (nodeOf text encoding) := by
  cases value with
  | object fields =>
      rw [readSlot, records]
      split
      · have filled := bareNodes_readFields builder.size fields
          (builder.push (nodeOf text encoding fields)).2
        rw [Builder.bareNodes_push, List.append_assoc] at filled
        exact filled
      · simp
  | array items => exact bareNodes_readItems items builder
  | null => simp [readSlot, records]
  | bool flag => simp [readSlot, records]
  | number number => simp [readSlot, records]
  | string string => simp [readSlot, records]

theorem bareNodes_readItems (items : List Json) (builder : Builder) :
    (readItems text encoding items builder).2.bareNodes =
      builder.bareNodes ++ (itemRecords items).map (nodeOf text encoding) := by
  cases items with
  | nil => simp [readItems, itemRecords]
  | cons item rest =>
      have first := bareNodes_readSlot item builder
      have others := bareNodes_readItems rest (readSlot text encoding item builder).2
      rw [first, List.append_assoc, ← List.map_append] at others
      exact others

theorem bareNodes_readFields (id : NodeId) (fields : List (String × Json)) (builder : Builder) :
    (readFields text encoding id fields builder).bareNodes =
      builder.bareNodes ++ (fieldRecords fields).map (nodeOf text encoding) := by
  cases fields with
  | nil => simp [readFields, fieldRecords]
  | cons entry rest =>
      obtain ⟨key, value⟩ := entry
      rw [readFields, fieldRecords]
      split
      · exact bareNodes_readFields id rest builder
      · have first := bareNodes_readSlot value builder
        have others := bareNodes_readFields id rest
          ((readSlot text encoding value builder).2.setSlot id key
          (readSlot text encoding value builder).1)
        rw [Builder.bareNodes_setSlot, first, List.append_assoc, ← List.map_append] at others
        exact others

end

end

/-- Without their slots, the nodes of a tree are what its records say, one for each. -/
theorem bareNodes_treeOf? {ast : Json} {text : List Char} {encoding : Text.OffsetEncoding}
    {tree : SyntaxTree} (read : treeOf? ast text encoding = some tree) :
    tree.nodes.toList.map Node.bare = (records ast).map (nodeOf text encoding) := by
  cases ast with
  | object fields =>
      rw [treeOf?] at read
      split at read
      · next kind typed =>
          obtain rfl := Option.some.inj read
          obtain ⟨value, found, _⟩ := Option.bind_eq_some_iff.mp typed
          rw [records, found]
          exact bareNodes_readFields text encoding _ fields
            (Builder.push {} (nodeOf text encoding fields)).2
      · cases read
  | _ => cases read

theorem exists_record {ast : Json} {text : List Char} {encoding : Text.OffsetEncoding}
    {tree : SyntaxTree} (read : treeOf? ast text encoding = some tree) {id : NodeId} {node : Node}
    (found : tree.get? id = some node) :
    ∃ fields, (records ast)[id]? = some fields ∧ node.bare = nodeOf text encoding fields := by
  have listed : (tree.nodes.toList.map Node.bare)[id]? = some node.bare := by
    rw [List.getElem?_map, Array.getElem?_toList]
    exact congrArg (Option.map Node.bare) found
  rw [bareNodes_treeOf? read, List.getElem?_map] at listed
  obtain ⟨fields, numbered, same⟩ := Option.map_eq_some_iff.mp listed
  exact ⟨fields, numbered, same.symm⟩

theorem text?_of_record {text : List Char} {encoding : Text.OffsetEncoding} {tree : SyntaxTree}
    {id : NodeId} {node : Node} {fields : List (String × Json)} (found : tree.get? id = some node)
    (same : node.bare = nodeOf text encoding fields) :
    tree.text? id text = (spanOf text encoding fields).text? text := by
  have span : node.span = spanOf text encoding fields := congrArg Node.span same
  rw [SyntaxTree.text?, found, Option.bind_some, span]

open Text (IsBoundary byteLength codeUnits toByte utf16Length)

/-- A text can be cut at every span that was counted in code units and whose ends are in order. -/
theorem text?_isSome_of_le {text : List Char} {fields : List (String × Json)}
    (ordered : (spanOf text .utf16 fields).start ≤ (spanOf text .utf16 fields).stop) :
    ((spanOf text .utf16 fields).text? text).isSome := by
  refine Text.slice?_isSome_iff.mpr ⟨ordered, ?_⟩
  simp only [spanOf, Text.toByte_utf16]
  split
  · exact ⟨Text.isBoundary_byteOfUnit _ _, Text.isBoundary_byteOfUnit _ _⟩
  · exact ⟨⟨[], text, rfl, rfl⟩, ⟨[], text, rfl, rfl⟩⟩

/-- Offsets in code units are exact on character boundaries, go back to the start of a character
from within it and stop at the end of the text; they keep their order and fall on boundaries. So
every node of a bundle with its ends in order has a text, and it is the one between its offsets
where they are boundaries. -/
theorem utf16_offsets_exact :
    (∀ text : List Char,
      (∀ before after, text = before ++ after →
        toByte text .utf16 (utf16Length before) = byteLength before) ∧
      (∀ before c after, text = before ++ c :: after → codeUnits c = 2 →
        toByte text .utf16 (utf16Length before + 1) = byteLength before) ∧
      (∀ offset, utf16Length text ≤ offset → toByte text .utf16 offset = byteLength text) ∧
      Monotone (toByte text .utf16) ∧ ∀ offset, IsBoundary text (toByte text .utf16 offset)) ∧
    ∀ (bundle : Bundle) (file : SourceFile), bundle.encoding = .utf16 → bundle.load? = some file →
      ∀ id node, file.tree.get? id = some node → ∃ fields, (records bundle.ast)[id]? = some fields ∧
        node.bare = nodeOf bundle.text.toList .utf16 fields ∧
        (node.span.start ≤ node.span.stop → (file.tree.text? id bundle.text.toList).isSome) ∧
        ∀ start stop, offsets? fields = some (start, stop) →
          (start ≤ stop → (file.tree.text? id bundle.text.toList).isSome) ∧
          ∀ before middle after, bundle.text.toList = before ++ middle ++ after →
            utf16Length before = start → utf16Length (before ++ middle) = stop →
              file.tree.text? id bundle.text.toList = some middle := by
  constructor
  · intro text
    rw [Text.toByte_utf16]
    refine ⟨?_, ?_, fun _ => Text.byteOfUnit_past, Text.monotone_byteOfUnit text,
      Text.isBoundary_byteOfUnit text⟩
    · rintro before after rfl
      exact Text.byteOfUnit_append before after
    · rintro before c after rfl pair
      exact Text.byteOfUnit_within (Nat.le_add_right _ _) (by omega)
  · intro bundle file counted loaded id node found
    obtain ⟨tree, read, rfl⟩ := Option.map_eq_some_iff.mp loaded
    rw [counted] at read
    obtain ⟨fields, numbered, same⟩ := exists_record read found
    have span : node.span = spanOf bundle.text.toList .utf16 fields := congrArg Node.span same
    have under := text?_of_record found same
    dsimp only at under ⊢
    refine ⟨fields, numbered, same, fun ordered => ?_, fun start stop counts =>
      ⟨fun ordered => ?_, ?_⟩⟩
    · rw [under]
      exact text?_isSome_of_le (span ▸ ordered)
    · rw [under]
      apply text?_isSome_of_le
      simp only [spanOf, counts, Text.toByte_utf16]
      exact Text.monotone_byteOfUnit _ ordered
    · rintro before middle after divided rfl rfl
      rw [under, divided]
      simp only [spanOf, counts, Text.toByte_utf16]
      exact Text.slice?_byteOfUnit before middle after

/-- A text with characters of two and four bytes. One node ends past the text, and one starts inside
a pair of surrogates. -/
def astral : Bundle where
  filename := "astral.js"
  text := String.ofList ['é', '😀', ' ', 'a', 'b', 'c']
  ast := .object [("type", .string "Program"), ("range", .array [.nat 0, .nat 9]), ("body", .array [
    .object [("type", .string "Identifier"), ("name", .string "abc"),
      ("range", .array [.nat 4, .nat 7])],
    .object [("type", .string "Other"), ("start", .nat 2), ("end", .nat 3)]])]
  encoding := .utf16

def astralFile : SourceFile where
  filename := "astral.js"
  text := ['é', '😀', ' ', 'a', 'b', 'c']
  tree := {
    nodes := #[
      { kind := "Program", span := ⟨0, 10⟩, slots := [("body", .list [.node 1, .node 2])] },
      { kind := "Identifier", span := ⟨7, 10⟩, value := some (.string "abc") },
      { kind := "Other", span := ⟨2, 6⟩ }]
    root := 0 }

theorem utf16_offsets_exact_astral :
    astral.encoding = .utf16 ∧ astral.load? = some astralFile ∧
      toByte astralFile.text .utf16 2 = 2 ∧ toByte astralFile.text .utf16 9 = 10 ∧
      astralFile.tree.text? 1 astral.text.toList = some ['a', 'b', 'c'] ∧
      (astralFile.tree.text? 2 astral.text.toList).isSome := by
  have chars : astral.text.toList = ['é', '😀', ' ', 'a', 'b', 'c'] := String.toList_ofList
  have loaded : astral.load? = some astralFile := by
    simp only [load?, chars]
    cbv
  obtain ⟨exact, nodes⟩ := utf16_offsets_exact
  obtain ⟨_, surrogate, past, _, _⟩ := exact astralFile.text
  obtain ⟨fields, numbered, _, _, between⟩ := nodes astral astralFile rfl loaded 1 _ rfl
  obtain ⟨others, otherNumbered, _, ordered, _⟩ := nodes astral astralFile rfl loaded 2 _ rfl
  have counts : offsets? fields = some (4, 7) := by
    obtain rfl := Option.some.inj numbered
    rfl
  refine ⟨rfl, loaded, surrogate ['é'] '😀' [' ', 'a', 'b', 'c'] rfl rfl, past 9 (by decide), ?_,
    ordered (by decide)⟩
  exact (between 4 7 counts).2 ['é', '😀', ' '] ['a', 'b', 'c'] [] chars rfl rfl

end Bundle
end Tree
end Spellspan
