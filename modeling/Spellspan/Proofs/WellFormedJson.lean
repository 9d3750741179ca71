import Mathlib
import Spellspan.Json.Document
import Spellspan.Proofs.Lookup

/-!
Values in which every object names a field once. What is read from a text is such a value: of
several fields of one name an object keeps the last, and a record with a field given twice is
refused.
-/
set_option autoImplicit false

namespace Spellspan.Json

mutual

/-- Every object in a value names each of its fields once. -/
def WellFormed : Json → Prop
  | .array items => ItemsWellFormed items
  | .object fields => (fields.map Prod.fst).Nodup ∧ FieldsWellFormed fields
  | _ => True

def ItemsWellFormed : List Json → Prop
  | [] => True
  | item :: rest => item.WellFormed ∧ ItemsWellFormed rest

def FieldsWellFormed : List (String × Json) → Prop
  | [] => True
  | (_, value) :: rest => value.WellFormed ∧ FieldsWellFormed rest

end

theorem itemsWellFormed_iff {items : List Json} : ItemsWellFormed items ↔
    ∀ item ∈ items, item.WellFormed := by
  induction items with
  | nil => simp [ItemsWellFormed]
  | cons item rest ih => simp [ItemsWellFormed, ih]

theorem fieldsWellFormed_iff {fields : List (String × Json)} : FieldsWellFormed fields ↔
    ∀ entry ∈ fields, entry.2.WellFormed := by
  induction fields with
  | nil => simp [FieldsWellFormed]
  | cons entry rest ih => simp [FieldsWellFormed, ih]

theorem mem_insertField {name : String} {value : Json} {fields : List (String × Json)}
    {entry : String × Json} (member : entry ∈ insertField name value fields)
    : entry = (name, value) ∨ entry ∈ fields := by
  induction fields with
  | nil => simpa [insertField] using member
  | cons first rest ih =>
      obtain ⟨key, old⟩ := first
      unfold insertField at member
      split at member
      · rcases List.mem_cons.mp member with same | later
        · exact .inl same
        · exact .inr (List.mem_cons_of_mem _ later)
      · split at member
        · exact (List.mem_cons.mp member)
        · rcases List.mem_cons.mp member with same | later
          · exact .inr (same ▸ List.mem_cons_self)
          · exact (ih later).imp_right (List.mem_cons_of_mem _)

theorem sorted_insertField {name : String} {value : Json} {fields : List (String × Json)}
    (sorted : (fields.map Prod.fst).Pairwise (· < ·)) :
    ((insertField name value fields).map Prod.fst).Pairwise (· < ·) := by
  induction fields with
  | nil => simp [insertField]
  | cons first rest ih =>
      obtain ⟨key, old⟩ := first
      obtain ⟨least, ordered⟩ := List.pairwise_cons.mp sorted
      unfold insertField
      split
      · next same => exact same ▸ sorted
      · next different =>
          split
          · next before =>
              refine List.pairwise_cons.mpr ⟨fun other member => ?_, sorted⟩
              rcases List.mem_cons.mp member with rfl | later
              · exact before
              · exact lt_trans before (least other later)
          · next notBefore =>
              refine List.pairwise_cons.mpr ⟨fun other member => ?_, ih ordered⟩
              obtain ⟨entry, inserted, rfl⟩ := List.mem_map.mp member
              rcases mem_insertField inserted with rfl | later
              · exact lt_of_le_of_ne (not_lt.mp notBefore) (Ne.symm different)
              · exact least _ (List.mem_map_of_mem later)

mutual

/-- A value that was read is well formed: of the fields of one name the last stays. -/
theorem wellFormed_of_value? (levels : Nat) (document : Document) {value : Json}
    (read : document.value? levels = some value) : value.WellFormed := by
  cases document with
  | null => obtain rfl := Option.some.inj read; trivial
  | bool flag => obtain rfl := Option.some.inj read; trivial
  | number number =>
      obtain ⟨_, _, rfl⟩ := Option.map_eq_some_iff.mp read
      trivial
  | string text =>
      obtain ⟨_, _, rfl⟩ := Option.map_eq_some_iff.mp read
      trivial
  | array items =>
      rw [Document.value?] at read
      split at read
      · cases read
      · obtain ⟨_, inner, rfl⟩ := Option.map_eq_some_iff.mp read
        exact itemsWellFormed_of_values? items inner
  | object fields =>
      rw [Document.value?] at read
      split at read
      · cases read
      · obtain ⟨_, inner, rfl⟩ := Option.map_eq_some_iff.mp read
        have sorted := fieldsWellFormed_of_fieldValues? fields (by simp) (by simp) inner
        exact ⟨sorted.1.imp fun less => ne_of_lt less, fieldsWellFormed_iff.mpr sorted.2⟩

theorem itemsWellFormed_of_values? {levels : Nat} (documents : List Document) {values : List Json}
    (read : Document.values? levels documents = some values) : ItemsWellFormed values := by
  cases documents with
  | nil => obtain rfl := Option.some.inj read; trivial
  | cons document rest =>
      rw [Document.values?] at read
      split at read
      · next value first =>
          obtain ⟨_, later, rfl⟩ := Option.map_eq_some_iff.mp read
          exact ⟨wellFormed_of_value? levels document first, itemsWellFormed_of_values? rest later⟩
      · cases read

theorem fieldsWellFormed_of_fieldValues? {levels : Nat} {before after : List (String × Json)}
    (fields : List (Option String × Document)) (sorted : (before.map Prod.fst).Pairwise (· < ·))
    (wellFormed : ∀ entry ∈ before, entry.2.WellFormed)
    (read : Document.fieldValues? levels before fields = some after) :
    (after.map Prod.fst).Pairwise (· < ·) ∧ ∀ entry ∈ after, entry.2.WellFormed := by
  cases fields with
  | nil => obtain rfl := Option.some.inj read; exact ⟨sorted, wellFormed⟩
  | cons field rest =>
      obtain ⟨name, document⟩ := field
      cases name with
      | none => simp [Document.fieldValues?] at read
      | some name =>
          cases first : document.value? levels with
          | none => simp [Document.fieldValues?, first] at read
          | some value =>
              simp only [Document.fieldValues?, first] at read
              refine fieldsWellFormed_of_fieldValues? rest (sorted_insertField sorted)
                (fun entry member => ?_) read
              rcases mem_insertField member with rfl | earlier
              · exact wellFormed_of_value? levels document first
              · exact wellFormed entry earlier

end

mutual

/-- What a reader retains is well formed: a record with a field given twice is refused. -/
theorem wellFormed_of_retain? {levels : Nat} (shape : Shape) (document : Document) {value : Json}
    (read : document.retain? levels shape = some value) : value.WellFormed := by
  cases document with
  | array items =>
      cases shape with
      | list shape =>
          rw [Document.retain?] at read
          split at read
          · cases read
          · obtain ⟨_, inner, rfl⟩ := Option.map_eq_some_iff.mp read
            exact itemsWellFormed_of_retainItems? shape items inner
      | record shapes =>
          rw [Document.retain?] at read
          split at read
          · cases read
          · obtain ⟨_, inner, rfl⟩ := Option.map_eq_some_iff.mp read
            exact itemsWellFormed_of_retainPositions? shapes items inner
      | any => exact wellFormed_of_value? levels (.array items) read
      | choice => exact wellFormed_of_value? levels (.array items) read
  | object entries =>
      cases shape with
      | record shapes =>
          rw [Document.retain?] at read
          split at read
          · cases read
          · obtain ⟨fields, inner, rfl⟩ := Option.map_eq_some_iff.mp read
            rw [WellFormed]
            exact fieldsWellFormed_of_retainFields? entries
              (by simp) (fieldsWellFormed_iff.mpr (by simp)) inner
      | any => exact wellFormed_of_value? levels (.object entries) read
      | list shape => exact wellFormed_of_value? levels (.object entries) read
      | choice =>
          rcases entries with _ | ⟨first, _ | ⟨second, rest⟩⟩
          · exact wellFormed_of_value? levels (.object []) read
          · exact wellFormed_of_value? levels (.object [first]) read
          · cases read
  | null => cases shape <;> exact wellFormed_of_value? levels .null read
  | bool flag => cases shape <;> exact wellFormed_of_value? levels (.bool flag) read
  | number number => cases shape <;> exact wellFormed_of_value? levels (.number number) read
  | string text => cases shape <;> exact wellFormed_of_value? levels (.string text) read

theorem itemsWellFormed_of_retainItems? {levels : Nat} (shape : Shape) (documents : List Document)
    {values : List Json} (read : Document.retainItems? levels shape documents = some values) :
    ItemsWellFormed values := by
  cases documents with
  | nil => obtain rfl := Option.some.inj read; trivial
  | cons document rest =>
      rw [Document.retainItems?] at read
      split at read
      · next value first =>
          obtain ⟨_, later, rfl⟩ := Option.map_eq_some_iff.mp read
          exact ⟨wellFormed_of_retain? shape document first,
            itemsWellFormed_of_retainItems? shape rest later⟩
      · cases read

theorem itemsWellFormed_of_retainPositions? {levels : Nat} (shapes : List (String × Shape))
    (documents : List Document) {values : List Json}
    (read : Document.retainPositions? levels shapes documents = some values) :
    ItemsWellFormed values := by
  cases documents with
  | nil =>
      rw [Document.retainPositions?] at read
      obtain rfl := Option.some.inj read
      trivial
  | cons document rest =>
      cases shapes with
      | nil => cases read
      | cons entry shapes =>
          rw [Document.retainPositions?] at read
          split at read
          · next value first =>
              obtain ⟨_, later, rfl⟩ := Option.map_eq_some_iff.mp read
              exact ⟨wellFormed_of_retain? entry.2 document first,
                itemsWellFormed_of_retainPositions? shapes rest later⟩
          · cases read

theorem fieldsWellFormed_of_retainFields? {levels : Nat} {shapes : List (String × Shape)}
    {before after : List (String × Json)} (fields : List (Option String × Document))
    (unrepeated : (before.map Prod.fst).Nodup) (wellFormed : FieldsWellFormed before)
    (read : Document.retainFields? levels shapes before fields = some after) :
    (after.map Prod.fst).Nodup ∧ FieldsWellFormed after := by
  cases fields with
  | nil => obtain rfl := Option.some.inj read; exact ⟨unrepeated, wellFormed⟩
  | cons field rest =>
      obtain ⟨name, document⟩ := field
      cases name with
      | none => simp [Document.retainFields?] at read
      | some name =>
          simp only [Document.retainFields?] at read
          split at read
          · exact fieldsWellFormed_of_retainFields? rest unrepeated wellFormed read
          · next shape known =>
              split at read
              · cases read
              · next fresh =>
                  split at read
                  · next value first =>
                      rw [lookup_eq_lookup, Option.not_isSome_iff_eq_none,
                        lookup_eq_none_iff_notMem] at fresh
                      refine fieldsWellFormed_of_retainFields? rest ?_ ?_ read
                      · rw [List.map_append]
                        exact unrepeated.append (List.nodup_singleton _) (by simpa using fresh)
                      · rw [fieldsWellFormed_iff] at wellFormed ⊢
                        simp only [List.mem_append, List.mem_singleton]
                        rintro entry (earlier | rfl)
                        · exact wellFormed entry earlier
                        · exact wellFormed_of_retain? shape document first
                  · cases read

end

theorem wellFormed_of_parseAs? {shape : Shape} {text : String} {value : Json}
    (read : parseAs? shape text = some value) :
    value.WellFormed := by
  obtain ⟨document, _, retained⟩ := Option.bind_eq_some_iff.mp read
  exact wellFormed_of_retain? shape document retained

/-- The fields of a well-formed record are well formed, by name or by position. -/
theorem WellFormed.recordFields? {names : List String} {value : Json}
    {fields : List (String × Json)} (wellFormed : value.WellFormed)
    (record : value.recordFields? names = some fields) :
    FieldsWellFormed fields := by
  cases value with
  | object own => exact Option.some.inj record ▸ wellFormed.2
  | array items =>
      rw [Json.recordFields?] at record
      split at record
      · obtain rfl := Option.some.inj record
        refine fieldsWellFormed_iff.mpr fun entry member => ?_
        exact itemsWellFormed_iff.mp wellFormed entry.2 (List.of_mem_zip member).2
      · cases record
  | _ => cases record

theorem wellFormed_of_lookup {name : String} {value : Json} {fields : List (String × Json)}
    (wellFormed : FieldsWellFormed fields) (found : lookup name fields = some value)
    : value.WellFormed :=
  fieldsWellFormed_iff.mp wellFormed (name, value)
    (mem_of_lookup ((lookup_eq_lookup name fields).symm.trans found))

end Spellspan.Json
