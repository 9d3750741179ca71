import Mathlib
import Spellspan.Json.Value
import Spellspan.Tree.ChildTable
import Spellspan.Tree.Node

/-!
Lists of entries by name: slots of a node, slots of a kind, fields of a record. All are looked up in
the same way, and a lookup and membership are the same where no name is repeated.
-/
set_option autoImplicit false

namespace Spellspan

section
variable {β : Type} {entries : List (String × β)} {name : String} {value : β}

theorem mem_of_lookup (found : entries.lookup name = some value) : (name, value) ∈ entries := by
  obtain ⟨before, after, rfl, _⟩ := List.lookup_eq_some_iff.mp found
  exact List.mem_append_right _ List.mem_cons_self

theorem lookup_of_mem (once : (entries.map Prod.fst).Nodup) (member : (name, value) ∈ entries) :
    entries.lookup name = some value := by
  induction entries with
  | nil => cases member
  | cons entry rest ih =>
      obtain ⟨apart, onceRest⟩ := List.nodup_cons.mp once
      rcases List.mem_cons.mp member with rfl | later
      · exact List.lookup_cons_self
      · have different : name ≠ entry.1 := fun same => apart (same ▸ List.mem_map_of_mem later)
        rw [List.lookup_cons, beq_eq_false_iff_ne.mpr different]
        exact ih onceRest later

theorem lookup_eq_none_iff_notMem : entries.lookup name = none ↔ name ∉ entries.map Prod.fst := by
  rw [List.lookup_eq_none_iff]
  constructor
  · intro apart member
    obtain ⟨entry, held, rfl⟩ := List.mem_map.mp member
    simpa using apart entry held
  · intro absent entry held
    exact bne_iff_ne.mpr fun same => absent (same ▸ List.mem_map_of_mem held)

end

theorem lookup_cons_ite {β : Type} (name key : String) (value : β) (rest : List (String × β)) :
    ((key, value) :: rest).lookup name = if key = name then some value else rest.lookup name := by
  rw [List.lookup_cons]
  by_cases same : key = name
  · rw [if_pos same, beq_iff_eq.mpr same.symm]
  · rw [if_neg same, beq_eq_false_iff_ne.mpr (Ne.symm same)]

theorem Tree.slotIn?_eq_lookup (name : String) (slots : List (String × Tree.Slot)) :
    Tree.slotIn? name slots = slots.lookup name := by
  induction slots with
  | nil => rfl
  | cons entry rest ih => rw [Tree.slotIn?, ih, lookup_cons_ite]

theorem Tree.slotsIn?_eq_lookup (kind : String) (entries : List (String × List String)) :
    Tree.slotsIn? kind entries = entries.lookup kind := by
  induction entries with
  | nil => rfl
  | cons entry rest ih => rw [Tree.slotsIn?, ih, lookup_cons_ite]

theorem Json.lookup_eq_lookup (name : String) (fields : List (String × Json)) :
    Json.lookup name fields = fields.lookup name := by
  induction fields with
  | nil => rfl
  | cons entry rest ih => rw [Json.lookup, ih, lookup_cons_ite]

end Spellspan
