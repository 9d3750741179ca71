import Mathlib
import Spellspan.Options
import Spellspan.Proofs.Lookup

/-!
Records with fields left out. The fields of a record may stand in any order, and those that are what
a reader takes them to be anyway may be missing. A reader that looks its fields up by name, and
whose defaults are these, reads the same from any such form.
-/
set_option autoImplicit false

namespace Spellspan

theorem mapM_of_forall₂ {α β : Type} {read : α → Option β} {values : List α} {items : List β}
    (each : List.Forall₂ (fun value item => read value = some item) values items) :
    values.mapM read = some items := by
  induction each with
  | nil => rfl
  | cons first _ ih => simp [List.mapM_cons, first, ih]

theorem mapM_map_of_read {α β : Type} {read : β → Option α} {write : α → β}
    (reads : ∀ item, read (write item) = some item) (items : List α)
    : (items.map write).mapM read = some items :=
  mapM_of_forall₂ (List.forall₂_map_left_iff.mpr (List.forall₂_same.mpr fun item _ => reads item))

namespace Json

@[simp] theorem asStrings?_strings (texts : List String) :
    (strings texts).asStrings? = some texts := by
  have each : ∀ text, asString? (.string text) = some text := fun _ => rfl
  exact mapM_map_of_read each texts

/-- The fields of a record in any order, without some of those that `defaults` holds as well. -/
structure Abridges (defaults full part : List (String × Json)) : Prop where
  subperm : part.Subperm full
  omitted : ∀ entry ∈ full, entry ∉ part → entry ∈ defaults

/-- A record that holds the fields of another, where those of `defaults` may be missing. -/
inductive Abbreviates (defaults : List (String × Json)) : Json → Json → Prop where
  | record {full part : List (String × Json)} (abridges : Abridges defaults full part) :
      Abbreviates defaults (.object full) (.object part)

namespace Abridges
variable {defaults full part : List (String × Json)}

theorem of_perm (perm : part.Perm full) : Abridges defaults full part :=
  ⟨perm.subperm, fun _ listed unlisted => absurd (perm.mem_iff.mpr listed) unlisted⟩

theorem refl (defaults full : List (String × Json)) : Abridges defaults full full :=
  of_perm .rfl

theorem nil (included : full ⊆ defaults) : Abridges defaults full [] :=
  ⟨List.nil_subperm, fun _ listed _ => included listed⟩

theorem filter {kept : String × Json → Bool}
    (usual : ∀ entry ∈ full, kept entry = false → entry ∈ defaults) :
    Abridges defaults full (full.filter kept) := by
  refine ⟨List.filter_sublist.subperm, fun entry listed unlisted => usual entry listed ?_⟩
  rw [List.mem_filter, not_and, Bool.not_eq_true] at unlisted
  exact unlisted listed

theorem append {otherFull otherPart : List (String × Json)} (front : Abridges defaults full part)
    (back : Abridges defaults otherFull otherPart) :
    Abridges defaults (full ++ otherFull) (part ++ otherPart) := by
  refine ⟨front.subperm.append back.subperm, fun entry listed unlisted => ?_⟩
  rw [List.mem_append, not_or] at unlisted
  rcases List.mem_append.mp listed with early | late
  · exact front.omitted entry early unlisted.1
  · exact back.omitted entry late unlisted.2

end Abridges

/-- A reader of records with the given names looks its fields up by name, and fields that are
missing are to it as in `defaults`. -/
structure ReadsByName {α : Type} (names : List String) (defaults : List (String × Json))
    (read : List (String × Json) → Option α) : Prop where
  once : names.Nodup
  known : (defaults.map Prod.fst).Sublist names
  byName : ∀ left right, (∀ name, Json.lookup name left = Json.lookup name right) →
    read left = read right
  fills : ∀ fields, read (fields ++ defaults) = read fields

/-- With the defaults behind it, a shortened record gives every name the value that the whole record
gives it. -/
theorem Abridges.lookup_append {defaults full part : List (String × Json)}
    (abridges : Abridges defaults full part) (once : (full.map Prod.fst).Nodup)
    (known : (defaults.map Prod.fst).Sublist (full.map Prod.fst)) (name : String) :
    Json.lookup name (part ++ defaults) = Json.lookup name full := by
  simp only [lookup_eq_lookup, List.lookup_append]
  cases found : part.lookup name with
  | some value =>
      -- Names stand once in the whole record, so what is kept under a name is what it has there.
      have listed : (name, value) ∈ full := abridges.subperm.subset (mem_of_lookup found)
      rw [lookup_of_mem once listed, Option.some_or]
  | none =>
      have missing : name ∉ part.map Prod.fst := lookup_eq_none_iff_notMem.mp found
      rw [Option.none_or]
      cases whole : full.lookup name with
      | none =>
          have unknown := lookup_eq_none_iff_notMem.mp whole
          exact lookup_eq_none_iff_notMem.mpr fun byDefault => unknown (known.subset byDefault)
      | some value =>
          have usual : (name, value) ∈ defaults :=
            abridges.omitted _ (mem_of_lookup whole) fun listed =>
              missing (List.mem_map_of_mem listed)
          exact lookup_of_mem (once.sublist known) usual

/-- What is read from a shortened record is what is read from the whole one. -/
theorem ReadsByName.read_of_abridges {α : Type} {names : List String}
    {defaults full part : List (String × Json)} {read : List (String × Json) → Option α}
    (reads : ReadsByName names defaults read) (named : full.map Prod.fst = names)
    (abridges : Abridges defaults full part) : read part = read full := by
  subst named
  rw [← reads.fills part]
  exact reads.byName _ _ (abridges.lookup_append reads.once reads.known)

end Json

theorem Json.lookup_append_of_isNone {fields defaults : List (String × Json)} {name : String}
    (required : (Json.lookup name defaults).isNone = true) :
    Json.lookup name (fields ++ defaults) = Json.lookup name fields := by
  simp only [lookup_eq_lookup, List.lookup_append, Option.isNone_iff_eq_none] at required ⊢
  rw [required, Option.or_none]

/-- A field that is left out may as well be written with its default. -/
theorem CheckOptions.fieldOr?_append {α : Type} {fields defaults : List (String × Json)}
    {name : String} {default : α} {read : Json → Option α}
    (usual : (Json.lookup name defaults).bind read = some default) :
    fieldOr? (fields ++ defaults) name default read = fieldOr? fields name default read := by
  simp only [fieldOr?, Json.lookup_eq_lookup, List.lookup_append] at usual ⊢
  cases fields.lookup name with
  | some value => rfl
  | none =>
      rw [Option.none_or]
      cases found : defaults.lookup name with
      | none => rfl
      | some value => simpa [found] using usual

end Spellspan
