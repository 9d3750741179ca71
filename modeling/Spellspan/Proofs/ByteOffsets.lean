import Spellspan.Text.Bytes

/-!
Cutting a text at byte offsets, in terms of its characters: a cut succeeds exactly when the text can
be divided there.
-/
set_option autoImplicit false

namespace Spellspan.Text

@[simp] theorem byteLength_append (before after : List Char) :
    byteLength (before ++ after) = byteLength before + byteLength after := by
  induction before with
  | nil => simp [byteLength]
  | cons c before ih => simp [byteLength, ih, Nat.add_assoc]

section
variable {count : Nat} {c : Char} {text rest taken : List Char}

@[simp] theorem dropBytes?_zero : dropBytes? 0 text = some text := by
  cases text <;> rfl

@[simp] theorem takeBytes?_zero : takeBytes? 0 text = some [] := by
  cases text <;> rfl

/-- A character is dropped as a whole. -/
theorem dropBytes?_cons : dropBytes? (c.utf8Size + count) (c :: text) = dropBytes? count text := by
  obtain ⟨more, size⟩ := Nat.exists_eq_add_one_of_ne_zero (Nat.ne_of_gt c.utf8Size_pos)
  rw [size, Nat.add_right_comm, dropBytes?, if_pos (by omega)]
  congr 1
  omega

theorem takeBytes?_cons :
    takeBytes? (c.utf8Size + count) (c :: text) = (takeBytes? count text).map (c :: ·) := by
  obtain ⟨more, size⟩ := Nat.exists_eq_add_one_of_ne_zero (Nat.ne_of_gt c.utf8Size_pos)
  rw [size, Nat.add_right_comm, takeBytes?, if_pos (by omega)]
  congr 2
  omega

theorem dropBytes?_eq_some_iff :
    dropBytes? count text = some rest ↔
      ∃ before, text = before ++ rest ∧ byteLength before = count := by
  constructor
  · intro dropped
    fun_induction dropBytes? count text with
    | case1 text => exact ⟨[], Option.some.inj dropped, rfl⟩
    | case2 count => cases dropped
    | case3 count c text fits ih =>
        obtain ⟨before, rfl, length⟩ := ih dropped
        refine ⟨c :: before, rfl, ?_⟩
        rw [byteLength, length]
        omega
    | case4 count c text crossing => cases dropped
  · rintro ⟨before, rfl, rfl⟩
    induction before with
    | nil => exact dropBytes?_zero
    | cons c before ih => exact dropBytes?_cons.trans ih

theorem takeBytes?_eq_some_iff :
    takeBytes? count text = some taken ↔
      ∃ after, text = taken ++ after ∧ byteLength taken = count := by
  constructor
  · intro cut
    fun_induction takeBytes? count text generalizing taken with
    | case1 text =>
        obtain rfl := Option.some.inj cut
        exact ⟨text, rfl, rfl⟩
    | case2 count => cases cut
    | case3 count c text fits ih =>
        obtain ⟨others, taken, rfl⟩ := Option.map_eq_some_iff.mp cut
        obtain ⟨after, rfl, length⟩ := ih taken
        refine ⟨after, rfl, ?_⟩
        rw [byteLength, length]
        omega
    | case4 count c text crossing => cases cut
  · rintro ⟨after, rfl, rfl⟩
    induction taken with
    | nil => exact takeBytes?_zero
    | cons c taken ih => rw [List.cons_append, byteLength, takeBytes?_cons, ih, Option.map_some]

end

/-- A slice exists when the text falls into three parts, the first ending at one offset and the
second at the other. -/
theorem slice?_eq_some_iff {text middle : List Char} {start stop : Nat} :
    slice? text start stop = some middle ↔
      ∃ before after, text = before ++ middle ++ after ∧ byteLength before = start ∧
        byteLength (before ++ middle) = stop := by
  unfold slice?
  constructor
  · intro cut
    split at cut
    · next ordered =>
        obtain ⟨rest, dropped, taken⟩ := Option.bind_eq_some_iff.mp cut
        obtain ⟨before, rfl, first⟩ := dropBytes?_eq_some_iff.mp dropped
        obtain ⟨after, rfl, second⟩ := takeBytes?_eq_some_iff.mp taken
        refine ⟨before, after, (List.append_assoc _ _ _).symm, first, ?_⟩
        rw [byteLength_append]
        omega
    · cases cut
  · rintro ⟨before, after, rfl, rfl, rfl⟩
    have dropped : dropBytes? (byteLength before) (before ++ middle ++ after) =
        some (middle ++ after) :=
      dropBytes?_eq_some_iff.mpr ⟨before, List.append_assoc _ _ _, rfl⟩
    have taken : takeBytes? (byteLength middle) (middle ++ after) = some middle :=
      takeBytes?_eq_some_iff.mpr ⟨after, rfl, rfl⟩
    rw [byteLength_append, if_pos (Nat.le_add_right _ _), dropped, Option.bind_some,
      Nat.add_sub_cancel_left, taken]

theorem isBoundary_of_slice? {text middle : List Char} {start stop : Nat}
    (cut : slice? text start stop = some middle) :
    IsBoundary text start ∧ IsBoundary text stop := by
  obtain ⟨before, after, divided, first, second⟩ := slice?_eq_some_iff.mp cut
  refine ⟨⟨before, middle ++ after, ?_, first⟩, ⟨before ++ middle, after, divided, second⟩⟩
  rw [divided, List.append_assoc]

theorem eq_nil_of_byteLength_eq_zero {text : List Char} (empty : byteLength text = 0) :
    text = [] := by
  cases text with
  | nil => rfl
  | cons c rest =>
      have positive := c.utf8Size_pos
      rw [byteLength] at empty
      omega

theorem slice?_isSome_iff {text : List Char} {start stop : Nat} :
    (slice? text start stop).isSome ↔
      start ≤ stop ∧ IsBoundary text start ∧ IsBoundary text stop := by
  constructor
  · intro cut
    obtain ⟨middle, cut⟩ := Option.isSome_iff_exists.mp cut
    have bounds := isBoundary_of_slice? cut
    obtain ⟨before, after, _, rfl, rfl⟩ := slice?_eq_some_iff.mp cut
    rw [byteLength_append] at bounds ⊢
    exact ⟨Nat.le_add_right _ _, bounds⟩
  · intro bounds
    obtain ⟨ordered, ⟨front, rest, divided, rfl⟩, ⟨before, after, same, rfl⟩⟩ := bounds
    have frontPrefix : front <+: text := ⟨rest, divided.symm⟩
    have beforePrefix : before <+: text := ⟨after, same.symm⟩
    -- of two divisions of one text, the one with fewer bytes in front comes first
    have shorter : front <+: before := by
      cases List.prefix_or_prefix_of_prefix frontPrefix beforePrefix with
      | inl shorter => exact shorter
      | inr longer =>
          obtain ⟨middle, rfl⟩ := longer
          rw [byteLength_append] at ordered
          have empty : byteLength middle = 0 := by omega
          simp [eq_nil_of_byteLength_eq_zero empty]
    obtain ⟨middle, rfl⟩ := shorter
    exact Option.isSome_iff_exists.mpr
      ⟨middle, slice?_eq_some_iff.mpr ⟨front, after, same, rfl, rfl⟩⟩

theorem le_byteLength_of_slice? {text middle : List Char} {start stop : Nat}
    (cut : slice? text start stop = some middle) :
    start ≤ stop ∧ stop ≤ byteLength text := by
  obtain ⟨before, after, rfl, rfl, rfl⟩ := slice?_eq_some_iff.mp cut
  simp only [byteLength_append]
  omega

end Spellspan.Text
