import Mathlib
import Spellspan.Proofs.CandidateScopes

/-!
When the text form of a scope tells the scope. The text of a step ends where a slot in brackets is
followed by a blank, so two scopes can share a text only when a label spells such an end itself.
Whatever the labels are, scopes of one text end in the same label as long as that label has no
blank.
-/
set_option autoImplicit false

namespace Spellspan.Scope

open Spellspan.Tree (NodeId Path Walker)

/-! ## Texts cut at a character -/

theorem append_cons_inj {separator : Char} {left right leftRest rightRest : List Char}
    (leftFree : separator ∉ left) (rightFree : separator ∉ right)
    (same : left ++ separator :: leftRest = right ++ separator :: rightRest) :
    left = right ∧ leftRest = rightRest := by
  have apart : ∀ {text : List Char}, separator ∉ text → ∀ c ∈ text, (c == separator) = false := by
    intro text free c member
    exact beq_eq_false_iff_ne.mpr fun equal => free (equal ▸ member)
  have cut := congrArg (List.splitOnP (· == separator)) same
  rw [List.splitOnP_append_cons_of_forall_mem (apart leftFree) _ (by simp),
    List.splitOnP_append_cons_of_forall_mem (apart rightFree) _ (by simp)] at cut
  obtain rfl := (List.cons.inj cut).1
  exact ⟨rfl, (List.cons.inj (List.append_cancel_left same)).2⟩

/-- A text that stands where a step ends, up to a bracket that opens, holds that end. -/
theorem exists_step_end {slot rest text tail : List Char} (free : '[' ∉ slot)
    (same : slot ++ ']' :: ' ' :: rest = text ++ '[' :: tail) :
    ∃ more, text = slot ++ ']' :: ' ' :: more := by
  induction slot generalizing text with
  | nil =>
      match text with
      | [] => simp at same
      | [c] => simp at same
      | c :: d :: more =>
          obtain ⟨rfl, after⟩ := List.cons.inj same
          obtain ⟨rfl, _⟩ := List.cons.inj after
          exact ⟨more, rfl⟩
  | cons c slot ih =>
      rw [List.mem_cons, not_or] at free
      cases text with
      | nil => exact absurd (List.cons.inj same).1.symm free.1
      | cons d text =>
          obtain ⟨rfl, after⟩ := List.cons.inj same
          obtain ⟨more, rfl⟩ := ih free.2 after
          exact ⟨more, rfl⟩

/-! ## Steps -/

def stepEnd (slot : String) : List Char :=
  '[' :: (slot.toList ++ [']', ' '])

/-- Steps with labels and slots of given sets. Every step but the innermost has a slot. -/
inductive Steps (Label Slot : String → Prop) : List ScopeEntry → Prop where
  | innermost {label : String} (labelled : Label label) : Steps Label Slot [⟨label, none⟩]
  | outer {label slot : String} {rest : List ScopeEntry} (labelled : Label label)
      (named : Slot slot)
      (inner : Steps Label Slot rest) : Steps Label Slot (⟨label, some slot⟩ :: rest)

namespace Steps

variable {Label Slot : String → Prop} {entries others : List ScopeEntry}

theorem ne_nil (steps : Steps Label Slot entries) : entries ≠ [] := by
  cases steps <;> simp

theorem toList_render_outer (label slot : String) (inner : Steps Label Slot entries) :
    (ScopePath.mk (⟨label, some slot⟩ :: entries)).render.toList =
      label.toList ++ (stepEnd slot ++ (ScopePath.mk entries).render.toList) := by
  obtain ⟨entry, rest, rfl⟩ := List.exists_cons_of_ne_nil inner.ne_nil
  simp [ScopePath.render, ScopeEntry.render, Text.joined, stepEnd]

theorem render_innermost (label : String) : (ScopePath.mk [⟨label, none⟩]).render = label := rfl

/-- A label that went on where another step ends would spell that end. -/
theorem extra_eq_nil {slot other : String} {label extra rest tail : List Char}
    (free : '[' ∉ slot.toList)
    (clear : ¬ stepEnd slot <:+: label ++ extra)
    (same : stepEnd slot ++ rest = extra ++ (stepEnd other ++ tail)) :
    extra = [] := by
  cases extra with
  | nil => rfl
  | cons first extra =>
      simp only [stepEnd, List.cons_append, List.append_assoc, List.nil_append,
        List.cons.injEq] at same
      obtain ⟨rfl, after⟩ := same
      obtain ⟨more, rfl⟩ := exists_step_end free after
      exact absurd ⟨label, more, by simp [stepEnd]⟩ clear

/-- Steps are told by their text when no slot has a bracket and no label spells the end of a
step. -/
theorem eq_of_render_eq (free : ∀ slot, Slot slot → '[' ∉ slot.toList ∧ ']' ∉ slot.toList)
    (clear : ∀ label slot, Label label → Slot slot → ¬ stepEnd slot <:+: label.toList)
    (steps : Steps Label Slot entries) (otherSteps : Steps Label Slot others)
    (same : (ScopePath.mk entries).render = (ScopePath.mk others).render) : entries = others := by
  induction steps generalizing others with
  | @innermost label labelled =>
      cases otherSteps with
      | @innermost other _ => rw [← render_innermost label, same, render_innermost]
      | @outer other slot rest _ named inner =>
          have text := congrArg String.toList same
          rw [render_innermost, toList_render_outer other slot inner] at text
          exact absurd ⟨_, _, by rw [text, List.append_assoc]⟩ (clear label slot labelled named)
  | @outer label slot rest labelled named inner ih =>
      have text := congrArg String.toList same
      rw [toList_render_outer label slot inner] at text
      cases otherSteps with
      | @innermost other otherLabelled =>
          rw [render_innermost] at text
          exact absurd ⟨_, _, by rw [← text, List.append_assoc]⟩
            (clear other slot otherLabelled named)
      | @outer other otherSlot otherRest otherLabelled otherNamed otherInner =>
          rw [toList_render_outer other otherSlot otherInner] at text
          -- the longer of two unlike labels would hold the end of the other step
          have sameLabel : label = other := by
            rcases List.append_eq_append_iff.mp text with ⟨extra, extended, ends⟩
              | ⟨extra, extended, ends⟩
            · have clearOther := clear other slot otherLabelled named
              rw [extended] at clearOther
              obtain rfl := extra_eq_nil (free slot named).1 clearOther ends
              exact String.toList_inj.mp (by simpa using extended.symm)
            · have clearLabel := clear label otherSlot labelled otherNamed
              rw [extended] at clearLabel
              obtain rfl := extra_eq_nil (free otherSlot otherNamed).1 clearLabel ends
              exact String.toList_inj.mp (by simpa using extended)
          subst sameLabel
          have ends := List.append_cancel_left text
          simp only [stepEnd, List.cons_append, List.append_assoc, List.nil_append, List.cons.injEq,
            true_and] at ends
          obtain ⟨sameSlot, after⟩ :=
            append_cons_inj (free slot named).2 (free otherSlot otherNamed).2 ends
          rw [String.toList_inj.mp sameSlot,
            ih otherInner (String.toList_inj.mp (List.cons.inj after).2)]

end Steps

/-! ## Scopes of places -/

namespace ScopePath

theorem steps_ofPath {walker : Walker} {path : Path} (reached : walker.Reaches path)
    (label : NodeId → String) {Label Slot : String → Prop}
    (labelled : ∀ id ∈ path.chain, Label (label id))
    (named : ∀ id ∈ path.chain, ∀ node, walker.tree.get? id = some node →
      ∀ slot ∈ (walker.table.slotsFor node.kind).1, Slot slot) :
    Steps Label Slot (ofPath label path).entries := by
  have prepended : ∀ entries, Steps Label Slot entries →
      Steps Label Slot (prependFrames label path.current path.above entries) := by
    induction reached with
    | root _ => exact fun _ steps => steps
    | @child path key id _ refers _ ih =>
        intro entries steps
        obtain ⟨_, node, found, listed, _⟩ := refers
        have above : ∀ {other}, other ∈ path.chain → other ∈ (path.below key id).chain :=
          List.mem_cons_of_mem _
        refine ih (fun other member => labelled other (above member))
          (fun other member => named other (above member)) _ ?_
        have parent : path.node ∈ path.chain := List.mem_cons_self
        exact .outer (labelled path.node (above parent))
          (named path.node (above parent) node found key.name listed) steps
  exact prepended _ (.innermost (labelled path.node List.mem_cons_self))

theorem getLast?_words_render {outer : List ScopeEntry} {label : String}
    (blankless : ' ' ∉ label.toList) :
    ((ScopePath.mk (outer ++ [⟨label, none⟩])).render.toList.splitOnP (· == ' ')).getLast? =
      some label.toList := by
  induction outer with
  | nil =>
      have apart : ∀ c ∈ label.toList, (c == ' ') = false := fun c member =>
        beq_eq_false_iff_ne.mpr fun blank => blankless (blank ▸ member)
      simp [render, Text.joined, ScopeEntry.render, List.splitOnP_eq_singleton apart]
  | cons entry outer ih =>
      have text : (ScopePath.mk (entry :: outer ++ [⟨label, none⟩])).render.toList =
          entry.render.toList ++
            ' ' :: (ScopePath.mk (outer ++ [⟨label, none⟩])).render.toList := by
        cases outer <;> simp [render, Text.joined]
      rw [text, List.splitOnP_append_cons _ _ (by simp), List.getLast?_append, ih]
      rfl

/-- Places whose scopes have one text have one label, if their labels have no blanks. -/
theorem label_eq_of_render_eq {label : NodeId → String} {left right : Path}
    (leftFree : ' ' ∉ (label left.node).toList) (rightFree : ' ' ∉ (label right.node).toList)
    (same : (ofPath label left).render = (ofPath label right).render) :
    label left.node = label right.node := by
  have innermost : ∀ path : Path, (ofPath label path) =
      ⟨(stepsAbove label path.current path.above).reverse ++ [⟨label path.node, none⟩]⟩ := by
    intro path
    have entries := congrArg List.reverse (reverse_entries_ofPath label path)
    rw [List.reverse_reverse, List.reverse_cons] at entries
    rw [← entries]
  have words := congrArg (fun text : String => (text.toList.splitOnP (· == ' ')).getLast?) same
  simp only [innermost, getLast?_words_render leftFree, getLast?_words_render rightFree,
    Option.some.injEq] at words
  exact String.toList_inj.mp words

end ScopePath
end Spellspan.Scope
