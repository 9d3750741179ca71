import Spellspan.Tree.Basic

/-!
The slots of one node while its children are being converted. A slot that gets a second child, or is
declared to be a list, becomes a list; a slot with one child holds that child.
-/
set_option autoImplicit false

namespace Spellspan.Parse

open Spellspan.Tree (NodeId Slot Builder)

/-- The children collected for one slot. -/
structure SlotDraft where
  name : String
  ids : Array NodeId
  many : Bool

/-- The slots of a node in the order in which they were first used. -/
abbrev Draft := List SlotDraft

namespace Draft

def push (name : String) (id : NodeId) (many : Bool) : Draft → Draft
  | [] => [⟨name, #[id], many⟩]
  | entry :: rest =>
    if entry.name = name then ⟨name, entry.ids.push id, true⟩ :: rest
    else entry :: push name id many rest

/-- Makes a slot a list, even if it stays empty. -/
def declareList (name : String) : Draft → Draft
  | [] => [⟨name, #[], true⟩]
  | entry :: rest => if entry.name = name then ⟨name, entry.ids, true⟩ :: rest
      else entry :: declareList name rest

def contents (entry : SlotDraft) : Slot :=
  match entry.ids.toList, entry.many with
  | [single], false => .node single
  | ids, _ => .nodes ids

def names (draft : Draft) : List String :=
  draft.map SlotDraft.name

def apply (draft : Draft) (id : NodeId) (builder : Builder) : Builder :=
  draft.foldl (fun builder entry => builder.setSlot id entry.name (contents entry)) builder

end Draft
end Spellspan.Parse
