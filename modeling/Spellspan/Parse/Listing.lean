import Spellspan.Json.Value
import Spellspan.Parse.Tree

/-!
Parses that are handed over as data: a list of rows in preorder, each with its depth, the field it
stands in or null, its kind, 1 for a named phrase or 0 for a token, and the two ends of its span.
-/
set_option autoImplicit false

namespace Spellspan.ParseTree

def Row.ofJson? : Json → Option Row
  | .array [depth, field, kind, named, start, stop] => do
    let depth ← depth.asNat?
    let kind ← kind.asString?
    let named ← named.asNat?
    let start ← start.asNat?
    let stop ← stop.asNat?
    some { depth, field := field.asString?, kind, named := named == 1, span := ⟨start, stop⟩ }
  | _ => none

def ofJson? (value : Json) : Option ParseTree := do
  let rows ← (← value.asArray?).mapM Row.ofJson?
  ofRows? rows

end Spellspan.ParseTree
