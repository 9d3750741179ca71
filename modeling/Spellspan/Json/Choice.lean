import Spellspan.Json.Value

/-!
Names that stand for one of a few choices. A choice is written as its name, or as an object whose
only field is the name, with nothing in it.
-/
set_option autoImplicit false

namespace Spellspan.Json

def choice? : Json → Option String
  | .string name => some name
  | .object [(name, .null)] => some name
  | _ => none

end Spellspan.Json
