import Spellspan.Text.Pieces

/-!
Paths of files. A path keeps the text in which it was written; it is compared by its components,
which do not count repeated separators and inner dots.
-/
set_option autoImplicit false

namespace Spellspan.Files

/-- A component of a path. -/
inductive Component where
  | root
  | current
  | parent
  | name (text : String)
  deriving DecidableEq, Repr

namespace Component

def rank : Component → Nat
  | .root => 0
  | .current => 1
  | .parent => 2
  | .name _ => 3

/-- Whether one component comes before another: by kind, names by their text. -/
def precedes : Component → Component → Bool
  | .name left, .name right => left < right
  | left, right => left.rank < right.rank

/-- The component that a piece between separators stands for, inside a path. -/
def ofPiece? (piece : String) : Option Component :=
  if piece = "" || piece = "." then none
  else if piece = ".." then some .parent
  else some (.name piece)

end Component

/-- The components of a path. A dot counts only where the path begins with it, a separator only
where it makes the path absolute. -/
def components (path : String) : List Component :=
  match Text.piecesOf '/' path with
  | [] => []
  | first :: rest =>
    let inner := rest.filterMap Component.ofPiece?
    if first = "" then if rest.isEmpty then [] else .root :: inner
    else if first = "." then .current :: inner
    else (Component.ofPiece? first).toList ++ inner

def precedesIn : List Component → List Component → Bool
  | [], right => !right.isEmpty
  | _ :: _, [] => false
  | left :: lefts, right :: rights => if left = right then precedesIn lefts rights
      else left.precedes right

def fileName? (path : String) : Option String :=
  match (components path).getLast? with
  | some (.name text) => some text
  | _ => none

/-- What follows the last dot of a name. A dot at the start of a name begins no extension. -/
def extensionOf? (name : String) : Option String :=
  let reversed := name.toList.reverse
  let last := reversed.takeWhile (· != '.')
  match reversed.drop last.length with
  | _ :: _ :: _ => some (String.ofList last.reverse)
  | _ => none

def extension? (path : String) : Option String :=
  (fileName? path).bind extensionOf?

def bundleSuffix : String :=
  ".estree.json"

def isBundle (path : String) : Bool :=
  match fileName? path with
  | some name => bundleSuffix.toList.reverse.isPrefixOf name.toList.reverse
  | none => false

/-- Languages of source files. -/
inductive SourceLanguage where
  | javascript
  | typescript
  | tsx
  deriving DecidableEq, Repr

namespace SourceLanguage

def name : SourceLanguage → String
  | .javascript => "javascript"
  | .typescript => "typescript"
  | .tsx => "tsx"

def ofExtension? (extension : String) : Option SourceLanguage :=
  if ["js", "jsx", "mjs", "cjs"].contains extension then some .javascript
  else if ["ts", "mts", "cts"].contains extension then some .typescript
  else if extension = "tsx" then some .tsx
  else none

def ofPath? (path : String) : Option SourceLanguage :=
  (extension? path).bind ofExtension?

end SourceLanguage

def isSupported (path : String) : Bool :=
  isBundle path || (SourceLanguage.ofPath? path).isSome

end Spellspan.Files
