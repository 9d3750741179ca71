import Spellspan.Scope.Path
import Spellspan.Text.Quoted

/-!
Scope patterns. A pattern is a list of segments that is laid against the inner end of a scope path.
Its score grows with how much it says: each component of a label, a key, a wildcard for one step,
and least of all a wildcard for any number of outer steps.
-/
set_option autoImplicit false

namespace Spellspan.Scope

/-- One segment of a pattern. -/
inductive Segment where
  /-- Any number of outer steps; only the first segment of a pattern. -/
  | anyDepth
  | anyOne
  /-- A step whose label starts with these components, and whose key is the given one when there is
  one. -/
  | label (components : List String) (key : Option String)
  deriving DecidableEq, Repr

/-- Why a text is no pattern. -/
inductive PatternError where
  | empty
  | misplacedAnyDepth (position : Nat)
  | invalidSegment (segment : String)
  deriving DecidableEq, Repr

def PatternError.message : PatternError → String
  | .empty => "scope pattern is empty"
  | .misplacedAnyDepth position =>
      s!"`**` is only allowed as the first segment (found at position {position})"
  | .invalidSegment segment => s!"invalid scope segment {Text.quoted segment}"

def componentWeight : Nat := 8

def keyWeight : Nat := 4

def anyOneWeight : Nat := 2

def anyDepthWeight : Nat := 1

def isNameStart (c : Char) : Bool :=
  ('A' ≤ c && c ≤ 'Z') || ('a' ≤ c && c ≤ 'z') || c == '_' || c == '$'

def isNameChar (c : Char) : Bool :=
  isNameStart c || ('0' ≤ c && c ≤ '9')

/-- Names start like a word and go on like one. -/
def isName : List Char → Bool
  | [] => false
  | c :: rest => isNameStart c && rest.all isNameChar

/-- Components after the first may start with a digit. -/
def isComponent (text : List Char) : Bool :=
  !text.isEmpty && text.all isNameChar

def areComponents : List (List Char) → Bool
  | [] => false
  | first :: rest => isName first && rest.all isComponent

namespace Segment

def components? (text : List Char) : Option (List String) :=
  let parts := Text.pieces (· == '.') text
  if areComponents parts then some (parts.map String.ofList) else none

def parseLabel? (text : List Char) : Option Segment :=
  let dotted := text.takeWhile (· != '[')
  match text.drop dotted.length with
  | [] => (components? dotted).map fun components => .label components none
  | _ :: rest =>
    if rest.getLast? = some ']' && isName rest.dropLast then
      (components? dotted).map fun components =>
        .label components (some (String.ofList rest.dropLast))
    else none

def parse (position : Nat) (text : String) : Except PatternError Segment :=
  if text = "**" then if position = 0 then .ok .anyDepth else .error (.misplacedAnyDepth position)
  else if text = "*" then .ok .anyOne
  else
    match parseLabel? text.toList with
    | some segment => .ok segment
    | none => .error (.invalidSegment text)

def render : Segment → String
  | .anyDepth => "**"
  | .anyOne => "*"
  | .label components none => Text.joined "." components
  | .label components (some key) => Text.joined "." components ++ "[" ++ key ++ "]"

def weight? (segment : Segment) (entry : ScopeEntry) : Option Nat :=
  match segment with
  | .anyDepth => some anyDepthWeight
  | .anyOne => some anyOneWeight
  | .label components key =>
    if components.isPrefixOf (Text.piecesOf '.' entry.label) then
      match key with
      | none => some (componentWeight * components.length)
      | some key => if entry.key =
          some key then some (componentWeight * components.length + keyWeight) else none
    else none

end Segment

/-- A pattern of at least one segment. -/
structure ScopePattern where
  segments : List Segment
  deriving DecidableEq, Repr

namespace ScopePattern

/-- Reads segments from a position on; the leftmost bad one decides the error. -/
def parseSegments : Nat → List String → Except PatternError (List Segment)
  | _, [] => .ok []
  | position, text :: rest =>
    match Segment.parse position (Text.trimmed text) with
    | .ok segment => (parseSegments (position + 1) rest).map (segment :: ·)
    | .error error => .error error

def ofSegments (texts : List String) : Except PatternError ScopePattern :=
  match parseSegments 0 texts with
  | .ok [] => .error .empty
  | .ok segments => .ok ⟨segments⟩
  | .error error => .error error

def parse (text : String) : Except PatternError ScopePattern :=
  ofSegments (Text.wordsOf text)

def render (pattern : ScopePattern) : String :=
  Text.joined " " (pattern.segments.map Segment.render)

def startsAnyDepth (pattern : ScopePattern) : Bool :=
  pattern.segments.head? == some .anyDepth

/-- The segments that each need a step. -/
def required (pattern : ScopePattern) : List Segment :=
  match pattern.segments with
  | .anyDepth :: rest => rest
  | segments => segments

/-- The weights of segments laid against the inner end of a path, both given innermost first. -/
def weights? : List Segment → List ScopeEntry → Option Nat
  | [], _ => some 0
  | _ :: _, [] => none
  | segment :: segments, entry :: entries => do
    let weight ← segment.weight? entry
    let rest ← weights? segments entries
    some (weight + rest)

/-- How well the pattern fits a path; zero when it does not apply. -/
def score (pattern : ScopePattern) (path : ScopePath) : Nat :=
  match weights? pattern.required.reverse path.entries.reverse with
  | some weight => if pattern.startsAnyDepth then weight + anyDepthWeight else weight
  | none => 0

end ScopePattern
end Spellspan.Scope
