import Spellspan.Surroundings.Glob.Basic

/-!
Reading globs. Braces hold alternatives and may be nested, brackets hold a set of bytes, a backslash
takes the special meaning from the next character.
-/
set_option autoImplicit false

namespace Spellspan.Glob

inductive GlobError where
  | unclosedClass
  | invalidRange (first last : Char)
  | unopenedAlternates
  | unclosedAlternates
  | danglingEscape
  deriving DecidableEq, Repr

def GlobError.reason : GlobError → String
  | .unclosedClass => "unclosed character class; missing ']'"
  | .invalidRange first last => s!"invalid range; '{first}' > '{last}'"
  | .unopenedAlternates =>
      "unopened alternate group; missing '\x7b' (maybe escape '\x7d' with '[\x7d]'?)"
  | .unclosedAlternates =>
      "unclosed alternate group; missing '\x7d' (maybe escape '\x7b' with '[\x7b]'?)"
  | .danglingEscape => "dangling '\\'"

def GlobError.message (error : GlobError) (glob : String) : String :=
  s!"error parsing glob '{glob}': {error.reason}"

/-- A set of bytes while it is being read. The ranges are in reverse order. -/
structure ClassDraft where
  negated : Bool := false
  ranges : List (Char × Char) := []
  fresh : Bool := true
  first : Bool := true
  inRange : Bool := false

namespace ClassDraft

def add (draft : ClassDraft) (c : Char) : Except GlobError ClassDraft :=
  match draft.inRange, draft.ranges with
  | true, (low, _) :: rest =>
    if c < low then .error (.invalidRange low c)
    else .ok { draft with ranges := (low, c) :: rest, fresh := false, first := false, inRange := false }
  | _, ranges => .ok { draft with ranges := (c, c) :: ranges, fresh := false, first := false, inRange := false }

/-- The finished set; a dash at its end is a member. -/
def finish (draft : ClassDraft) : Token :=
  let ranges := if draft.inRange then ('-', '-') :: draft.ranges else draft.ranges
  .oneOf draft.negated ranges.reverse

end ClassDraft

/-- A group of alternatives that was opened: what stands before it, and its finished alternatives,
both in reverse order. -/
structure Group where
  before : List Token
  branches : List (List Token)

/-- A glob while it is being read: the open groups, the innermost first, and the parts since then in
reverse order. -/
structure Draft where
  groups : List Group := []
  current : List Token := []

namespace Draft

def push (draft : Draft) (token : Token) : Draft :=
  { draft with current := token :: draft.current }

def pushStars (draft : Draft) : Draft :=
  (draft.push .zeroOrMore).push .zeroOrMore

def openGroup (draft : Draft) : Draft :=
  { groups := ⟨draft.current, []⟩ :: draft.groups, current := [] }

/-- A comma begins the next alternative inside a group, and is itself outside of one. -/
def comma (draft : Draft) : Draft :=
  match draft.groups with
  | [] => draft.push (.literal ',')
  | group :: outer => {
    groups := ⟨group.before, draft.current.reverse :: group.branches⟩ :: outer
    current := [] }

def closeGroup (draft : Draft) : Except GlobError Draft :=
  match draft.groups with
  | [] => .error .unopenedAlternates
  | group :: outer =>
    let branches := (draft.current.reverse :: group.branches).reverse
    .ok { groups := outer, current := .alternates branches :: group.before }

/-- Puts directories in the place of the separator before two stars. -/
def replaceSeparator (draft : Draft) (token : Token) : Draft :=
  match draft.current with
  | .recursivePrefix :: _ => draft
  | .recursiveSuffix :: _ => draft
  | _ :: rest => { draft with current := token :: rest }
  | [] => draft

/-- Whether two stars after a character may stand for directories: after a separator, or at the
start of an alternative. -/
def admitsDirectories (draft : Draft) (before : Option Char) : Bool :=
  before == some '/' || (!draft.groups.isEmpty && (before == some ',' || before == some '\x7b'))

def starsSeparator (draft : Draft) (before : Option Char) : Option Draft :=
  if draft.current.isEmpty then some (draft.push .recursivePrefix)
  else if draft.admitsDirectories before then some (draft.replaceSeparator .recursiveZeroOrMore)
  else none

def starsEnd (draft : Draft) (before : Option Char) : Draft :=
  if draft.admitsDirectories before then draft.replaceSeparator .recursiveSuffix
  else draft.pushStars

/-- Two stars that are followed by something other than a separator. -/
def stars (draft : Draft) (before next : Option Char) : Draft :=
  match draft.current, next with
  | [], none => draft.push .recursivePrefix
  | [], some _ => draft.pushStars
  | _ :: _, none => draft.starsEnd before
  | _ :: _, some c => if !draft.groups.isEmpty && (c == ',' || c == '\x7d') then
      draft.starsEnd before else draft.pushStars

end Draft

/-- Reads the rest of a glob, inside or outside of brackets, after the character read last. -/
def parseFrom : Option ClassDraft → Draft → Option Char → List Char → Except GlobError Draft
  | some _, _, _, [] => .error .unclosedClass
  | some members, draft, _, c :: rest =>
    if members.fresh && (c == '!' || c == '^') then
      parseFrom (some { members with negated := true, fresh := false }) draft (some c) rest
    else if c == ']' && !members.first then parseFrom none (draft.push members.finish) (some c) rest
    else if c == '-' && !members.first && !members.inRange then
      parseFrom (some { members with inRange := true }) draft (some c) rest
    else
      match members.add c with
      | .ok members => parseFrom (some members) draft (some c) rest
      | .error error => .error error
  | none, draft, _, [] => if draft.groups.isEmpty then .ok draft else .error .unclosedAlternates
  | none, _, _, ['\\'] => .error .danglingEscape
  | none, draft, _, '\\' :: c :: rest => parseFrom none (draft.push (.literal c)) (some c) rest
  | none, draft, before, '*' :: '*' :: '/' :: rest =>
    match draft.starsSeparator before with
    | some draft => parseFrom none draft (some '/') rest
    | none => parseFrom none (draft.pushStars.push (.literal '/')) (some '/') rest
  | none, draft, before, '*' :: '*' :: rest =>
      parseFrom none (draft.stars before rest.head?) (some '*') rest
  | none, draft, _, c :: rest =>
    if c == '*' then parseFrom none (draft.push .zeroOrMore) (some c) rest
    else if c == '?' then parseFrom none (draft.push .any) (some c) rest
    else if c == '[' then parseFrom (some {}) draft (some c) rest
    else if c == '\x7b' then parseFrom none draft.openGroup (some c) rest
    else if c == '\x7d' then
      match draft.closeGroup with
      | .ok draft => parseFrom none draft (some c) rest
      | .error error => .error error
    else if c == ',' then parseFrom none draft.comma (some c) rest
    else parseFrom none (draft.push (.literal c)) (some c) rest

def parse (text : String) : Except GlobError (List Token) :=
  (parseFrom none {} none text.toList).map fun draft => draft.current.reverse

end Spellspan.Glob
