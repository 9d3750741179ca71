import Spellspan.Surroundings.Yaml.Literal

/-!
The tokens of a text. Outside of brackets the columns decide where blocks begin and end. That
something is a key shows only at the colon behind it, so the place where a key may have begun is
kept until then, for every bracket that is open.
-/
set_option autoImplicit false

namespace Spellspan.Yaml

structure PossibleKey where
  position : Nat
  place : Place
  isRequired : Bool

/-- The greatest number of bytes from the beginning of a key to its colon. -/
def maxKeyWidth : Nat := 1024

/-- Whether a colon is near enough to the beginning of a key: on the same line, and within the
greatest distance. -/
def PossibleKey.reaches (key : PossibleKey) (colon : Place) : Bool :=
  key.place.line == colon.line && colon.offset ≤ key.place.offset + maxKeyWidth

structure Layout where
  cursor : Cursor
  /-- The column of the innermost block; there is none before the first. -/
  indent : Int := -1
  outerIndents : List Int := []
  key : Option PossibleKey := none
  outerKeys : List (Option PossibleKey) := []
  keyAllowed : Bool := true
  tokens : List Token := []
  count : Nat := 0

namespace Layout

def inFlow (layout : Layout) : Bool :=
  !layout.outerKeys.isEmpty

def emit (layout : Layout) (token : Token) : Layout :=
  { layout with tokens := token :: layout.tokens, count := layout.count + 1 }

def insert (layout : Layout) (position : Nat) (token : Token) : Layout :=
  let (behind, before) := layout.tokens.splitAt (layout.count - position)
  { layout with tokens := behind ++ token :: before, count := layout.count + 1 }

/-- The columns of blocks that go on at a column, the innermost first, and the number of those that
end before it. -/
def openBlocks (column : Int) : Int → List Int → Nat → Int × List Int × Nat
  | indent, [], closed => (indent, [], closed)
  | indent, outer :: rest, closed =>
    if column < indent then openBlocks column outer rest (closed + 1)
    else (indent, outer :: rest, closed)

/-- Ends the blocks that a column is to the left of. In brackets columns do not count. -/
def unroll (layout : Layout) (column : Int) : Layout :=
  if layout.inFlow then layout
  else
    let (indent, outerIndents, closed) := openBlocks column layout.indent layout.outerIndents 0
    { layout with
      indent, outerIndents
      tokens := List.replicate closed .blockEnd ++ layout.tokens
      count := layout.count + closed }

/-- Begins a block at a column to the right of the innermost, behind the first so many tokens. In
brackets columns do not count. -/
def roll (layout : Layout) (column position : Nat) (token : Token) : Layout :=
  if layout.inFlow || (column : Int) ≤ layout.indent then layout
  else { layout with indent := column, outerIndents := layout.indent :: layout.outerIndents }.insert
    position token

/-- Gives up the key that may have begun; a required one cannot be given up. -/
def dropKey? (layout : Layout) : Option Layout :=
  if layout.key.any (·.isRequired) then none else some { layout with key := none }

def saveKey? (layout : Layout) : Option Layout :=
  if layout.keyAllowed then
    (layout.dropKey?).map fun dropped =>
      { dropped with
        key := some {
          position := layout.count
          place := layout.cursor.place
          isRequired := !layout.inFlow && layout.indent == layout.cursor.column } }
  else some layout

def take (layout : Layout) (width : Nat) (keyAllowed : Bool) (token : Token) : Layout :=
  { layout with cursor := layout.cursor.past width, keyAllowed }.emit token

/-- A mark before or behind a document, or a directive, at which all blocks end. -/
def boundary? (layout : Layout) : Option Layout :=
  (layout.unroll (-1)).dropKey?.map fun layout => { layout with keyAllowed := false }

def opening? (layout : Layout) (token : Token) : Option Layout :=
  (layout.saveKey?).map fun layout =>
    { layout with key := none, outerKeys := layout.key :: layout.outerKeys }.take 1 true token

def closing? (layout : Layout) (token : Token) : Option Layout :=
  (layout.dropKey?).map fun layout =>
    let layout := match layout.outerKeys with
      | [] => layout
      | key :: outerKeys => { layout with key, outerKeys }
    layout.take 1 false token

/-- A dash or a question mark at the beginning of an item or of a key. Outside of brackets a block
may begin with it. -/
def marker? (layout : Layout) (start token : Token) (keyAllowed : Bool) : Option Layout :=
  if !layout.inFlow && !layout.keyAllowed then none
  else (layout.roll layout.cursor.column layout.count start).dropKey?.map fun layout =>
    layout.take 1 keyAllowed token

/-- A colon. Behind a key on the same line that key is marked, and a block may begin with it. -/
def colon? (layout : Layout) : Option Layout :=
  match layout.key with
  | some key =>
    if key.reaches layout.cursor.place then
      let marked := (layout.insert key.position .key).roll key.place.column
        key.position .entriesStart
      some ({ marked with key := none }.take 1 false .value)
    else if key.isRequired then none
    else withoutKey layout
  | none => withoutKey layout
where
  withoutKey (layout : Layout) : Option Layout :=
    if layout.inFlow then some ({ layout with key := none }.take 1 false .value)
    else if layout.keyAllowed then
      some (({ layout with key := none }.roll layout.cursor.column layout.count .entriesStart).take
        1 true .value)
    else none

def scanned? (layout : Layout) (read : Option (Token × Cursor)) : Option Layout := do
  let layout ← layout.saveKey?
  let (token, cursor) ← read
  some ({ layout with cursor, keyAllowed := false }.emit token)

def scalar? (layout : Layout) (style : Style) (read : Option Scanned) : Option Layout := do
  let layout ← layout.saveKey?
  let scanned ← read
  some ({ layout with cursor := scanned.cursor, keyAllowed := scanned.broken }.emit
    (.scalar style scanned.text))

/-- A scalar that is a block of lines, behind which a key may begin. -/
def block? (layout : Layout) (isLiteral : Bool) : Option Layout := do
  let layout ← layout.dropKey?
  let scanned ← blockScalar? isLiteral layout.indent (layout.cursor.past 1)
  let style := if isLiteral then Style.literal else .folded
  some ({ layout with cursor := scanned.cursor, keyAllowed := true }.emit
    (.scalar style scanned.text))

/-- Characters that begin something other than a text without quotes. -/
def indicators : List Char :=
  "-?:,[]\x7b\x7d#&*!|>'\"%@\x60".toList

def startsPlain (inFlow : Bool) : List Char → Bool
  | [] => false
  | c :: rest =>
    !(isBlank c || isBreak c || indicators.contains c) || (c == '-' && !startsBlank rest) ||
      (!inFlow && (c == '?' || c == ':') && !startsBlank rest)

def token? (layout : Layout) : Option Layout :=
  let cursor := layout.cursor
  let inFlow := layout.inFlow
  match cursor.rest with
  | [] => none
  | c :: rest =>
    if cursor.column == 0 && c == '%' then do
      let layout ← layout.boundary?
      let (token, cursor) ← directive? (cursor.past 1)
      some ({ layout with cursor }.emit token)
    else if cursor.column == 0 && startsMark cursor.rest then
      (layout.boundary?).map fun layout =>
        layout.take 3 false (if c == '-' then .documentStart else .documentEnd)
    else if c == '[' then layout.opening? .bracketOpen
    else if c == '\x7b' then layout.opening? .braceOpen
    else if c == ']' then layout.closing? .bracketClose
    else if c == '\x7d' then layout.closing? .braceClose
    else if c == ',' then (layout.dropKey?).map fun layout => layout.take 1 true .comma
    else if c == '-' && startsBlank rest then layout.marker? .itemsStart .dash true
    else if c == '?' && (inFlow || startsBlank rest) then layout.marker? .entriesStart
      .key (!inFlow)
    else if c == ':' && (inFlow || startsBlank rest) then layout.colon?
    else if c == '*' then layout.scanned? ((anchorName? (cursor.past 1)).map fun (name, cursor) =>
      (.alias name, cursor))
    else if c == '&' then layout.scanned? ((anchorName? (cursor.past 1)).map fun (name, cursor) =>
      (.anchor name, cursor))
    else if c == '!' then layout.scanned? (tagToken? inFlow cursor)
    else if c == '|' && !inFlow then layout.block? true
    else if c == '>' && !inFlow then layout.block? false
    else if c == '\'' then layout.scalar? .quoted (singleQuoted? {} (cursor.place.past c) rest)
    else if c == '"' then layout.scalar? .quoted
      (doubleQuoted? .outside {} (cursor.place.past c) rest)
    else if startsPlain inFlow cursor.rest then
      layout.scalar? .plain (plain? inFlow (layout.indent + 1).toNat {} cursor.place cursor.rest)
    else none

def skip (layout : Layout) : Layout :=
  let (keyAllowed, cursor) :=
    skipFrom layout.inFlow layout.keyAllowed false layout.cursor.place layout.cursor.rest
  { layout with keyAllowed, cursor }.unroll cursor.column

def run? : Nat → Layout → Option (List Token)
  | 0, _ => none
  | bound + 1, layout =>
    let layout := layout.skip
    if layout.cursor.rest.isEmpty then (layout.boundary?).map fun layout => layout.tokens.reverse
    else (layout.token?).bind (run? bound)

end Layout

def tokens? (text : String) : Option (List Token) := do
  let cursor ← Cursor.start? text
  Layout.run? (cursor.rest.length + 1) { cursor }

end Spellspan.Yaml
