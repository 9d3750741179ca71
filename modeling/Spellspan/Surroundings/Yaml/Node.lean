import Spellspan.Surroundings.Yaml.Layout

/-!
Values of YAML documents. A value may be named by an anchor, and an alias stands for the value that
was last named so; inside that value itself it has no end.

Reading takes the tokens of a text one after the other. Every step takes one or goes one level into
a value, so a multiple of their number bounds the steps.
-/
set_option autoImplicit false

namespace Spellspan

/-- A value of a document. A scalar without quotes is still to be typed. -/
inductive Yaml where
  | scalar (style : Yaml.Style) (text : String)
  | sequence (items : List Yaml)
  | mapping (entries : List (Yaml × Yaml))
  | tagged (tag : String) (value : Yaml)
  /-- A named value that stands here again, with the number of aliases that are followed to write it
  out. -/
  | alias (value : Yaml) (followed : Nat)
  | endless

namespace Yaml

def empty : Yaml :=
  .scalar .plain ""

mutual

def followed : Yaml → Nat
  | .scalar _ _ => 0
  | .sequence items => followedInItems items
  | .mapping entries => followedInEntries entries
  | .tagged _ value => value.followed
  | .alias _ followed => followed
  | .endless => 1

def followedInItems : List Yaml → Nat
  | [] => 0
  | item :: rest => item.followed + followedInItems rest

def followedInEntries : List (Yaml × Yaml) → Nat
  | [] => 0
  | (key, value) :: rest => key.followed + value.followed + followedInEntries rest

end

mutual

/-- Number of beginnings and ends of values in a text. A scalar and an alias count once. -/
def extent : Yaml → Nat
  | .scalar _ _ => 1
  | .sequence items => extentOfItems items + 2
  | .mapping entries => extentOfEntries entries + 2
  | .tagged _ value => value.extent
  | .alias _ _ => 1
  | .endless => 1

def extentOfItems : List Yaml → Nat
  | [] => 0
  | item :: rest => item.extent + extentOfItems rest

def extentOfEntries : List (Yaml × Yaml) → Nat
  | [] => 0
  | (key, value) :: rest => key.extent + value.extent + extentOfEntries rest

end

/-- A value without its type, and without the alias that stands for it. -/
def bare : Yaml → Yaml
  | .tagged _ value => value
  | .alias (.tagged _ value) _ => value
  | .alias value _ => value
  | value => value

def tag? : Yaml → Option String
  | .tagged tag _ => some tag
  | .alias (.tagged tag _) _ => some tag
  | _ => none

/-- Tokens that are left to read, with the names that were given so far. -/
structure Reader where
  tokens : List Token
  handles : List (String × String)
  /-- Named values, the last first. One has no value while it is read. -/
  anchors : List (String × Option Yaml) := []

abbrev Reading := Option (Yaml × Reader)

namespace Reader

def next (reader : Reader) : Reader :=
  { reader with tokens := reader.tokens.tail }

def starts (reader : Reader) (tokens : List Token) : Bool :=
  reader.tokens.head?.any tokens.contains

def named? (reader : Reader) (name : String) : Option Yaml :=
  (reader.anchors.lookup name).map fun value =>
    match value with
    | some value => .alias value (value.followed + 1)
    | none => .endless

/-- Gives a value the name that was noted when there were so many. -/
def finish (reader : Reader) (position : Nat) (value : Yaml) : Reader :=
  let index := reader.anchors.length - 1 - position
  { reader with anchors := reader.anchors.modify index fun anchor => (anchor.1, some value) }

def expanded? (reader : Reader) (handle suffix : String) : Option String :=
  if handle == "" then some suffix else (reader.handles.lookup handle).map fun expansion =>
    expansion ++ suffix

end Reader

structure Properties where
  anchor : Option String := none
  tag : Option String := none

def properties? (reader : Reader) : Option (Properties × Reader) :=
  match reader.tokens with
  | .anchor name :: .tag handle suffix :: tokens =>
    (reader.expanded? handle suffix).map fun tag =>
      ({ anchor := some name, tag := some tag }, { reader with tokens })
  | .tag handle suffix :: .anchor name :: tokens =>
    (reader.expanded? handle suffix).map fun tag =>
      ({ anchor := some name, tag := some tag }, { reader with tokens })
  | .anchor name :: tokens => some ({ anchor := some name }, { reader with tokens })
  | .tag handle suffix :: tokens =>
    (reader.expanded? handle suffix).map fun tag => ({ tag := some tag }, { reader with tokens })
  | _ => some ({}, reader)

/-- A value with its type. A lone exclamation mark is a type like any other. -/
def typed : Option String → Yaml → Yaml
  | none, value => value
  | some tag, value => .tagged tag value

/-- A value behind its anchor and its tag. The name was noted when there were so many. -/
def finished (properties : Properties) (position : Nat) (value : Yaml) (reader : Reader) :
    Yaml × Reader :=
  let value := typed properties.tag value
  (value, if properties.anchor.isSome then reader.finish position value else reader)

/-- Which values may stand at a place: blocks, and sequences at the column of the key before them.
-/
inductive Context where
  | flow
  | block
  | entry
  deriving DecidableEq, Repr

mutual

def node? (context : Context) : Nat → Reader → Reading
  | 0, _ => none
  | bound + 1, reader =>
    match reader.tokens with
    | .alias name :: _ => (reader.named? name).map fun value => (value, reader.next)
    | _ => do
      let (properties, behind) ← properties? reader
      let position := behind.anchors.length
      let behind := match properties.anchor with
        | some name => { behind with anchors := (name, none) :: behind.anchors }
        | none => behind
      let (value, behind) ← content? context (properties.anchor.isSome ||
        properties.tag.isSome) bound behind
      some (finished properties position value behind)

/-- Reads a value behind its anchor and its tag. Behind one of them nothing needs to be written. -/
def content? (context : Context) (mayBeEmpty : Bool) : Nat → Reader → Reading
  | 0, _ => none
  | bound + 1, reader =>
    match reader.tokens.head? with
    | some .dash =>
      if context = .entry then indentlessItems? bound [] reader
      else if mayBeEmpty then some (empty, reader) else none
    | some (.scalar style text) => some (.scalar style text, reader.next)
    | some .bracketOpen => flowItems? bound [] reader.next
    | some .braceOpen => flowEntries? bound [] reader.next
    | some .itemsStart =>
      if context != .flow then blockItems? bound [] reader.next
      else if mayBeEmpty then some (empty, reader) else none
    | some .entriesStart =>
      if context != .flow then blockEntries? bound [] reader.next
      else if mayBeEmpty then some (empty, reader) else none
    | _ => if mayBeEmpty then some (empty, reader) else none

/-- Reads a value; before some tokens there is none. -/
def nodeUnless? (context : Context) (stops : List Token) : Nat → Reader → Reading
  | 0, _ => none
  | bound + 1, reader => if reader.starts stops then some (empty, reader)
      else node? context bound reader

/-- Reads the items of a block after those already read, in reverse order. -/
def blockItems? : Nat → List Yaml → Reader → Reading
  | 0, _, _ => none
  | bound + 1, items, reader =>
    if reader.starts [.dash] then do
      let (item, behind) ← nodeUnless? .block [.dash, .blockEnd] bound reader.next
      blockItems? bound (item :: items) behind
    else if reader.starts [.blockEnd] then some (.sequence items.reverse, reader.next)
    else none

/-- Reads the items of a sequence at the column of the key before it, after those already read, in
reverse order. -/
def indentlessItems? : Nat → List Yaml → Reader → Reading
  | 0, _, _ => none
  | bound + 1, items, reader =>
    if reader.starts [.dash] then do
      let (item, behind) ← nodeUnless? .block [.dash, .key, .value, .blockEnd] bound reader.next
      indentlessItems? bound (item :: items) behind
    else some (.sequence items.reverse, reader)

/-- Reads the entries of a block after those already read, in reverse order. -/
def blockEntries? : Nat → List (Yaml × Yaml) → Reader → Reading
  | 0, _, _ => none
  | bound + 1, entries, reader =>
    if reader.starts [.key] then do
      let stops := [Token.key, .value, .blockEnd]
      let (key, behind) ← nodeUnless? .entry stops bound reader.next
      let (value, behind) ←
        if behind.starts [.value] then nodeUnless? .entry stops bound behind.next
        else some (empty, behind)
      blockEntries? bound ((key, value) :: entries) behind
    else if reader.starts [.blockEnd] then some (.mapping entries.reverse, reader.next)
    else none

/-- Reads the items of a sequence in brackets after those already read, in reverse order. -/
def flowItems? : Nat → List Yaml → Reader → Reading
  | 0, _, _ => none
  | bound + 1, items, reader =>
    if reader.starts [.bracketClose] then some (.sequence items.reverse, reader.next)
    else do
      let (item, behind) ← flowItem? bound reader
      if behind.starts [.comma] then flowItems? bound (item :: items) behind.next
      else if behind.starts [.bracketClose] then
        some (.sequence (item :: items).reverse, behind.next)
      else none

/-- Reads an item in brackets, which may be a single entry of a mapping. A token that stands in the
place of its key is passed over. -/
def flowItem? : Nat → Reader → Reading
  | 0, _ => none
  | bound + 1, reader =>
    if reader.starts [.key] then do
      let inner := reader.next
      let (key, behind) ←
        if inner.starts [.value, .comma, .bracketClose] then some (empty, inner.next)
        else node? .flow bound inner
      let (value, behind) ←
        if behind.starts [.value] then nodeUnless? .flow [.comma, .bracketClose] bound behind.next
        else some (empty, behind)
      some (.mapping [(key, value)], behind)
    else node? .flow bound reader

/-- Reads the entries of a mapping in braces after those already read, in reverse order. -/
def flowEntries? : Nat → List (Yaml × Yaml) → Reader → Reading
  | 0, _, _ => none
  | bound + 1, entries, reader =>
    if reader.starts [.braceClose] then some (.mapping entries.reverse, reader.next)
    else do
      let (entry, behind) ← flowEntry? bound reader
      if behind.starts [.comma] then flowEntries? bound (entry :: entries) behind.next
      else if behind.starts [.braceClose] then
        some (.mapping (entry :: entries).reverse, behind.next)
      else none

/-- Reads an entry in braces. Without a key mark it has no value. -/
def flowEntry? : Nat → Reader → Option ((Yaml × Yaml) × Reader)
  | 0, _ => none
  | bound + 1, reader =>
    if reader.starts [.key] then do
      let (key, behind) ← nodeUnless? .flow [.value, .comma, .braceClose] bound reader.next
      let (value, behind) ←
        if behind.starts [.value] then nodeUnless? .flow [.comma, .braceClose] bound behind.next
        else some (empty, behind)
      some ((key, value), behind)
    else (node? .flow bound reader).map fun (key, behind) => ((key, empty), behind)

end

/-- Passes over the directives before a document. There is at most one version, which must be known,
and no handle is given twice. -/
def directives? (versionSeen : Bool) (handles : List (String × String)) :
    List Token → Option (List (String × String) × List Token)
  | .version major minor :: tokens =>
    if versionSeen || major != 1 || (minor != 1 && minor != 2) then none
    else directives? true handles tokens
  | .handle name expansion :: tokens =>
    if (handles.lookup name).isSome then none
    else directives? versionSeen ((name, expansion) :: handles) tokens
  | tokens => some (handles, tokens)

def standardHandles : List (String × String) :=
  [("!", "!"), ("!!", "tag:yaml.org,2002:")]

def document? (tokens : List Token) : Reading := do
  let (handles, behind) ← directives? false [] tokens
  let bound := 4 * tokens.length + 8
  let reader : Reader := { tokens := behind, handles := handles ++ standardHandles }
  match tokens.head?, behind.head? with
  | none, _ => some (empty, reader)
  | some _, some .documentStart => documentContent bound reader.next
  | some (.version _ _), _ => none
  | some (.handle _ _), _ => none
  | _, _ => node? .block bound reader
where
  documentContent (bound : Nat) (reader : Reader) : Reading :=
    match reader.tokens.head? with
    | none => some (empty, reader)
    | some (.version _ _) => some (empty, reader)
    | some (.handle _ _) => some (empty, reader)
    | some .documentStart => some (empty, reader)
    | some .documentEnd => some (empty, reader)
    | some _ => node? .block bound reader

/-- Reads a text with at most one document; without one there is nothing. -/
def parse? (text : String) : Option Yaml := do
  let tokens ← tokens? text
  let (value, behind) ← document? tokens
  if behind.tokens.all (· == .documentEnd) then some value else none

end Yaml
end Spellspan
