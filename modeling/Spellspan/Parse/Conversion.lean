import Spellspan.Parse.Draft
import Spellspan.Parse.Literal
import Spellspan.Parse.Mapping
import Spellspan.Parse.Tree
import Spellspan.SourceFile

/-!
From a concrete parse to a syntax tree. Kinds that scopes talk about get the names and the slots of
the standard table. Any other kind keeps its name; its children stand in their fields, or in
`children`, and the kind is noted with its slots so that a traversal reaches them. Comments leave
the tree and become the `comments` of the root.

Conversion descends a fixed number of levels, and counts the phrases it is in. A phrase at the limit
becomes a node without children, and a problem is noted; its comments are kept.
-/
set_option autoImplicit false

namespace Spellspan.Parse

open Spellspan.Tree (NodeId NodeValue Node Slot Span Builder TraversalError)

/-- Phrases nested deeper than this are not converted. -/
def maxDepth : Nat := 512

/-- What a conversion has made so far. -/
structure Conversion where
  builder : Builder := {}
  comments : Array NodeId := #[]
  extraKinds : List (String × List String) := []
  problems : Array TraversalError := #[]
  /-- How many phrases are being converted, each of them below the one before. -/
  depth : Nat := 0

abbrev Convert (α : Type) := StateM Conversion α

def pushNode (node : Node) : Convert NodeId :=
  modifyGet fun state =>
    let (id, builder) := state.builder.push node
    (id, { state with builder })

def pushKind (kind : String) (phrase : ParseTree) : Convert NodeId :=
  pushNode { kind, span := phrase.span }

def setSlot (id : NodeId) (name : String) (slot : Slot) : Convert Unit :=
  modify fun state => { state with builder := state.builder.setSlot id name slot }

/-- Sets the slots of a node as they were collected. -/
def applyDraft (draft : Draft) (id : NodeId) : Convert Unit :=
  modify fun state => { state with builder := draft.apply id state.builder }

/-- The text of a phrase; empty when its span does not fit the source. -/
def phraseText (source : List Char) (phrase : ParseTree) : List Char :=
  (phrase.span.text? source).getD []

def mergeNames (known names : List String) : List String :=
  names.foldl (fun known name => if known.contains name then known else known ++ [name]) known

/-- Notes the slots of a kind: with those noted before, or as a new kind behind the others. -/
def noteKindIn (kind : String) (slots : List String) : List (String × List String) →
    List (String × List String)
  | [] => [(kind, mergeNames [] slots)]
  | (noted, known) :: rest =>
    if noted = kind then (noted, mergeNames known slots) :: rest
    else (noted, known) :: noteKindIn kind slots rest

def noteKind (kind : String) (slots : List String) : Convert Unit :=
  modify fun state => { state with extraKinds := noteKindIn kind slots state.extraKinds }

/-- A comment becomes a node among the comments of the root. -/
def liftComment (source : List Char) (phrase : ParseTree) : Convert Unit := do
  let (kind, text) := commentParts (phraseText source phrase)
  let id ← pushNode { kind, span := phrase.span, value := some (.string (String.ofList text)) }
  modify fun state => { state with comments := state.comments.push id }

/-- The comments below the phrases of a stack, the top of the stack first. A comment is not
searched. -/
def nestedComments : List ParseTree → List ParseTree
  | [] => []
  | phrase :: rest =>
    if phrase.kind = "comment" then phrase :: nestedComments rest
    else nestedComments (phrase.namedChildren ++ rest)
termination_by stack => ParseTree.sizes stack
decreasing_by
  · simp only [ParseTree.sizes, ParseTree.size_eq]
    omega
  · have smaller := ParseTree.sizes_namedChildren_lt phrase
    simp only [ParseTree.sizes_append, ParseTree.sizes]
    omega

/-- Keeps the comments of a phrase that is left out. -/
def liftNestedComments (source : List Char) (phrase : ParseTree) : Convert Unit :=
  (nestedComments [phrase]).forM (liftComment source)

def isCommentKind (kind : String) : Bool :=
  kind == "comment" || kind == "html_comment"

/-- A phrase at the depth limit: a node without children. Its comments are kept. -/
def truncate (source : List Char) (phrase : ParseTree) : Convert (Option NodeId) :=
  if isCommentKind phrase.kind then do
    liftComment source phrase
    pure none
  else do
    let id ← pushKind phrase.kind phrase
    noteKind phrase.kind []
    phrase.namedChildren.forM (liftNestedComments source)
    modify fun state => { state with problems := state.problems.push (.tooDeep id state.depth) }
    pure (some id)

def convertName (source : List Char) (kind : String) (phrase : ParseTree) : Convert NodeId :=
  let text := phraseText source phrase
  let name := if kind = "PrivateIdentifier" then privateName text else text
  pushNode { kind, span := phrase.span, value := some (.string (String.ofList name)) }

def convertLiteral (source : List Char) (phrase : ParseTree) (value : NodeValue) : Convert NodeId :=
  pushNode {
    kind := "Literal", span := phrase.span, value := some value, raw :=
      some (String.ofList (phraseText source phrase)) }

/-- A regular expression: the texts of its fields, with its source text. -/
def convertRegex (source : List Char) (phrase : ParseTree) : Convert NodeId :=
  let part (field : String) : String :=
    String.ofList (((phrase.childIn? field).map (phraseText source)).getD [])
  convertLiteral source phrase (.regex (part "pattern") (part "flags"))

/-- A shorthand property: key and value are two nodes over the same name. -/
def convertShorthand (source : List Char) (phrase : ParseTree) : Convert NodeId := do
  let id ← pushKind "Property" phrase
  let key ← convertName source "Identifier" phrase
  let value ← convertName source "Identifier" phrase
  setSlot id "key" (.node key)
  setSlot id "value" (.node value)
  setSlot id "shorthand" (.scalar "true")
  pure id

/-- The literal text of a template between two offsets. -/
def pushQuasi (source : List Char) (start stop : Nat) : Convert NodeId :=
  let span : Span := ⟨start, max stop start⟩
  let text := String.ofList ((span.text? source).getD [])
  pushNode { kind := "TemplateElement", span, value := some (.string text), raw := some text }

/-- The name of an element or an attribute is no identifier. -/
def markElementName (id : NodeId) : Convert Unit :=
  modify fun state =>
    { state with
      builder := state.builder.modify id fun node =>
        if node.kind = "Identifier" then { node with kind := "JSXIdentifier" } else node }

def convertLocal (source : List Char) (kind : String) (phrase name : ParseTree) :
    Convert NodeId := do
  let id ← pushKind kind phrase
  let localName ← convertName source "Identifier" name
  setSlot id "local" (.node localName)
  pure id

section Descent

variable (source : List Char) (descend : ParseTree → Convert (Option NodeId))

/-- Converts a child into a slot. The children of a list wrapper go there one by one. -/
def addChild (draft : Draft) (name : String) (child : ParseTree) (many : Bool) : Convert Draft :=
  if listWrappers.contains child.kind then
    child.namedChildren.foldlM (fun draft item => do
      match ← descend item with
      | some id => pure (Draft.push name id true draft)
      | none => pure draft) (Draft.declareList name draft)
  else do
    match ← descend child with
    | some id => pure (Draft.push name id many draft)
    | none => pure draft

/-- Leaves a child out, its comments apart. -/
def leaveOut (draft : Draft) (child : ParseTree) : Convert Draft := do
  liftNestedComments source child
  pure draft

def finishMapped (kind : String) (id : NodeId) : Convert Unit :=
  if kind = "member_expression" then setSlot id "computed" (.scalar "false")
  else if kind = "subscript_expression" then setSlot id "computed" (.scalar "true")
  else if ["jsx_opening_element", "jsx_self_closing_element",
    "jsx_closing_element"].contains kind then do
    let state ← get
    match (state.builder.get? id).bind fun node => node.child? "name" with
    | some name => markElementName name
    | none => pure ()
  else pure ()

def convertMapped (phrase : ParseTree) (mapping : Mapping) : Convert NodeId := do
  let id ← pushKind mapping.kind phrase
  let draft ← phrase.namedChildren.foldlM (fun draft child =>
    match mapping.place? child.field with
    | some (slot, many) => addChild descend draft slot child many
    | none => leaveOut source draft child) []
  applyDraft draft id
  finishMapped phrase.kind id
  pure id

/-- A phrase that keeps its kind. -/
def convertUnmapped (phrase : ParseTree) : Convert NodeId := do
  let id ← pushKind phrase.kind phrase
  let draft ← phrase.namedChildren.foldlM (fun draft child =>
    match child.field with
    | some field => addChild descend draft field child false
    | none => addChild descend draft "children" child true) []
  noteKind phrase.kind (Draft.names draft)
  applyDraft draft id
  pure id

/-- A phrase that stands for its only child; it is kept when there is not exactly one. -/
def convertTransparent (phrase : ParseTree) : Convert (Option NodeId) :=
  if (phrase.namedChildren.filter fun child => child.kind != "comment").length = 1 then
    phrase.namedChildren.foldlM (fun converted child =>
      if child.kind = "comment" then do
        liftComment source child
        pure converted
      else descend child) none
  else do
    let id ← convertUnmapped descend phrase
    pure (some id)

/-- A template: the texts around the substitutions, and the expressions in them. -/
def convertTemplate (phrase : ParseTree) : Convert NodeId := do
  let id ← pushKind "TemplateLiteral" phrase
  let start := min (phrase.span.start + 1) phrase.span.stop
  let substitutions := phrase.namedChildren.filter fun child =>
    child.kind == "template_substitution"
  let (quasis, expressions, last) ← substitutions.foldlM
    (fun (quasis, expressions, last) child => do
    let quasi ← pushQuasi source last child.span.start
    let expressions ← child.namedChildren.foldlM (fun expressions inner => do
      match ← descend inner with
      | some expression => pure (expressions ++ [expression])
      | none => pure expressions) expressions
    pure (quasis ++ [quasi], expressions, child.span.stop))
      (([] : List NodeId), ([] : List NodeId), start)
  let quasi ← pushQuasi source last (phrase.span.stop - 1)
  setSlot id "quasis" (.nodes (quasis ++ [quasi]))
  setSlot id "expressions" (.nodes expressions)
  pure id

def setConverted (id : NodeId) (slot : String) (child : Option ParseTree) : Convert Unit :=
  match child with
  | none => pure ()
  | some child => do
    match ← descend child with
    | some converted => setSlot id slot (.node converted)
    | none => pure ()

/-- A specifier with a name and perhaps another one: without it, both slots hold nodes of their own
over the same name. -/
def convertSpecifier (kind nameSlot aliasSlot : String) (phrase : ParseTree) : Convert NodeId := do
  let id ← pushKind kind phrase
  let name := phrase.childIn? "name"
  setConverted descend id nameSlot name
  setConverted descend id aliasSlot ((phrase.childIn? "alias").or name)
  pure id

/-- The specifiers between the braces of a clause. Anything else there is left out. -/
def addSpecifiers (kind specifierKind nameSlot aliasSlot : String) (draft : Draft)
    (clause : ParseTree) : Convert Draft :=
  clause.namedChildren.foldlM (fun draft child =>
    if child.kind = kind then do
      let id ← convertSpecifier descend specifierKind nameSlot aliasSlot child
      pure (Draft.push "specifiers" id true draft)
    else leaveOut source draft child) draft

/-- A part of what stands before the source of a declaration that brings names in. -/
def addClausePart (draft : Draft) (part : ParseTree) : Convert Draft :=
  if part.kind = "identifier" then do
    let id ← convertLocal source "ImportDefaultSpecifier" part part
    pure (Draft.push "specifiers" id true draft)
  else if part.kind = "namespace_import" then
    match part.namedChildren.find? fun child => child.kind == "identifier" with
    | some name => do
      let id ← convertLocal source "ImportNamespaceSpecifier" part name
      pure (Draft.push "specifiers" id true draft)
    | none => pure draft
  else if part.kind = "named_imports" then
    addSpecifiers source descend "import_specifier" "ImportSpecifier" "imported" "local" draft part
  else leaveOut source draft part

def convertImport (phrase : ParseTree) : Convert NodeId := do
  let id ← pushKind "ImportDeclaration" phrase
  let draft ← phrase.namedChildren.foldlM (fun draft child =>
    if child.kind = "comment" then do
      liftComment source child
      pure draft
    else if child.kind = "import_clause" then child.namedChildren.foldlM
      (addClausePart source descend) draft
    else if child.field = some "source" then addChild descend draft "source" child false
    else leaveOut source draft child) (Draft.declareList "specifiers" [])
  applyDraft draft id
  pure id

def exportKind (phrase : ParseTree) : String :=
  if phrase.hasToken "default" then "ExportDefaultDeclaration"
  else if (phrase.childIn? "source").isSome &&
    !(phrase.namedChildren.any fun child => child.kind == "export_clause") then
    "ExportAllDeclaration"
  else "ExportNamedDeclaration"

def convertExport (phrase : ParseTree) : Convert NodeId := do
  let id ← pushKind (exportKind phrase) phrase
  let draft ← phrase.namedChildren.foldlM (fun draft child =>
    if child.kind = "comment" then do
      liftComment source child
      pure draft
    else if child.kind = "export_clause" then
      addSpecifiers source descend "export_specifier" "ExportSpecifier" "local" "exported"
        (Draft.declareList "specifiers" draft) child
    else if child.kind = "namespace_export" then
      child.namedChildren.foldlM
        (fun draft name => addChild descend draft "exported" name false) draft
    else if child.field = some "source" then addChild descend draft "source" child false
    else if child.field = some "declaration" || child.field = some "value" then
      addChild descend draft "declaration" child false
    else leaveOut source draft child) []
  applyDraft draft id
  pure id

/-- A module loaded by an expression: its first argument is the source, its second the options. -/
def convertModuleCall (phrase : ParseTree) : Convert NodeId := do
  let id ← pushKind "ImportExpression" phrase
  let arguments := ((phrase.childIn? "arguments").map ParseTree.namedChildren).getD []
  let (draft, _) ← arguments.foldlM (fun (draft, position) child =>
    if child.kind = "comment" then do
      liftComment source child
      pure (draft, position)
    else do
      let draft ←
        if position = 0 then addChild descend draft "source" child false
        else if position = 1 then addChild descend draft "options" child false
        else leaveOut source draft child
      pure (draft, position + 1)) (([] : Draft), 0)
  applyDraft draft id
  pure id

/-- A call, or a template with a tag before it. -/
def convertCall (phrase : ParseTree) : Convert NodeId :=
  if (phrase.childIn? "function").map ParseTree.kind = some "import" then convertModuleCall source
    descend phrase
  else do
    let tagged : Bool := (phrase.childIn? "arguments").map ParseTree.kind == some "template_string"
    let id ← pushKind (if tagged then "TaggedTemplateExpression" else "CallExpression") phrase
    let draft ← phrase.namedChildren.foldlM (fun draft child =>
      if child.field = some "function" then addChild descend draft (if tagged then "tag"
      else "callee") child false
      else if child.field = some "arguments" then
        if tagged then addChild descend draft "quasi" child false
        else addChild descend draft "arguments" child true
      else leaveOut source draft child) []
    applyDraft draft id
    pure id

/-- A method: its parameters and its body belong to a function of their own. -/
def convertMethod (phrase : ParseTree) : Convert NodeId := do
  let id ← pushKind "MethodDefinition" phrase
  let function ← pushKind "FunctionExpression" phrase
  let (draft, inner) ← phrase.namedChildren.foldlM (fun (draft, inner) child =>
    if child.field = some "name" then do
      let draft ← addChild descend draft "key" child false
      pure (draft, inner)
    else if child.field = some "parameters" then do
      let inner ← addChild descend inner "params" child true
      pure (draft, inner)
    else if child.field = some "body" then do
      let inner ← addChild descend inner "body" child false
      pure (draft, inner)
    else do
      liftNestedComments source child
      pure (draft, inner)) (([] : Draft), ([] : Draft))
  applyDraft (Draft.push "value" function false draft) id
  applyDraft inner function
  pure id

/-- An attribute: its first phrase is the name, its second the value. -/
def convertAttribute (phrase : ParseTree) : Convert NodeId := do
  let id ← pushKind "JSXAttribute" phrase
  let _ ← phrase.namedChildren.foldlM (fun position child =>
    if child.kind = "comment" then do
      liftComment source child
      pure position
    else do
      match position, ← descend child with
      | 0, some name =>
        markElementName name
        setSlot id "name" (.node name)
      | 1, some value => setSlot id "value" (.node value)
      | _, _ => pure ()
      pure (position + 1)) 0
  pure id

def identifierKinds : List String :=
  ["identifier", "property_identifier", "type_identifier", "statement_identifier", "undefined"]

/-- Converts a phrase; comments and the first line of a script give no node of their own. -/
def convertPhrase (phrase : ParseTree) : Convert (Option NodeId) :=
  let kind := phrase.kind
  let text := phraseText source phrase
  if isCommentKind kind then do
    liftComment source phrase
    pure none
  else if kind = "hash_bang_line" then pure none
  else if kind = "string" then some <$> convertLiteral source phrase
    (.string (String.ofList (stringBody text)))
  else if kind = "template_string" then some <$> convertTemplate source descend phrase
  else if kind = "number" then some <$> convertLiteral source phrase (numberValue text)
  else if kind = "regex" then some <$> convertRegex source phrase
  else if kind = "true" || kind = "false" then some <$> convertLiteral source phrase
    (.boolean (kind == "true"))
  else if kind = "null" then
    some <$> pushNode { kind := "Literal", span := phrase.span, value := some .null, raw := some "null" }
  else if kind = "this" then some <$> pushKind "ThisExpression" phrase
  else if kind = "super" then some <$> pushKind "Super" phrase
  else if identifierKinds.contains kind then some <$> convertName source "Identifier" phrase
  else if kind = "private_property_identifier" then some <$> convertName source
    "PrivateIdentifier" phrase
  else if kind = "shorthand_property_identifier" ||
    kind = "shorthand_property_identifier_pattern" then
    some <$> convertShorthand source phrase
  else if kind = "jsx_text" then
    some <$> pushNode { kind := "JSXText", span := phrase.span, value := some (.string (String.ofList text)) }
  else if kind = "import_statement" then some <$> convertImport source descend phrase
  else if kind = "export_statement" then some <$> convertExport source descend phrase
  else if kind = "call_expression" then some <$> convertCall source descend phrase
  else if kind = "method_definition" then some <$> convertMethod source descend phrase
  else if kind = "jsx_attribute" then some <$> convertAttribute source descend phrase
  else if transparentKinds.contains kind then convertTransparent source descend phrase
  else
    match mappingFor? kind with
    | some mapping => some <$> convertMapped source descend phrase mapping
    | none => some <$> convertUnmapped descend phrase

end Descent

/-- Counts a phrase for as long as its conversion takes. -/
def counted (step : Convert (Option NodeId)) : Convert (Option NodeId) := do
  modify fun state => { state with depth := state.depth + 1 }
  let id ← step
  modify fun state => { state with depth := state.depth - 1 }
  pure id

/-- Converts a phrase within a number of levels. -/
def convert (source : List Char) : Nat → ParseTree → Convert (Option NodeId)
  | 0, phrase => truncate source phrase
  | levels + 1, phrase => counted (convertPhrase source (convert source levels) phrase)

def fillProgram (descend : ParseTree → Convert (Option NodeId)) (parse : ParseTree)
    (program : NodeId) : Convert Unit := do
  let phrases := parse.namedChildren.filter fun child => child.kind != "hash_bang_line"
  let draft ← phrases.foldlM (fun draft child => addChild descend draft "body" child true)
    (Draft.declareList "body" [])
  applyDraft draft program

/-- Converts a whole parse, given the conversion of phrases. The root covers all of the text,
whatever the parse says. -/
def convertProgramBy (source : List Char) (descend : ParseTree → Convert (Option NodeId))
    (parse : ParseTree) : Convert NodeId := do
  let program ← pushNode { kind := "Program", span := ⟨0, Text.byteLength source⟩ }
  fillProgram descend parse program
  let state ← get
  setSlot program "comments" (.nodes state.comments.toList)
  pure program

def convertProgram (source : List Char) (parse : ParseTree) : Convert NodeId :=
  convertProgramBy source (convert source maxDepth) parse

def load (filename : String) (source : List Char) (parse : ParseTree) : SourceFile :=
  let (program, state) := (convertProgram source parse).run {}
  { filename, text := source, tree := state.builder.finish program, extraKinds := state.extraKinds,
    diagnostics := state.problems.toList.map Diagnostic.ofTraversal }

end Spellspan.Parse
