/-!
How the kinds of a concrete parse appear in a syntax tree. A kind with a counterpart gets its name
and its slot names; a list wrapper gives its children to the slot it stands in; a transparent kind
stands for its only child.
-/
set_option autoImplicit false

namespace Spellspan.Parse

/-- Where named children outside the mapped fields go. -/
inductive Remainder where
  | drop
  | one (slot : String)
  | many (slot : String)
  deriving DecidableEq, Repr

/-- The counterpart of a kind: its name, the slots of its fields, and the slot of its other
children. -/
structure Mapping where
  kind : String
  fields : List (String × String)
  remainder : Remainder

namespace Mapping

def slotFor? (mapping : Mapping) (field : Option String) : Option String :=
  field.bind fun field => (mapping.fields.find? fun entry => entry.1 == field).map Prod.snd

/-- The slot of a child by its field, and whether that slot is a list from the start. -/
def place? (mapping : Mapping) (field : Option String) : Option (String × Bool) :=
  match mapping.slotFor? field, mapping.remainder with
  | some slot, _ => some (slot, false)
  | none, .one slot => some (slot, false)
  | none, .many slot => some (slot, true)
  | none, .drop => none

end Mapping

def mappings : List (String × Mapping) := [
  ("expression_statement", ⟨"ExpressionStatement", [], .one "expression"⟩),
  ("statement_block", ⟨"BlockStatement", [], .many "body"⟩),
  ("return_statement", ⟨"ReturnStatement", [], .one "argument"⟩),
  ("throw_statement", ⟨"ThrowStatement", [], .one "argument"⟩),
  ("if_statement",
    ⟨"IfStatement", [("condition", "test"), ("consequence", "consequent"),
      ("alternative", "alternate")], .drop⟩),
  ("switch_statement", ⟨"SwitchStatement", [("value", "discriminant"), ("body", "cases")], .drop⟩),
  ("switch_case", ⟨"SwitchCase", [("value", "test"), ("body", "consequent")], .drop⟩),
  ("switch_default", ⟨"SwitchCase", [("body", "consequent")], .drop⟩),
  ("try_statement", ⟨"TryStatement",
    [("body", "block"), ("handler", "handler"), ("finalizer", "finalizer")], .drop⟩),
  ("catch_clause", ⟨"CatchClause", [("parameter", "param"), ("body", "body")], .drop⟩),
  ("while_statement", ⟨"WhileStatement", [("condition", "test"), ("body", "body")], .drop⟩),
  ("do_statement", ⟨"DoWhileStatement", [("body", "body"), ("condition", "test")], .drop⟩),
  ("for_statement",
    ⟨"ForStatement", [("initializer", "init"), ("condition", "test"), ("increment", "update"),
      ("body", "body")], .drop⟩),
  ("for_in_statement",
    ⟨"ForInStatement", [("left", "left"), ("right", "right"), ("body", "body")], .drop⟩),
  ("labeled_statement", ⟨"LabeledStatement", [("label", "label"), ("body", "body")], .drop⟩),
  ("break_statement", ⟨"BreakStatement", [("label", "label")], .drop⟩),
  ("continue_statement", ⟨"ContinueStatement", [("label", "label")], .drop⟩),
  ("lexical_declaration", ⟨"VariableDeclaration", [], .many "declarations"⟩),
  ("variable_declaration", ⟨"VariableDeclaration", [], .many "declarations"⟩),
  ("variable_declarator", ⟨"VariableDeclarator", [("name", "id"), ("value", "init")], .drop⟩),
  ("function_declaration",
    ⟨"FunctionDeclaration", [("name", "id"), ("parameters", "params"), ("body", "body")], .drop⟩),
  ("generator_function_declaration",
    ⟨"FunctionDeclaration", [("name", "id"), ("parameters", "params"), ("body", "body")], .drop⟩),
  ("class_declaration",
    ⟨"ClassDeclaration", [("name", "id"), ("body", "body")], .one "superClass"⟩),
  ("class", ⟨"ClassExpression", [("name", "id"), ("body", "body")], .one "superClass"⟩),
  ("class_body", ⟨"ClassBody", [], .many "body"⟩),
  ("field_definition", ⟨"PropertyDefinition", [("property", "key"), ("value", "value")], .drop⟩),
  ("public_field_definition", ⟨"PropertyDefinition", [("name", "key"), ("value", "value")], .drop⟩),
  ("function_expression",
    ⟨"FunctionExpression", [("name", "id"), ("parameters", "params"), ("body", "body")], .drop⟩),
  ("generator_function",
    ⟨"FunctionExpression", [("name", "id"), ("parameters", "params"), ("body", "body")], .drop⟩),
  ("arrow_function",
    ⟨"ArrowFunctionExpression",
      [("parameters", "params"), ("parameter", "params"), ("body", "body")], .drop⟩),
  ("new_expression",
    ⟨"NewExpression", [("constructor", "callee"), ("arguments", "arguments")], .drop⟩),
  ("member_expression",
    ⟨"MemberExpression", [("object", "object"), ("property", "property")], .drop⟩),
  ("subscript_expression",
    ⟨"MemberExpression", [("object", "object"), ("index", "property")], .drop⟩),
  ("await_expression", ⟨"AwaitExpression", [], .one "argument"⟩),
  ("yield_expression", ⟨"YieldExpression", [], .one "argument"⟩),
  ("unary_expression", ⟨"UnaryExpression", [("argument", "argument")], .drop⟩),
  ("update_expression", ⟨"UpdateExpression", [("argument", "argument")], .drop⟩),
  ("binary_expression", ⟨"BinaryExpression", [("left", "left"), ("right", "right")], .drop⟩),
  ("assignment_expression",
    ⟨"AssignmentExpression", [("left", "left"), ("right", "right")], .drop⟩),
  ("augmented_assignment_expression",
    ⟨"AssignmentExpression", [("left", "left"), ("right", "right")], .drop⟩),
  ("ternary_expression",
    ⟨"ConditionalExpression",
      [("condition", "test"), ("consequence", "consequent"), ("alternative", "alternate")], .drop⟩),
  ("sequence_expression", ⟨"SequenceExpression", [], .many "expressions"⟩),
  ("array", ⟨"ArrayExpression", [], .many "elements"⟩),
  ("object", ⟨"ObjectExpression", [], .many "properties"⟩),
  ("pair", ⟨"Property", [("key", "key"), ("value", "value")], .drop⟩),
  ("spread_element", ⟨"SpreadElement", [], .one "argument"⟩),
  ("object_pattern", ⟨"ObjectPattern", [], .many "properties"⟩),
  ("pair_pattern", ⟨"Property", [("key", "key"), ("value", "value")], .drop⟩),
  ("array_pattern", ⟨"ArrayPattern", [], .many "elements"⟩),
  ("rest_pattern", ⟨"RestElement", [], .one "argument"⟩),
  ("assignment_pattern", ⟨"AssignmentPattern", [("left", "left"), ("right", "right")], .drop⟩),
  ("object_assignment_pattern",
    ⟨"AssignmentPattern", [("left", "left"), ("right", "right")], .drop⟩),
  ("jsx_element", ⟨"JSXElement", [("open_tag", "openingElement"), ("close_tag", "closingElement")],
    .many "children"⟩),
  ("jsx_opening_element",
    ⟨"JSXOpeningElement", [("name", "name"), ("attribute", "attributes")], .drop⟩),
  ("jsx_self_closing_element",
    ⟨"JSXOpeningElement", [("name", "name"), ("attribute", "attributes")], .drop⟩),
  ("jsx_closing_element", ⟨"JSXClosingElement", [("name", "name")], .drop⟩),
  ("jsx_expression", ⟨"JSXExpressionContainer", [], .one "expression"⟩)]

def mappingFor? (kind : String) : Option Mapping :=
  (mappings.find? fun entry => entry.1 == kind).map Prod.snd

/-- Kinds whose named children belong to the slot of the kind itself. -/
def listWrappers : List String :=
  ["formal_parameters", "arguments", "switch_body", "named_imports", "export_clause"]

def transparentKinds : List String :=
  ["parenthesized_expression", "else_clause", "finally_clause", "class_heritage"]

end Spellspan.Parse
