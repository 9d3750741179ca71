import Spellspan.Diagnostic
import Spellspan.Options
import Spellspan.Scope.Decision

/-!
The rules of a run: those that the switches of the options stand for, then those that the options
write out. A pattern that cannot be read makes no rule and is kept for a diagnostic.
-/
set_option autoImplicit false

namespace Spellspan.Scope

/-- A pattern that cannot be read, as it was written. -/
structure RejectedPattern where
  pattern : String
  error : PatternError
  deriving DecidableEq, Repr

/-- The rules of a run, and the patterns that make none. -/
structure RuleSet where
  rules : List ScopeRule
  rejected : List RejectedPattern
  deriving DecidableEq, Repr

def includeLabel (components : List String) : ScopeRule :=
  ⟨⟨[.label components none]⟩, true⟩

def excludeLiteralIn (components : List String) (key : String) : ScopeRule :=
  ⟨⟨[.label components (some key), .label ["Literal"] none]⟩, false⟩

def excludeIdentifierIn (label : String) : ScopeRule :=
  ⟨⟨[.label [label] none, .label ["Identifier"] none]⟩, false⟩

/-- The rules of the five switches. -/
def switchRules (options : CheckOptions) : List ScopeRule :=
  (if options.checkComments then [includeLabel ["Comment"]] else []) ++
  (if options.checkStrings then [includeLabel ["Literal", "string"]] else []) ++
  (if options.checkStringTemplates then [includeLabel ["TemplateElement"]] else []) ++
  (if options.checkIdentifiers then
    [includeLabel ["Identifier"], includeLabel ["PrivateIdentifier"]] else []) ++
  (if options.checkElementText then [includeLabel ["JSXText"]] else [])

def moduleRules : List ScopeRule := [
  excludeLiteralIn ["ImportDeclaration"] "source",
  excludeLiteralIn ["ExportAllDeclaration"] "source",
  excludeLiteralIn ["ExportNamedDeclaration"] "source",
  excludeLiteralIn ["ImportExpression"] "source",
  excludeLiteralIn ["CallExpression", "require"] "arguments",
  excludeIdentifierIn "ImportSpecifier",
  excludeIdentifierIn "ImportDefaultSpecifier",
  excludeIdentifierIn "ImportNamespaceSpecifier"]

def ruleOf (entry : ScopeRuleSpec) : Except RejectedPattern ScopeRule :=
  match ScopePattern.ofSegments entry.parts with
  | .ok pattern => .ok ⟨pattern, entry.isCheck⟩
  | .error error => .error ⟨Text.joined " " entry.parts, error⟩

def writtenRules (entries : List ScopeRuleSpec) : List ScopeRule :=
  entries.filterMap fun entry => (ruleOf entry).toOption

def rejectedPatterns (entries : List ScopeRuleSpec) : List RejectedPattern :=
  entries.filterMap fun entry =>
    match ruleOf entry with
    | .ok _ => none
    | .error rejected => some rejected

def RuleSet.ofOptions (options : CheckOptions) : RuleSet where
  rules := switchRules options ++ (if options.ignoreImports then moduleRules else []) ++
    writtenRules options.checkScope
  rejected := rejectedPatterns options.checkScope

def RejectedPattern.diagnostic (rejected : RejectedPattern) : Diagnostic :=
  { kind := .scope, message :=
    s!"checkScope {Text.quoted rejected.pattern}: {rejected.error.message}" }

def RuleSet.diagnostics (rules : RuleSet) : List Diagnostic :=
  rules.rejected.map RejectedPattern.diagnostic

end Spellspan.Scope
