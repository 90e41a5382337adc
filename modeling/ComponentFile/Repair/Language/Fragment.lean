import ComponentFile.Repair.Rule

/-!
Small rules that stand in many parts of the grammar: the tokens that are no fixed text, and what
kinds of names and ends of statements there are.
-/

namespace ComponentFile

namespace Repair

namespace Rule

/-! ### Tokens -/

/-- A name. -/
def identifier : Rule := .token .identifier

/-- A first line for the operating system. -/
def hashBang : Rule := .token .hashBang

/-- Characters of a string in double quotes. -/
def doubleQuoted : Rule := .token .doubleQuoted

/-- Characters of a string in single quotes. -/
def singleQuoted : Rule := .token .singleQuoted

/-- An escape. -/
def escape : Rule := .token .escape

/-- The slash that ends a regular expression. -/
def patternEnd : Rule := .token .patternEnd

/-- What stands between the slashes of a regular expression. -/
def patternBody : Rule := .token .patternBody

/-- The letters after a regular expression. -/
def patternFlags : Rule := .token .patternFlags

/-- A number. -/
def number : Rule := .token .number

/-- A private name. -/
def privateName : Rule := .token .privateName

/-- The end of a statement without a semicolon. -/
def lineEnd : Rule := .token .lineEnd

/-- Characters of a template. -/
def templateChars : Rule := .token .templateChars

/-- The question mark of a condition. -/
def questionMark : Rule := .token .questionMark

/-- The end of a function without a body. -/
def signatureEnd : Rule := .token .signatureEnd

/-! ### Fragments -/

/-- The end of a statement. -/
def semicolon : Rule :=
  choice [lineEnd, ";"]

/-- An expression or several with commas between. -/
def expressions : Rule :=
  choice [part "expression", part "sequenceExpression"]

/-- Words with a meaning in some places that are names everywhere else. -/
def reservedName : Rule :=
  choice [
    "declare", "namespace", "type", "public", "private", "protected", "override", "readonly",
    "module", "any", "number", "boolean", "string", "symbol", "export", "object", "new",
    "readonly", choice ["get", "set", "async", "static", "export", "let"]]

/-- A name, or the undefined value. -/
def plainName : Rule :=
  choice ["undefined", identifier]

/-- What can be assigned to. -/
def target : Rule :=
  choice [
    choice [
      part "memberExpression", part "subscriptExpression", plainName,
      renamed "identifier" reservedName, part "destructuringPattern"], part "nonNullExpression"]

/-- The name of a type. -/
def typeName : Rule :=
  renamed "type_identifier" identifier

end Rule

end Repair

end ComponentFile
