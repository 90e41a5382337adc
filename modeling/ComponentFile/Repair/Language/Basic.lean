import ComponentFile.Repair.Language.Class
import ComponentFile.Repair.Language.Declaration
import ComponentFile.Repair.Language.Expression
import ComponentFile.Repair.Language.Statement
import ComponentFile.Repair.Language.Type

/-!
The grammar of scripts as a whole: its tokens, its parts and the order of its ranks.
-/

namespace ComponentFile

namespace Repair

open Rule

/-- Words and marks as tokens. -/
def texts (list : List String) : List Terminal := list.map Terminal.ofString

/-- All tokens. If one is missing, the first that helps is named, so names come before closing
marks and those before the rest. -/
def terminals : List Terminal :=
  [.stop, .identifier, .hashBang]
    ++ texts ["export", "*", "default", "type", "=", "as", "namespace", "\x7b", ",", "\x7d",
      "typeof", "import", "from", "with", "var", "let", "const", "!", "else", "if", "switch",
      "for", "(", ";", ")", "await", "in", "of", "while", "do", "try", "break", "continue",
      "debugger", "return", "throw", ":", "case", "catch", "finally", "yield", "[", "]", "class",
      "async", "function", "=>", "?.", "new", ".", "using", "+=", "-=", "*=", "/=", "%=", "^=",
      "&=", "|=", ">>=", ">>>=", "<<=", "**=", "&&=", "||=", "??=", "...", "&&", "||", ">>",
      ">>>", "<<", "&", "^", "|", "+", "-", "/", "%", "**", "<", "<=", "==", "===", "!=", "!==",
      ">=", ">", "??", "instanceof", "~", "void", "delete", "++", "--", "\"", "'"]
    ++ [.doubleQuoted, .singleQuoted, .escape, .comment]
    ++ texts ["\x60", "$\x7b"]
    ++ [.patternEnd, .patternBody, .patternFlags, .number, .privateName]
    ++ texts ["target", "meta", "this", "super", "true", "false", "null", "undefined", "@",
      "static", "readonly", "get", "set", "?", "declare", "public", "private", "protected",
      "override", "module", "any", "number", "boolean", "string", "symbol", "object", "abstract",
      "accessor", "satisfies", "require", "extends", "implements", "global", "interface", "enum",
      "-?:", "+?:", "?:", "asserts", "infer", "is", "keyof", "unique", "unknown", "never",
      "\x7b|", "|\x7d"]
    ++ [.lineEnd, .templateChars, .questionMark, .pageComment, .signatureEnd]

/-- All parts; the first is a whole script. -/
def parts : List Part :=
  statementParts ++ expressionParts ++ classParts ++ declarationParts ++ typeParts

/-- A rung of a ladder of ranks: a named rank, or any rule of a part. -/
inductive Rung where
  /-- A named rank. -/
  | rank (name : String)
  /-- The rules of a part. -/
  | part (name : String)
  deriving DecidableEq, Repr

/-- Ladders of ranks, each from the strongest to the weakest. -/
def ladders : List (List Rung) :=
  [
    [.rank "member", .rank "call", .part "updateExpression", .rank "unaryVoid",
      .rank "binaryExp", .rank "binaryTimes", .rank "binaryPlus", .rank "binaryShift",
      .rank "binaryCompare", .rank "binaryRelation", .rank "binaryEquality", .rank "bitwiseAnd",
      .rank "bitwiseXor", .rank "bitwiseOr", .rank "logicalAnd", .rank "logicalOr",
      .rank "ternary", .part "sequenceExpression", .part "arrowFunction"],
    [.rank "assign", .part "primaryExpression"],
    [.rank "member", .rank "templateCall", .rank "new", .rank "call", .part "expression"],
    [.rank "declare", .rank "literal"],
    [.part "primaryExpression", .part "statementBlock", .rank "object"],
    [.part "metaProperty", .part "importWord"],
    [.part "importStatement", .part "importWord"],
    [.part "exportStatement", .part "primaryExpression"],
    [.part "lexicalDeclaration", .part "primaryExpression"],
    [.rank "call", .rank "instantiation", .rank "unary", .rank "binary",
      .part "awaitExpression", .part "arrowFunction"],
    [.rank "extends", .rank "instantiation"],
    [.part "intersectionType", .part "unionType", .part "conditionalType", .part "functionType",
      .rank "binary", .part "typePredicate", .part "readonlyType"],
    [.part "mappedTypeClause", .part "primaryExpression"],
    [.part "accessibilityModifier", .part "primaryExpression"],
    [.rank "unaryVoid", .part "expression"],
    [.part "extendsClause", .part "primaryExpression"],
    [.rank "unary", .rank "assign"],
    [.rank "declare", .part "expression"],
    [.part "predefinedType", .part "unaryExpression"],
    [.part "type", .part "maybeType"],
    [.part "tupleType", .part "arrayType", .part "pattern", .part "type"],
    [.part "readonlyType", .part "pattern"],
    [.part "readonlyType", .part "primaryExpression"],
    [.part "typeQuery", .part "subscriptExpression", .part "expression"],
    [.part "typeQuery", .part "queriedSubscript"],
    [.part "nestedTypeIdentifier", .part "genericType", .part "primaryType", .part "lookupType",
      .part "indexTypeQuery", .part "type"],
    [.part "asExpression", .part "satisfiesExpression", .part "primaryType"],
    [.part "queriedMember", .part "memberExpression"],
    [.part "memberExpression", .part "importedMember"],
    [.part "queriedMember", .part "primaryExpression"],
    [.part "queriedSubscript", .part "subscriptExpression"],
    [.part "queriedSubscript", .part "primaryExpression"],
    [.part "queriedCall", .part "primaryExpression"],
    [.part "queriedInstantiation", .part "primaryExpression"],
    [.part "typeQuery", .part "primaryExpression"],
    [.part "overrideModifier", .part "primaryExpression"],
    [.part "decoratorCallExpression", .part "decorator"],
    [.part "literalType", .part "pattern"],
    [.part "predefinedType", .part "pattern"],
    [.part "callExpression", .part "queriedCall"],
    [.part "callExpression", .part "importedCall"],
    [.part "newExpression", .part "primaryExpression"],
    [.part "metaProperty", .part "primaryExpression"],
    [.part "constructSignature", .part "propertyName"]]

end Repair

end ComponentFile
