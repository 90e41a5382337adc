import ComponentFile.Repair.Language.Fragment

/-!
Expressions, patterns, functions and literals.
-/

namespace ComponentFile

namespace Repair

open Rule

/-- Binary operators that lean to the left, with their ranks. -/
def leftwardOperators : List (String × String) :=
  [("logicalAnd", "&&"), ("logicalOr", "||"), ("binaryShift", ">>"), ("binaryShift", ">>>"),
    ("binaryShift", "<<"), ("bitwiseAnd", "&"), ("bitwiseXor", "^"), ("bitwiseOr", "|"),
    ("binaryPlus", "+"), ("binaryPlus", "-"), ("binaryTimes", "*"), ("binaryTimes", "/"),
    ("binaryTimes", "%"), ("binaryRelation", "<"), ("binaryRelation", "<="),
    ("binaryEquality", "=="), ("binaryEquality", "==="), ("binaryEquality", "!="),
    ("binaryEquality", "!=="), ("binaryRelation", ">="), ("binaryRelation", ">"),
    ("ternary", "??"), ("binaryRelation", "instanceof")]

/-- Two expressions with an operator between. -/
def binary (operator : String × String) : Rule :=
  leftRanked operator.1 (seq [part "expression", ofString operator.2, part "expression"])

/-- Expressions and literals. -/
def expressionParts : List Part :=
  [
    shown "parenthesizedExpression"
      (seq [
        "(",
        choice [seq [part "expression", opt (part "typeAnnotation")], part "sequenceExpression"],
        ")"]),
    hidden "expression"
      (choice [
        part "asExpression", part "satisfiesExpression", part "instantiationExpression",
        part "namespaceDeclaration", part "typeAssertion", part "primaryExpression",
        part "assignmentExpression", part "augmentedAssignmentExpression", part "awaitExpression",
        part "unaryExpression", part "binaryExpression", part "ternaryExpression",
        part "updateExpression", part "newExpression", part "yieldExpression"]),
    hidden "primaryExpression"
      (choice [
        part "subscriptExpression", part "memberExpression", part "parenthesizedExpression",
        plainName, renamed "identifier" reservedName, "this", "super", number, part "string",
        part "templateString", part "regex", "true", "false", "null", part "object", part "array",
        part "functionExpression", part "arrowFunction", part "generatorFunction",
        part "classExpression", part "metaProperty", part "callExpression",
        part "nonNullExpression"]),
    shown "yieldExpression"
      (rightward (seq ["yield", choice [seq ["*", part "expression"], opt (part "expression")]])),
    shown "object"
      (ranked "object" (seq [
          "\x7b",
          commaSep (opt (choice [
                part "pair", part "spreadElement", part "methodDefinition",
                renamed "shorthand_property_identifier" (choice [identifier, reservedName])])),
          "\x7d"])),
    shown "objectPattern"
      (ranked "object" (seq [
          "\x7b",
          commaSep (opt (choice [
                part "pairPattern", part "restPattern", part "objectAssignmentPattern",
                renamed "shorthand_property_identifier_pattern"
                  (choice [identifier, reservedName])])),
          "\x7d"])),
    shown "assignmentPattern" (seq [part "pattern", "=", part "expression"]),
    shown "objectAssignmentPattern"
      (seq [
        choice [
          renamed "shorthand_property_identifier_pattern" (choice [reservedName, identifier]),
          part "destructuringPattern"], "=", part "expression"]),
    shown "array"
      (seq ["[", commaSep (opt (choice [part "expression", part "spreadElement"])), "]"]),
    shown "arrayPattern"
      (seq ["[", commaSep (opt (choice [part "pattern", part "assignmentPattern"])), "]"]),
    shown "classExpression"
      (ranked "literal" (seq [
          rep (part "decorator"), "class", opt typeName, opt (part "typeParameters"),
          opt (part "classHeritage"), part "classBody"])),
    shown "classDeclaration"
      (leftRanked "declare" (seq [
          rep (part "decorator"), "class", typeName, opt (part "typeParameters"),
          opt (part "classHeritage"), part "classBody", opt lineEnd])),
    shown "classHeritage"
      (choice [
        seq [part "extendsClause", opt (part "implementsClause")], part "implementsClause"]),
    shown "functionExpression"
      (ranked "literal" (seq [
          opt "async", "function", opt identifier, part "callSignature", part "statementBlock"])),
    shown "functionDeclaration"
      (rightRanked "declare" (seq [
          opt "async", "function", identifier, part "callSignature", part "statementBlock",
          opt lineEnd])),
    shown "generatorFunction"
      (ranked "literal" (seq [
          opt "async", "function", "*", opt identifier, part "callSignature",
          part "statementBlock"])),
    shown "generatorFunctionDeclaration"
      (rightRanked "declare" (seq [
          opt "async", "function", "*", identifier, part "callSignature", part "statementBlock",
          opt lineEnd])),
    shown "arrowFunction"
      (seq [
        opt "async",
        choice [choice [renamed "identifier" reservedName, identifier], part "callSignature"],
        "=>", choice [part "expression", part "statementBlock"]]),
    hidden "callSignature"
      (seq [
        opt (part "typeParameters"), part "formalParameters",
        opt (choice [
            part "typeAnnotation", part "assertsAnnotation", part "typePredicateAnnotation"])]),
    hidden "formalParameter" (choice [part "requiredParameter", part "optionalParameter"]),
    shown "optionalChain" "?.",
    shown "callExpression"
      (choice [
        ranked "call" (seq [
            choice [part "expression", part "importWord"], opt (part "typeArguments"),
            part "arguments"]),
        ranked "templateCall"
          (seq [choice [part "primaryExpression", part "newExpression"], part "templateString"]),
        ranked "member"
          (seq [part "primaryExpression", "?.", opt (part "typeArguments"), part "arguments"])]),
    shown "newExpression"
      (rightRanked "new" (seq [
          "new", part "primaryExpression", opt (part "typeArguments"), opt (part "arguments")])),
    shown "awaitExpression" (ranked "unaryVoid" (seq ["await", part "expression"])),
    shown "memberExpression"
      (ranked "member" (seq [
          choice [part "expression", part "primaryExpression", part "importWord"],
          choice [".", part "optionalChain"],
          choice [privateName, renamed "property_identifier" identifier]])),
    shown "subscriptExpression"
      (rightRanked "member" (seq [
          choice [part "expression", part "primaryExpression"], opt (part "optionalChain"), "[",
          expressions, "]"])),
    shown "assignmentExpression"
      (rightRanked "assign" (seq [
          opt "using", choice [part "parenthesizedExpression", target], "=", part "expression"])),
    hidden "augmentedAssignmentLhs"
      (choice [
        choice [
          part "memberExpression", part "subscriptExpression", renamed "identifier" reservedName,
          identifier, part "parenthesizedExpression"], part "nonNullExpression"]),
    shown "augmentedAssignmentExpression"
      (rightRanked "assign" (seq [
          part "augmentedAssignmentLhs",
          choice [
            "+=", "-=", "*=", "/=", "%=", "^=", "&=", "|=", ">>=", ">>>=", "<<=", "**=", "&&=",
            "||=", "??="], part "expression"])),
    hidden "initializer" (seq ["=", part "expression"]),
    hidden "destructuringPattern" (choice [part "objectPattern", part "arrayPattern"]),
    shown "spreadElement" (seq ["...", part "expression"]),
    shown "ternaryExpression"
      (rightRanked "ternary" (seq [
          part "expression", renamed "?" questionMark, part "expression", ":",
          part "expression"])),
    shown "binaryExpression"
      (choice (leftwardOperators.map binary ++ [
        rightRanked "binaryExp" (seq [part "expression", "**", part "expression"]),
        leftRanked "binaryRelation"
          (seq [choice [part "expression", privateName], "in", part "expression"])])),
    shown "unaryExpression"
      (leftRanked "unaryVoid"
        (seq [choice ["!", "~", "-", "+", "typeof", "void", "delete"], part "expression"])),
    shown "updateExpression"
      (leftward (choice [
          seq [part "expression", choice ["++", "--"]],
          seq [choice ["++", "--"], part "expression"]])),
    shown "sequenceExpression" (rightward (commaSep1 (part "expression"))),
    shown "string"
      (choice [
        seq ["\"", rep (choice [renamed "string_fragment" doubleQuoted, escape]), "\""],
        seq ["'", rep (choice [renamed "string_fragment" singleQuoted, escape]), "'"]]),
    shown "templateString"
      (seq [
        "\x60",
        rep (choice [renamed "string_fragment" templateChars, escape, part "templateSubstitution"]),
        "\x60"]),
    shown "templateSubstitution" (seq ["$\x7b", expressions, "\x7d"]),
    shown "regex" (seq ["/", patternBody, patternEnd, opt patternFlags]),
    shown "metaProperty" (choice [seq ["new", ".", "target"], seq ["import", ".", "meta"]]),
    shown "arguments"
      (seq ["(", commaSep (opt (choice [part "expression", part "spreadElement"])), ")"])]

end Repair

end ComponentFile
