import ComponentFile.Repair.Language.Fragment

/-!
Statements: imports, exports, declarations of variables and control flow.
-/

namespace ComponentFile

namespace Repair

open Rule

/-- Imports, exports and statements. -/
def statementParts : List Part :=
  [
    shown "program" (seq [opt hashBang, rep (part "statement")]),
    shown "exportStatement"
      (choice [
        choice [
          seq [
            "export",
            choice [
              seq ["*", part "fromClause"], seq [part "namespaceExport", part "fromClause"],
              seq [part "exportClause", part "fromClause"], part "exportClause"], semicolon],
          seq [
            rep (part "decorator"), "export",
            choice [
              part "declaration",
              seq ["default", choice [part "declaration", seq [part "expression", semicolon]]]]]],
        seq ["export", "type", part "exportClause", opt (part "fromClause"), semicolon],
        seq ["export", "=", part "expression", semicolon],
        seq ["export", "as", "namespace", identifier, semicolon]]),
    shown "namespaceExport" (seq ["*", "as", part "exportedName"]),
    shown "exportClause" (seq ["\x7b", commaSep (part "exportSpecifier"), opt ",", "\x7d"]),
    shown "exportSpecifier"
      (seq [
        opt (choice ["type", "typeof"]),
        seq [part "exportedName", opt (seq ["as", part "exportedName"])]]),
    hidden "exportedName" (choice [identifier, part "string"]),
    hidden "declaration"
      (choice [
        choice [
          part "functionDeclaration", part "generatorFunctionDeclaration",
          part "classDeclaration", part "lexicalDeclaration", part "variableDeclaration"],
        part "functionSignature", part "abstractClassDeclaration", part "moduleDeclaration",
        ranked "declare" (part "namespaceDeclaration"), part "typeAliasDeclaration",
        part "enumDeclaration", part "interfaceDeclaration", part "importAlias",
        part "ambientDeclaration"]),
    shown "importWord" "import",
    shown "importStatement"
      (seq [
        "import", opt (choice ["type", "typeof"]),
        choice [
          seq [part "importClause", part "fromClause"], part "importRequireClause",
          part "string"], opt (part "importAttribute"), semicolon]),
    shown "importClause"
      (choice [
        part "namespaceImport", part "namedImports",
        seq [identifier, opt (seq [",", choice [part "namespaceImport", part "namedImports"]])]]),
    hidden "fromClause" (seq ["from", part "string"]),
    shown "namespaceImport" (seq ["*", "as", identifier]),
    shown "namedImports" (seq ["\x7b", commaSep (part "importSpecifier"), opt ",", "\x7d"]),
    shown "importSpecifier"
      (seq [
        opt (choice ["type", "typeof"]),
        choice [identifier, seq [part "exportedName", "as", identifier]]]),
    shown "importAttribute" (seq ["with", part "object"]),
    hidden "statement"
      (choice [
        part "exportStatement", part "importStatement", part "debuggerStatement",
        part "expressionStatement", part "declaration", part "statementBlock", part "ifStatement",
        part "switchStatement", part "forStatement", part "forInStatement", part "whileStatement",
        part "doStatement", part "tryStatement", part "withStatement", part "breakStatement",
        part "continueStatement", part "returnStatement", part "throwStatement",
        part "emptyStatement", part "labeledStatement"]),
    shown "expressionStatement" (seq [expressions, semicolon]),
    shown "variableDeclaration" (seq ["var", commaSep1 (part "variableDeclarator"), semicolon]),
    shown "lexicalDeclaration"
      (seq [choice ["let", "const"], commaSep1 (part "variableDeclarator"), semicolon]),
    shown "variableDeclarator"
      (choice [
        seq [
          choice [identifier, part "destructuringPattern"], opt (part "typeAnnotation"),
          opt (part "initializer")],
        ranked "declare" (seq [identifier, "!", part "typeAnnotation"])]),
    shown "statementBlock"
      (rightward (seq ["\x7b", rep (part "statement"), "\x7d", opt lineEnd])),
    shown "elseClause" (seq ["else", part "statement"]),
    shown "ifStatement"
      (rightward
        (seq ["if", part "parenthesizedExpression", part "statement", opt (part "elseClause")])),
    shown "switchStatement" (seq ["switch", part "parenthesizedExpression", part "switchBody"]),
    shown "forStatement"
      (seq [
        "for", "(",
        choice [
          choice [part "lexicalDeclaration", part "variableDeclaration"], seq [expressions, ";"],
          part "emptyStatement"], choice [seq [expressions, ";"], part "emptyStatement"],
        opt expressions, ")", part "statement"]),
    shown "forInStatement" (seq ["for", opt "await", part "forHeader", part "statement"]),
    hidden "forHeader"
      (seq [
        "(",
        choice [
          choice [target, part "parenthesizedExpression"],
          seq ["var", choice [identifier, part "destructuringPattern"], opt (part "initializer")],
          seq [
            choice ["let", "const"], choice [identifier, part "destructuringPattern"],
            opt lineEnd]], choice ["in", "of"], expressions, ")"]),
    shown "whileStatement" (seq ["while", part "parenthesizedExpression", part "statement"]),
    shown "doStatement"
      (rightward
        (seq ["do", part "statement", "while", part "parenthesizedExpression", opt semicolon])),
    shown "tryStatement"
      (seq ["try", part "statementBlock", opt (part "catchClause"), opt (part "finallyClause")]),
    shown "withStatement" (seq ["with", part "parenthesizedExpression", part "statement"]),
    shown "breakStatement"
      (seq ["break", opt (renamed "statement_identifier" identifier), semicolon]),
    shown "continueStatement"
      (seq ["continue", opt (renamed "statement_identifier" identifier), semicolon]),
    shown "debuggerStatement" (seq ["debugger", semicolon]),
    shown "returnStatement" (seq ["return", opt expressions, semicolon]),
    shown "throwStatement" (seq ["throw", expressions, semicolon]),
    shown "emptyStatement" ";",
    shown "labeledStatement"
      (weighted (-1) (seq [
          renamed "statement_identifier" (choice [identifier, reservedName]), ":",
          part "statement"])),
    shown "switchBody"
      (seq ["\x7b", rep (choice [part "switchCase", part "switchDefault"]), "\x7d"]),
    shown "switchCase" (seq ["case", expressions, ":", rep (part "statement")]),
    shown "switchDefault" (seq ["default", ":", rep (part "statement")]),
    shown "catchClause"
      (seq [
        "catch",
        opt (seq [
            "(", choice [identifier, part "destructuringPattern"], opt (part "typeAnnotation"),
            ")"]), part "statementBlock"]),
    shown "finallyClause" (seq ["finally", part "statementBlock"])]

end Repair

end ComponentFile
