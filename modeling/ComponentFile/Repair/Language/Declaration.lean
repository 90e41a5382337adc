import ComponentFile.Repair.Language.Fragment

/-!
Declarations with types: fields, signatures, interfaces, enumerations and modules.
-/

namespace ComponentFile

namespace Repair

open Rule

/-- Declarations with types. -/
def declarationParts : List Part :=
  [
    shown "publicFieldDefinition"
      (seq [
        rep (part "decorator"),
        opt (choice [
            seq ["declare", opt (part "accessibilityModifier")],
            seq [part "accessibilityModifier", opt "declare"]]),
        choice [
          seq [opt "static", opt (part "overrideModifier"), opt "readonly"],
          seq [opt "abstract", opt "readonly"], seq [opt "readonly", opt "abstract"],
          opt "accessor"], part "propertyName", opt (choice ["?", "!"]),
        opt (part "typeAnnotation"), opt (part "initializer")]),
    shown "nonNullExpression" (leftRanked "unary" (seq [part "expression", "!"])),
    shown "methodSignature"
      (seq [
        opt (part "accessibilityModifier"), opt "static", opt (part "overrideModifier"),
        opt "readonly", opt "async", opt (choice ["get", "set", "*"]), part "propertyName",
        opt "?", part "callSignature"]),
    shown "abstractMethodSignature"
      (seq [
        opt (part "accessibilityModifier"), "abstract", opt (part "overrideModifier"),
        opt (choice ["get", "set", "*"]), part "propertyName", opt "?", part "callSignature"]),
    shown "functionSignature"
      (seq [
        opt "async", "function", identifier, part "callSignature",
        choice [semicolon, signatureEnd]]),
    shown "decoratorParenthesizedExpression"
      (seq [
        "(",
        choice [
          identifier, renamed "memberExpression" (part "decoratorMemberExpression"),
          renamed "callExpression" (part "decoratorCallExpression")], ")"]),
    shown "typeAssertion" (leftRanked "unary" (seq [part "typeArguments", part "expression"])),
    shown "asExpression"
      (leftRanked "binary" (seq [part "expression", "as", choice ["const", part "type"]])),
    shown "satisfiesExpression"
      (leftRanked "binary" (seq [part "expression", "satisfies", part "type"])),
    shown "instantiationExpression"
      (ranked "instantiation" (seq [part "expression", part "typeArguments"])),
    shown "importRequireClause" (seq [identifier, "=", "require", "(", part "string", ")"]),
    shown "extendsClause" (seq ["extends", commaSep1 (part "extendsEntry")]),
    hidden "extendsEntry"
      (ranked "extends" (seq [part "expression", opt (part "typeArguments")])),
    shown "implementsClause" (seq ["implements", commaSep1 (part "type")]),
    shown "ambientDeclaration"
      (seq [
        "declare",
        choice [
          part "declaration", seq ["global", part "statementBlock"],
          seq [
            "module", ".", renamed "property_identifier" identifier, ":", part "type",
            semicolon]]]),
    shown "abstractClassDeclaration"
      (ranked "declare" (seq [
          rep (part "decorator"), "abstract", "class", typeName, opt (part "typeParameters"),
          opt (part "classHeritage"), part "classBody"])),
    shown "moduleDeclaration" (seq ["module", part "moduleBody"]),
    shown "namespaceDeclaration" (seq ["namespace", part "moduleBody"]),
    hidden "moduleBody"
      (rightward (seq [
          choice [part "string", identifier, part "nestedIdentifier"],
          opt (part "statementBlock")])),
    shown "importAlias"
      (seq ["import", identifier, "=", choice [identifier, part "nestedIdentifier"], semicolon]),
    shown "nestedTypeIdentifier"
      (ranked "member" (seq [choice [identifier, part "nestedIdentifier"], ".", typeName])),
    shown "nestedIdentifier"
      (ranked "member" (seq [
          choice [identifier, part "nestedIdentifier"], ".",
          renamed "property_identifier" identifier])),
    shown "interfaceDeclaration"
      (seq [
        "interface", typeName, opt (part "typeParameters"), opt (part "extendsTypeClause"),
        renamed "interfaceBody" (part "objectType")]),
    shown "extendsTypeClause"
      (seq [
        "extends",
        commaSep1 (choice [typeName, part "nestedTypeIdentifier", part "genericType"])]),
    shown "enumDeclaration" (seq [opt "const", "enum", identifier, part "enumBody"]),
    shown "enumBody"
      (seq [
        "\x7b",
        opt (seq [commaSep1 (choice [part "propertyName", part "enumAssignment"]), opt ","]),
        "\x7d"]),
    shown "enumAssignment" (seq [part "propertyName", part "initializer"]),
    shown "typeAliasDeclaration"
      (seq ["type", typeName, opt (part "typeParameters"), "=", part "type", semicolon]),
    shown "accessibilityModifier" (choice ["public", "private", "protected"]),
    shown "overrideModifier" "override",
    shown "requiredParameter"
      (seq [part "parameterName", opt (part "typeAnnotation"), opt (part "initializer")]),
    shown "optionalParameter"
      (seq [part "parameterName", "?", opt (part "typeAnnotation"), opt (part "initializer")]),
    hidden "parameterName"
      (seq [
        rep (part "decorator"), opt (part "accessibilityModifier"), opt (part "overrideModifier"),
        opt "readonly", choice [part "pattern", "this"]]),
    shown "omittingTypeAnnotation" (seq ["-?:", part "type"]),
    shown "addingTypeAnnotation" (seq ["+?:", part "type"]),
    shown "optingTypeAnnotation" (seq ["?:", part "type"])]

end Repair

end ComponentFile
