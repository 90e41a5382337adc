import ComponentFile.Repair.Language.Fragment

/-!
The insides of classes and objects: decorators, members, parameters and patterns.
-/

namespace ComponentFile

namespace Repair

open Rule

/-- Members, parameters and patterns. -/
def classParts : List Part :=
  [
    shown "decorator"
      (seq [
        "@",
        choice [
          identifier, renamed "memberExpression" (part "decoratorMemberExpression"),
          renamed "callExpression" (part "decoratorCallExpression"),
          renamed "parenthesizedExpression" (part "decoratorParenthesizedExpression")]]),
    shown "decoratorMemberExpression"
      (ranked "member" (seq [
          choice [identifier, renamed "memberExpression" (part "decoratorMemberExpression")], ".",
          renamed "property_identifier" identifier])),
    shown "decoratorCallExpression"
      (ranked "call" (seq [
          choice [identifier, renamed "memberExpression" (part "decoratorMemberExpression")],
          opt (part "typeArguments"), part "arguments"])),
    shown "classBody"
      (seq [
        "\x7b",
        rep (choice [
            seq [rep (part "decorator"), part "methodDefinition", opt semicolon],
            seq [part "methodSignature", choice [signatureEnd, ","]], part "classStaticBlock",
            seq [
              choice [
                part "abstractMethodSignature", part "indexSignature", part "methodSignature",
                part "publicFieldDefinition"], choice [semicolon, ","]], ";"]), "\x7d"]),
    shown "formalParameters"
      (seq ["(", opt (seq [commaSep1 (part "formalParameter"), opt ","]), ")"]),
    shown "classStaticBlock" (seq ["static", part "statementBlock"]),
    hidden "pattern" (weighted (-1) (choice [target, part "restPattern"])),
    shown "restPattern" (rightward (seq ["...", target])),
    shown "methodDefinition"
      (leftward (seq [
          opt (part "accessibilityModifier"), opt "static", opt (part "overrideModifier"),
          opt "readonly", opt "async", opt (choice ["get", "set", "*"]), part "propertyName",
          opt "?", part "callSignature", part "statementBlock"])),
    shown "pair" (seq [part "propertyName", ":", part "expression"]),
    shown "pairPattern"
      (seq [part "propertyName", ":", choice [part "pattern", part "assignmentPattern"]]),
    hidden "propertyName"
      (choice [
        renamed "property_identifier" (choice [identifier, reservedName]), privateName,
        part "string", number, part "computedPropertyName"]),
    shown "computedPropertyName" (seq ["[", part "expression", "]"])]

end Repair

end ComponentFile
