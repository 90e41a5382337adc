import ComponentFile.Repair.Language.Fragment

/-!
Types.
-/

namespace ComponentFile

namespace Repair

open Rule

/-- Types. -/
def typeParts : List Part :=
  [
    shown "typeAnnotation" (seq [":", part "type"]),
    hidden "importedMember"
      (seq [
        choice [
          part "importWord", renamed "memberExpression" (part "importedMember"),
          renamed "callExpression" (part "importedCall")], ".",
        choice [privateName, renamed "property_identifier" identifier]]),
    hidden "importedCall"
      (seq [
        choice [part "importWord", renamed "memberExpression" (part "importedMember")],
        part "arguments"]),
    shown "asserts" (seq ["asserts", choice [part "typePredicate", identifier, "this"]]),
    shown "assertsAnnotation" (seq [":", part "asserts"]),
    hidden "type"
      (choice [
        part "primaryType", part "functionType", part "readonlyType", part "constructorType",
        part "inferType", level (-1) (renamed "memberExpression" (part "importedMember")),
        level (-1) (renamed "callExpression" (part "importedCall"))]),
    shown "tupleParameter" (seq [choice [identifier, part "restPattern"], part "typeAnnotation"]),
    shown "optionalTupleParameter" (seq [identifier, "?", part "typeAnnotation"]),
    shown "optionalType" (seq [part "type", "?"]),
    shown "restType" (seq ["...", part "type"]),
    hidden "tupleTypeMember"
      (choice [
        renamed "requiredParameter" (part "tupleParameter"),
        renamed "optionalParameter" (part "optionalTupleParameter"), part "optionalType",
        part "restType", part "type"]),
    shown "constructorType"
      (leftward (seq [
          opt "abstract", "new", opt (part "typeParameters"), part "formalParameters", "=>",
          part "type"])),
    hidden "primaryType"
      (choice [
        part "parenthesizedType", part "predefinedType", typeName, part "nestedTypeIdentifier",
        part "genericType", part "objectType", part "arrayType", part "tupleType",
        part "maybeType", part "typeQuery", part "indexTypeQuery", renamed "this_type" "this",
        part "existentialType", part "literalType", part "lookupType", part "conditionalType",
        part "templateLiteralType", part "intersectionType", part "unionType", "const"]),
    shown "templateType" (seq ["$\x7b", choice [part "primaryType", part "inferType"], "\x7d"]),
    shown "templateLiteralType"
      (seq [
        "\x60", rep (choice [renamed "string_fragment" templateChars, part "templateType"]),
        "\x60"]),
    shown "inferType" (rightward (seq ["infer", typeName, opt (seq ["extends", part "type"])])),
    shown "conditionalType"
      (rightward (seq [part "type", "extends", part "type", "?", part "type", ":", part "type"])),
    shown "genericType"
      (ranked "call" (seq [choice [typeName, part "nestedTypeIdentifier"], part "typeArguments"])),
    shown "typePredicate"
      (seq [
        choice [identifier, "this", renamed "identifier" (part "predefinedType")], "is",
        part "type"]),
    shown "typePredicateAnnotation" (seq [":", part "typePredicate"]),
    hidden "queriedMember"
      (seq [
        choice [
          identifier, "this", renamed "subscriptExpression" (part "queriedSubscript"),
          renamed "memberExpression" (part "queriedMember"),
          renamed "callExpression" (part "queriedCall")], choice [".", "?."],
        choice [privateName, renamed "property_identifier" identifier]]),
    hidden "queriedSubscript"
      (seq [
        choice [
          identifier, "this", renamed "subscriptExpression" (part "queriedSubscript"),
          renamed "memberExpression" (part "queriedMember"),
          renamed "callExpression" (part "queriedCall")], opt "?.", "[",
        choice [part "predefinedType", part "string", number], "]"]),
    hidden "queriedCall"
      (seq [
        choice [
          part "importWord", identifier, renamed "memberExpression" (part "queriedMember"),
          renamed "subscriptExpression" (part "queriedSubscript")], part "arguments"]),
    hidden "queriedInstantiation"
      (seq [
        choice [
          part "importWord", identifier, renamed "memberExpression" (part "queriedMember"),
          renamed "subscriptExpression" (part "queriedSubscript")], part "typeArguments"]),
    shown "typeQuery"
      (rightward (seq [
          "typeof",
          choice [
            renamed "subscriptExpression" (part "queriedSubscript"),
            renamed "memberExpression" (part "queriedMember"),
            renamed "callExpression" (part "queriedCall"),
            renamed "instantiationExpression" (part "queriedInstantiation"), identifier,
            "this"]])),
    shown "indexTypeQuery" (seq ["keyof", part "primaryType"]),
    shown "lookupType" (seq [part "primaryType", "[", part "type", "]"]),
    shown "mappedTypeClause" (seq [typeName, "in", part "type", opt (seq ["as", part "type"])]),
    shown "literalType"
      (choice [
        renamed "unaryExpression" (part "signedNumber"), number, part "string", "true", "false",
        "null", "undefined"]),
    hidden "signedNumber"
      (.rated (some (.level 1)) (some .left) (seq [choice ["-", "+"], number])),
    shown "existentialType" "*",
    shown "maybeType" (rightward (seq ["?", part "primaryType"])),
    shown "parenthesizedType" (seq ["(", part "type", ")"]),
    shown "predefinedType"
      (choice [
        "any", "number", "boolean", "string", "symbol",
        renamed "unique symbol" (seq ["unique", "symbol"]), "void", "unknown", "never", "object"]),
    shown "typeArguments" (seq ["<", commaSep1 (part "type"), opt ",", ">"]),
    shown "objectType"
      (seq [
        choice ["\x7b", "\x7b|"],
        opt (seq [
            opt (choice [",", ";"]),
            seq [
              choice [
                part "exportStatement", part "propertySignature", part "callableMember",
                part "constructSignature", part "indexSignature", part "methodSignature"],
              rep (seq [
                  choice [",", semicolon],
                  choice [
                    part "exportStatement", part "propertySignature", part "callableMember",
                    part "constructSignature", part "indexSignature", part "methodSignature"]])],
            opt (choice [",", semicolon])]), choice ["\x7d", "|\x7d"]]),
    shown "callableMember" (part "callSignature"),
    shown "propertySignature"
      (seq [
        opt (part "accessibilityModifier"), opt "static", opt (part "overrideModifier"),
        opt "readonly", part "propertyName", opt "?", opt (part "typeAnnotation")]),
    shown "typeParameters" (seq ["<", commaSep1 (part "typeParameter"), opt ",", ">"]),
    shown "typeParameter"
      (seq [opt "const", typeName, opt (part "constraint"), opt (part "defaultType")]),
    shown "defaultType" (seq ["=", part "type"]),
    shown "constraint" (seq [choice ["extends", ":"], part "type"]),
    shown "constructSignature"
      (seq [
        opt "abstract", "new", opt (part "typeParameters"), part "formalParameters",
        opt (part "typeAnnotation")]),
    shown "indexSignature"
      (seq [
        opt (seq [opt (choice ["-", "+"]), "readonly"]), "[",
        choice [
          seq [choice [identifier, renamed "identifier" reservedName], ":", part "type"],
          part "mappedTypeClause"], "]",
        choice [
          part "typeAnnotation", part "omittingTypeAnnotation", part "addingTypeAnnotation",
          part "optingTypeAnnotation"]]),
    shown "arrayType" (seq [part "primaryType", "[", "]"]),
    shown "tupleType" (seq ["[", commaSep (part "tupleTypeMember"), opt ",", "]"]),
    shown "readonlyType" (seq ["readonly", part "type"]),
    shown "unionType" (leftward (seq [opt (part "type"), "|", part "type"])),
    shown "intersectionType" (leftward (seq [opt (part "type"), "&", part "type"])),
    shown "functionType"
      (leftward (seq [
          opt (part "typeParameters"), part "formalParameters", "=>",
          choice [part "type", part "asserts", part "typePredicate"]]))]

end Repair

end ComponentFile
