import ComponentFile.Script.TypeExpression

/-!
Classes and their members, and the methods that classes and object literals share.
-/

namespace ComponentFile

namespace Script

/-! ### Methods -/

/-- A method with its body. -/
def method (g : Grammar) (context : Context) : Reader Tree := do
  let start ← begin
  leadingModifiers
  methodModifiers
  let name ← propertyName g
  let _ ← Reader.optional (mark "?")
  let parts ← signature g context
  let body ← block g false
  finish .method start (name.playing .name :: parts ++ [body])

/-! ### Members -/

/-- What separates members that need a separator. -/
def classSeparator (inExpression : Bool) : Reader Unit := mark "," <|> semicolon inExpression

/-- Ends a signature at a line break that no block follows. -/
def signatureLineEnd : Reader Unit := fun cursor =>
  (lineEndFrom? false true (cursor.rest.length + 1) cursor).map ((), ·)

/-- Ends a method signature: no block may follow. -/
def signatureEnd : Reader Unit := signatureLineEnd <|> mark "," <|> mark ";"

/-- A method after its decorators. -/
def methodMember (g : Grammar) : Reader Tree := do
  let start ← begin
  let decorators ← Reader.many (decorator g)
  let m ← method g .ofSignature
  let _ ← Reader.optional (semicolon false)
  group start (decorators ++ [m])

/-- A method without body. -/
def signatureMember (g : Grammar) : Reader Tree := do
  let m ← methodSignature g
  signatureEnd
  return m

/-- An abstract method. -/
def abstractMember (g : Grammar) : Reader Tree := do
  let start ← begin
  let _ ← Reader.optional (memberModifier accessWords)
  word "abstract"
  let _ ← Reader.optional (memberModifier ["override"])
  let _ ← Reader.optional (memberModifier ["get", "set"] <|> mark "*")
  let name ← propertyName g
  let _ ← Reader.optional (mark "?")
  let parts ← signature g .ofSignature
  signatureEnd
  group start (name :: parts)

/-- An index signature of a class. -/
def indexMember (g : Grammar) : Reader Tree := do
  let m ← indexSignature g
  classSeparator false
  return m

/-- A block that runs when the class is made. -/
def staticBlock (g : Grammar) : Reader Tree := do
  let start ← begin
  word "static"
  let body ← block g false
  group start [body]

/-- The modifiers of a field. -/
def fieldModifiers : Reader Unit := do
  let _ ← Reader.optional (memberModifier ["declare"])
  let _ ← Reader.optional (memberModifier accessWords)
  let _ ← Reader.optional (memberModifier ["declare"])
  let _ ← Reader.optional (memberModifier ["static"])
  let _ ← Reader.optional (memberModifier ["override"])
  let _ ← Reader.optional (memberModifier ["abstract"])
  let _ ← Reader.optional (memberModifier ["readonly"])
  let _ ← Reader.optional (memberModifier ["abstract"])
  let _ ← Reader.optional (memberModifier ["accessor"])

/-- A field. -/
def fieldMember (g : Grammar) : Reader Tree := do
  let start ← begin
  let decorators ← Reader.many (decorator g)
  fieldModifiers
  let name ← propertyName g
  let _ ← Reader.optional do
    Reader.check (!Context.ofDeclaredType.stops ·)
    mark "?" <|> mark "!"
  let type ← Reader.optional do
    Reader.check (!Context.ofDeclaredType.stops ·)
    typeClause g .ofDeclaredType
  let value ← Reader.optional do
    Reader.check (!Context.ofDeclaredType.stops ·)
    initializer g .ofStatement
  classSeparator value.isSome
  group start (decorators ++ name :: type.toList ++ value.toList)

/-- A member of a class. -/
def classMember (g : Grammar) : Reader Tree :=
  staticBlock g <|> methodMember g <|> signatureMember g <|> abstractMember g <|> indexMember g
    <|> fieldMember g <|> do
      let start ← begin
      mark ";"
      group start []

/-- The body of a class. -/
def classBody (g : Grammar) : Reader Tree := do
  let start ← begin
  mark "\x7b"
  let members ← Reader.many (classMember g)
  mark "\x7d"
  group start members

/-! ### Classes -/

/-- The classes that a class extends. -/
def extendsClause (g : Grammar) : Reader (List Tree) := do
  word "extends"
  commaList1 do
    let start ← begin
    let base ← g.expression .ofHeritage
    let types ← Reader.optional (typeArguments g)
    group start (base :: types.toList)

/-- The interfaces that a class implements. -/
def implementsClause (g : Grammar) : Reader (List Tree) := do
  word "implements"
  commaList1 (g.type .nestedType)

/-- What a class is built upon. -/
def heritage (g : Grammar) : Reader (List Tree) := do
  let bases ← Reader.optional (extendsClause g)
  let interfaces ← Reader.optional (implementsClause g)
  return bases.getD [] ++ interfaces.getD []

/-- The words that do not name a class. -/
def heritageWords : List Text := ["extends", "implements"]

/-- The name of a class. -/
def className : Reader Tree := do
  Reader.check (!seesAny heritageWords ·)
  nameNode .other

/-- A class from the word `class` on; `named` tells whether it must have a name. -/
def classTail (g : Grammar) (named : Bool) : Reader (List Tree) := do
  word "class"
  let name ← Reader.optional className
  Reader.check fun _ => !named || name.isSome
  let types ← Reader.optional (typeParameters g)
  let bases ← heritage g
  let body ← classBody g
  return name.toList ++ types.toList ++ bases ++ [body]

end Script

end ComponentFile
