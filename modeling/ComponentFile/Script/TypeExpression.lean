import ComponentFile.Script.Signature

/-!
Types: names with arguments, literals, tuples, object types, function types, unions and
intersections, conditional and mapped types.
-/

namespace ComponentFile

namespace Script

/-! ### Object types -/

/-- Reads a word as a modifier if a property name follows on the same line. -/
def memberModifier (words : List Text) : Reader Unit :=
  modifier words fun cursor =>
    !Context.ofDeclaredType.stops cursor && (seesPropertyName cursor || sees "*" cursor)

/-- The modifiers of a member that may precede any other. -/
def leadingModifiers : Reader Unit := do
  let _ ← Reader.optional (memberModifier accessWords)
  let _ ← Reader.optional (memberModifier ["static"])
  let _ ← Reader.optional (memberModifier ["override"])
  let _ ← Reader.optional (memberModifier ["readonly"])

/-- The modifiers of a method directly before its name. -/
def methodModifiers : Reader Unit := do
  let _ ← Reader.optional (memberModifier ["async"])
  let _ ← Reader.optional (memberModifier ["get", "set"] <|> mark "*")

/-- `Key in Type`, with or without a new name for the key. -/
def mappedClause (g : Grammar) : Reader (List Tree) := do
  let _ ← name
  word "in"
  let type ← g.type .nestedType
  let renamed ← Reader.optional (do word "as"; g.type .nestedType)
  return type :: renamed.toList

/-- `name: Type` in the brackets of an index signature. -/
def indexClause (g : Grammar) : Reader (List Tree) := do
  let _ ← name
  mark ":"
  let type ← g.type .nestedType
  return [type]

/-- An index signature or the key of a mapped type. -/
def indexSignature (g : Grammar) : Reader Tree := do
  let start ← begin
  let _ ← Reader.optional do
    let _ ← Reader.optional (mark "-" <|> mark "+")
    word "readonly"
  mark "["
  let key ← mappedClause g <|> indexClause g
  mark "]"
  mark ":" <|> mark "?:" <|> mark "-?:" <|> mark "+?:"
  let type ← g.type .ofDeclaredType
  group start (key ++ [type])

/-- A signature that can be called. -/
def callSignature (g : Grammar) : Reader Tree := do
  let start ← begin
  let parts ← signature g .ofDeclaredType
  group start parts

/-- A signature that can be constructed. -/
def constructSignature (g : Grammar) : Reader Tree := do
  let start ← begin
  let _ ← Reader.optional (word "abstract")
  word "new"
  let parts ← signature g .ofDeclaredType
  group start parts

/-- The signature of a method. -/
def methodSignature (g : Grammar) : Reader Tree := do
  let start ← begin
  leadingModifiers
  methodModifiers
  let name ← propertyName g
  let _ ← Reader.optional (mark "?")
  let parts ← signature g .ofSignature
  group start (name :: parts)

/-- A property with its type. -/
def propertySignature (g : Grammar) : Reader Tree := do
  let start ← begin
  leadingModifiers
  let name ← propertyName g
  let _ ← Reader.optional do
    Reader.check (!Context.ofDeclaredType.stops ·)
    mark "?"
  let type ← Reader.optional do
    Reader.check (!Context.ofDeclaredType.stops ·)
    typeClause g .ofDeclaredType
  group start (name :: type.toList)

/-- A member of an object type. -/
def typeMember (g : Grammar) : Reader Tree :=
  indexSignature g <|> constructSignature g <|> methodSignature g <|> callSignature g
    <|> propertySignature g

/-- What separates the members of an object type. -/
def memberSeparator : Reader Unit := mark "," <|> semicolon false

/-- A member after a separator. -/
def separated (g : Grammar) : Reader Tree := do
  memberSeparator
  typeMember g

/-- An object type. -/
def objectType (g : Grammar) : Reader Tree := do
  let start ← begin
  mark "\x7b"
  let members ← Reader.optional do
    let _ ← Reader.optional (mark "," <|> mark ";")
    let first ← typeMember g
    let rest ← Reader.many (separated g)
    let _ ← Reader.optional memberSeparator
    return first :: rest
  mark "\x7d"
  group start (members.getD [])

/-! ### Primary types -/

/-- A member of a tuple. -/
def tupleMember (g : Grammar) : Reader Tree :=
  (do
    let start ← begin
    let _ ← Reader.optional (mark "...")
    let _ ← name
    let _ ← Reader.optional (mark "?")
    let type ← typeClause g .nestedType
    group start [type])
  <|> do
    let start ← begin
    let _ ← Reader.optional (mark "...")
    let type ← g.type .nestedType
    let _ ← Reader.optional (mark "?")
    group start [type]

/-- A tuple type. -/
def tupleType (g : Grammar) : Reader Tree := do
  let start ← begin
  mark "["
  let members ← Reader.optional (commaList (tupleMember g))
  let _ ← Reader.optional (mark ",")
  mark "]"
  group start (members.getD [])

/-- One part of a template literal type. -/
def templateTypePart (g : Grammar) : Reader (List Tree) := fun cursor =>
  match templateCharsLength cursor.rest with
  | 0 =>
    (do
      Reader.check fun cursor => "$\x7b".toList.isPrefixOf cursor.rest
      mark "$\x7b"
      let type ← g.type .nestedType
      mark "\x7d"
      return [type] : Reader (List Tree)) cursor
  | n => some ([], cursor.skip n)

/-- A template literal type. -/
def templateType (g : Grammar) : Reader Tree := do
  let start ← begin
  mark "\x60"
  let parts ← Reader.many (templateTypePart g)
  Reader.check fun cursor => cursor.rest.head? = some '\x60'
  mark "\x60"
  group start parts.flatten

/-- One step from a value to a part of it, in the type of a value. -/
def queryStep (g : Grammar) (base : Tree) : Reader Tree :=
  (do
    mark "?." <|> mark "."
    let part ← privateName <|> nameNode .other
    group base.start [base, part])
  <|> (do
    let _ ← Reader.optional (mark "?.")
    mark "["
    let index ← stringLiteral <|> numberLiteral <|> nameNode .other
    mark "]"
    group base.start [base, index])
  <|> (do
    let arguments ← arguments g
    finish .call base.start [base.playing .callee, arguments.playing .arguments])
  <|> do
    let types ← typeArguments g
    group base.start [base, types]

/-- Follows steps from a value as far as they go. -/
def querySteps (g : Grammar) (context : Context) : (fuel : Nat) → Tree → Reader Tree
  | 0, base => return base
  | fuel + 1, base => fun cursor =>
    if context.stops cursor then some (base, cursor)
    else match queryStep g base cursor with
      | some (next, cursor) => querySteps g context fuel next cursor
      | none => some (base, cursor)

/-- The type of a value. -/
def typeQuery (g : Grammar) (context : Context) : Reader Tree := do
  let start ← begin
  word "typeof"
  let base ← nameNode .identifier
  let value ← fun cursor => querySteps g context cursor.rest.length base cursor
  group start [value]

/-- A type taken from another module. -/
def importType (g : Grammar) (context : Context) : Reader Tree := do
  let base ← (do Reader.check (seesWord "import"); nameNode .other)
  Reader.check fun cursor => sees "(" cursor || sees "." cursor
  fun cursor => querySteps g context cursor.rest.length base cursor

/-- A name of a type, with its path and arguments. -/
def namedType (g : Grammar) (context : Context) : Reader Tree := do
  let start ← begin
  let _ ← name
  let _ ← Reader.many do
    Reader.check (!context.stops ·)
    mark "."
    name
  let arguments ← Reader.optional do
    Reader.check (!context.stops ·)
    typeArguments g
  group start arguments.toList

/-- The type of a function. -/
def functionType (g : Grammar) (context : Context) : Reader Tree := do
  let start ← begin
  let types ← Reader.optional (typeParameters g)
  let parameters ← parameters g
  mark "=>"
  let result ← returnType g context
  group start (types.toList ++ [parameters, result])

/-- The type of a constructor. -/
def constructorType (g : Grammar) (context : Context) : Reader Tree := do
  let start ← begin
  let _ ← Reader.optional (word "abstract")
  word "new"
  let types ← Reader.optional (typeParameters g)
  let parameters ← parameters g
  mark "=>"
  let result ← g.type context
  group start (types.toList ++ [parameters, result])

/-- A word that stands before a type, and the type. -/
def wordedType (g : Grammar) (context : Context) (words : List Text) : Reader Tree := do
  let start ← begin
  let _ ← oneOf words
  let type ← g.type context
  group start [type]

/-- A type variable to be inferred. -/
def inferType (g : Grammar) (context : Context) : Reader Tree := do
  let start ← begin
  word "infer"
  let _ ← name
  let bound ← Reader.optional do
    Reader.check (!context.stops ·)
    word "extends"
    g.type context
  group start bound.toList

/-- `unique symbol`. -/
def uniqueType : Reader Tree := do
  let start ← begin
  word "unique"
  word "symbol"
  group start []

/-- A number with a sign. -/
def signedNumber : Reader Tree := do
  let start ← begin
  mark "-" <|> mark "+"
  let _ ← numberLiteral
  group start []

/-- A type in parentheses. -/
def parenthesizedType (g : Grammar) : Reader Tree := do
  let start ← begin
  mark "("
  let type ← g.type .nestedType
  mark ")"
  group start [type]

/-- `?Type` or `*`. -/
def looseType (g : Grammar) (context : Context) : Reader Tree := do
  let start ← begin
  (do mark "?"; let type ← g.type context; group start [type]) <|> (do mark "*"; group start [])

/-- The words that begin a type of their own form. -/
def typeWords : List Text := ["keyof", "infer", "typeof", "import", "new", "readonly"]

/-- A type without operators. -/
def primaryType (g : Grammar) (context : Context) : Reader Tree :=
  functionType g context <|> constructorType g context
    <|> wordedType g context ["readonly", "keyof"] <|> inferType g context
    <|> typeQuery g context <|> importType g context <|> uniqueType
    <|> (do Reader.check (!seesAny typeWords ·); namedType g context)
    <|> objectType g <|> tupleType g <|> parenthesizedType g <|> templateType g
    <|> stringLiteral <|> numberLiteral <|> signedNumber <|> looseType g context

/-! ### Operators -/

/-- One step from a type to an array of it or a part of it. -/
def typeStep (g : Grammar) (base : Tree) : Reader Tree := do
  mark "["
  let index ← Reader.optional (g.type .nestedType)
  mark "]"
  group base.start (base :: index.toList)

/-- Follows such steps as far as they go. -/
def typeSteps (g : Grammar) (context : Context) : (fuel : Nat) → Tree → Reader Tree
  | 0, base => return base
  | fuel + 1, base => fun cursor =>
    if context.stops cursor then some (base, cursor)
    else match typeStep g base cursor with
      | some (next, cursor) => typeSteps g context fuel next cursor
      | none => some (base, cursor)

/-- The sign of a union or an intersection. -/
def typeOperator : Reader Unit := do
  Reader.check fun cursor => !(sees "||" cursor || sees "&&" cursor)
  mark "|" <|> mark "&"

/-- An operand of a union or an intersection. -/
def typeOperand (g : Grammar) (context : Context) : Reader Tree := do
  let _ ← Reader.many typeOperator
  let base ← primaryType g context
  fun cursor => typeSteps g context cursor.rest.length base cursor

/-- A union or an intersection. -/
def unionType (g : Grammar) (context : Context) : Reader Tree := do
  let start ← begin
  let first ← typeOperand g context
  let rest ← Reader.many do
    Reader.check (!context.stops ·)
    typeOperator
    typeOperand g context
  group start (first :: rest)

/-- A type. -/
def typeExpression (g : Grammar) (context : Context) : Reader Tree := do
  let start ← begin
  let subject ← unionType g context
  let branches ← Reader.optional do
    Reader.check (!context.stops ·)
    word "extends"
    let bound ← g.type .nestedType
    mark "?"
    let yes ← g.type .nestedType
    mark ":"
    let no ← g.type context
    return [bound, yes, no]
  group start (subject :: branches.getD [])

end Script

end ComponentFile
