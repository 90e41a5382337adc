import ComponentFile.Script.Grammar

/-!
Signatures: decorators, modifiers, type parameters, parameters and return types.
-/

namespace ComponentFile

namespace Script

/-! ### Decorators -/

/-- A dotted name that a decorator refers to. -/
def decoratorPath : Reader Tree := do
  let start ← begin
  let first ← nameNode .identifier
  let rest ← Reader.many (do mark "."; nameNode .other)
  if rest.isEmpty then return first else group start (first :: rest)

/-- A dotted name, called or not. -/
def decoratorBody (g : Grammar) : Reader Tree := do
  let start ← begin
  let path ← decoratorPath
  let call ← Reader.optional do
    let types ← Reader.optional (typeArguments g)
    let arguments ← arguments g
    return types.toList ++ [arguments.playing .arguments]
  match call with
  | some parts => finish .call start (path.playing .callee :: parts)
  | none => return path

/-- A decorator. -/
def decorator (g : Grammar) : Reader Tree := do
  let start ← begin
  mark "@"
  let body ← decoratorBody g <|> do
    let start ← begin
    mark "("
    let body ← decoratorBody g
    mark ")"
    finish .parenthesized start [body]
  group start [body]

/-! ### Modifiers -/

/-- Whether a name, or something that can stand for the name of a property, follows. -/
def seesPropertyName (cursor : Cursor) : Bool :=
  match (skipGap cursor).rest with
  | [] => false
  | c :: cs =>
    c = '[' || c = '#' || c = '"' || c = '\'' || c.isDigit || c = '.' && cs.head?.any Char.isDigit
      || nameLength (c :: cs) ≠ 0

/-- A word that modifies what follows: it counts as a modifier only if the test holds after it. -/
def modifier (words : List Text) (follows : Cursor → Bool) : Reader Unit := do
  let _ ← oneOf words
  Reader.check follows

/-- The words for accessibility. -/
def accessWords : List Text := ["public", "private", "protected"]

/-! ### Types of values -/

/-- `: Type`. -/
def typeClause (g : Grammar) (context : Context) : Reader Tree := do
  mark ":"
  g.type context

/-- `name is Type`. -/
def typePredicate (g : Grammar) (context : Context) : Reader Tree := do
  let start ← begin
  let _ ← name
  Reader.check (!context.stops ·)
  word "is"
  let type ← g.type context
  group start [type]

/-- `asserts name`, with or without a type. -/
def assertion (g : Grammar) (context : Context) : Reader Tree := do
  let start ← begin
  word "asserts"
  Reader.check (!context.stops ·)
  let body ← typePredicate g context <|> nameNode .other
  group start [body]

/-- What a function may be said to return. -/
def returnType (g : Grammar) (context : Context) : Reader Tree :=
  assertion g context <|> typePredicate g context <|> g.type context

/-! ### Parameters -/

/-- `= expression`. -/
def initializer (g : Grammar) (context : Context) : Reader Tree := do
  mark "="
  Reader.check fun cursor => !(['=', '>'].contains (cursor.rest.head?.getD ' '))
  g.expression context

/-- Whether a parameter may begin here. -/
def seesParameter (cursor : Cursor) : Bool :=
  seesPropertyName cursor || sees "\x7b" cursor || sees "..." cursor

/-- A parameter of a function. -/
def parameter (g : Grammar) : Reader Tree := do
  let start ← begin
  let decorators ← Reader.many (decorator g)
  let _ ← Reader.optional (modifier accessWords seesParameter)
  let _ ← Reader.optional (modifier ["override"] seesParameter)
  let _ ← Reader.optional (modifier ["readonly"] seesParameter)
  let pattern ← g.pattern <|> (do Reader.check (seesWord "this"); nameNode .other)
  let _ ← Reader.optional (mark "?")
  let type ← Reader.optional (typeClause g .nestedType)
  let value ← Reader.optional (initializer g .nested)
  group start (decorators ++ pattern :: type.toList ++ value.toList)

/-- The parameters of a function. -/
def parameters (g : Grammar) : Reader Tree := do
  let start ← begin
  mark "("
  let items ← Reader.optional (commaList (parameter g))
  mark ")"
  group start (items.getD [])

/-- One type parameter. -/
def typeParameter (g : Grammar) : Reader Tree := do
  let start ← begin
  let _ ← Reader.optional (modifier ["const"] fun cursor => peekName cursor ≠ [])
  let _ ← name
  let bound ← Reader.optional do
    word "extends" <|> mark ":"
    g.type .nestedType
  let default ← Reader.optional (do mark "="; g.type .nestedType)
  group start (bound.toList ++ default.toList)

/-- Type parameters. -/
def typeParameters (g : Grammar) : Reader Tree := do
  let start ← begin
  mark "<"
  let items ← commaList (typeParameter g)
  mark ">"
  group start items

/-- Type parameters, parameters and return type of a function. -/
def signature (g : Grammar) (context : Context) : Reader (List Tree) := do
  let types ← Reader.optional (typeParameters g)
  let parameters ← parameters g
  let result ← Reader.optional do
    Reader.check (!context.stops ·)
    mark ":"
    returnType g context
  return types.toList ++ parameters :: result.toList

end Script

end ComponentFile
