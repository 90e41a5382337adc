import ComponentFile.Script.Class

/-!
Expressions and patterns.

An expression is a chain of operands and binary operators. How operators nest is not recorded,
because no analysis asks for it; only `as` and `satisfies` make nodes of their own kind. An operand
is a primary expression with prefix operators before it and calls, members and the like after it.
-/

namespace ComponentFile

namespace Script

/-! ### Operators -/

/-- The signs that may follow an operand, longer ones first. -/
def operatorSigns : List Text :=
  ([">>>=", "===", "!==", ">>>", "**=", "&&=", "||=", "??=", "<<=", ">>=", "...", "=>", "==", "!=",
    "<=", ">=", "&&", "||", "??", "**", "<<", ">>", "++", "--", "+=", "-=", "*=", "/=", "%=", "^=",
    "&=", "|=", "?.", "+", "-", "*", "/", "%", "&", "|", "^", "<", ">", "=", "?", "!",
    "."] : List String).map String.toList

/-- The signs of binary operators. -/
def binarySigns : List Text :=
  (["===", "!==", ">>>", "==", "!=", "<=", ">=", "&&", "||", "??", "**", "<<", ">>", "+", "-", "*",
    "/", "%", "&", "|", "^", "<", ">"] : List String).map String.toList

/-- The signs of assignments other than `=`. -/
def augmentedSigns : List Text :=
  ([">>>=", "**=", "&&=", "||=", "??=", "<<=", ">>=", "+=", "-=", "*=", "/=", "%=", "^=", "&=",
    "|="] : List String).map String.toList

/-- The sign that follows, after a gap. -/
def peekSign (cursor : Cursor) : Text :=
  (operatorSigns.find? (·.isPrefixOf (skipGap cursor).rest)).getD []

/-- Reads the given sign, where no longer one stands. -/
def sign (s : Text) : Reader Unit := do
  Reader.check (peekSign · = s)
  mark s

/-! ### Operands under construction -/

/-- An operand, and what may be done with it. -/
structure Operand where
  /-- The tree read so far. -/
  tree : Tree
  /-- Whether it may stand on the left of an assignment. -/
  target : Bool := false

/-- An operand that nothing can be assigned to. -/
def Operand.value (tree : Tree) : Operand := { tree }

/-! ### Object literals and arrays -/

/-- A name that is key and value at once. -/
def shorthand : Reader Tree := nameNode .shorthand

/-- `key: value`. -/
def pair (g : Grammar) : Reader Tree := do
  let start ← begin
  let key ← propertyName g
  mark ":"
  let value ← g.expression .nested
  finish .pair start [key.playing .key, value.playing .value]

/-- An entry of an object literal. -/
def objectEntry (g : Grammar) : Reader Tree :=
  spread g <|> pair g <|> method g .nested <|> shorthand

/-- An object literal. -/
def objectLiteral (g : Grammar) : Reader Tree := do
  let start ← begin
  mark "\x7b"
  let entries ← holedList (objectEntry g)
  mark "\x7d"
  finish .object start entries

/-- An array literal. -/
def arrayLiteral (g : Grammar) : Reader Tree := do
  let start ← begin
  mark "["
  let items ← holedList (spread g <|> g.expression .nested)
  mark "]"
  group start items

/-! ### Functions -/

/-- A function expression, after any `async`. -/
def functionTail (g : Grammar) : Reader (List Tree) := do
  word "function"
  let _ ← Reader.optional (mark "*")
  let name ← Reader.optional (nameNode .other)
  let parts ← signature g .nested
  let body ← block g true
  return name.toList ++ parts ++ [body]

/-- The body of an arrow function. -/
def arrowBody (g : Grammar) (context : Context) : Reader Tree := do
  mark "=>"
  block g true <|> g.expression context

/-- The parameters of an arrow function. -/
def arrowParameters (g : Grammar) (context : Context) : Reader (List Tree) := do
  let types ← Reader.optional (typeParameters g)
  let parameters ← parameters g
  let result ← Reader.optional do
    Reader.check fun _ => context.typedArrows
    mark ":"
    returnType g .nestedType
  return types.toList ++ parameters :: result.toList

/-- An arrow function, after any `async`. -/
def arrowTail (g : Grammar) (context : Context) : Reader (List Tree) := do
  let parameters ← (do let p ← nameNode .other; return [p]) <|> arrowParameters g context
  let body ← arrowBody g context
  return parameters ++ [body]

/-- An arrow function. -/
def arrow (g : Grammar) (context : Context) : Reader Tree := do
  let start ← begin
  let parts ← arrowTail g context
  group start parts

/-- An asynchronous function. -/
def asyncFunction (g : Grammar) (context : Context) : Reader Tree := do
  let start ← begin
  word "async"
  Reader.check (!context.stops ·)
  let parts ← functionTail g <|> arrowTail g context
  group start parts

/-! ### Primary expressions -/

/-- An expression in parentheses, with its type, or several expressions. -/
def parenthesized (g : Grammar) : Reader Tree := do
  let start ← begin
  mark "("
  let inner ← begin
  let first ← g.expression .nested
  let type ← Reader.optional (typeClause g .nestedType)
  let rest ← Reader.many (do mark ","; g.expression .nested)
  Reader.check fun _ => rest.isEmpty || type.isNone
  let sequence ← group inner (first :: rest)
  mark ")"
  finish .parenthesized start (if rest.isEmpty then first :: type.toList else [sequence])

/-- The words that begin an expression of their own form, or none at all. -/
def expressionWords : List Text :=
  ["function", "class", "typeof", "void", "delete", "await", "yield", "import", "using"]

/-- The words for values that nothing can be assigned to. -/
def valueWords : List Text := ["this", "super", "null", "true", "false"]

/-- A name used as an expression. -/
def identifier : Reader Operand := do
  Reader.check fun cursor => !seesAny expressionWords cursor
  let start ← begin
  let w ← name
  if valueWords.contains w then return .value (← group start [])
  else if w = "undefined".toList then return { tree := ← group start [], target := true }
  else return { tree := ← finish .identifier start [], target := true }

/-- A class used as an expression. -/
def classExpression (g : Grammar) : Reader Tree := do
  let start ← begin
  let decorators ← Reader.many (decorator g)
  let parts ← classTail g false
  group start (decorators ++ parts)

/-- A generator handing out a value. -/
def yieldExpression (g : Grammar) (context : Context) : Reader Tree := do
  let start ← begin
  word "yield"
  let value ← Reader.optional do
    Reader.check (!context.stops ·)
    let _ ← Reader.optional (mark "*")
    g.expression context
  group start value.toList

/-- A module asked for at run time. -/
def importExpression : Reader Tree := do
  let start ← begin
  word "import"
  Reader.check fun cursor => sees "(" cursor || sees "." cursor
  group start []

/-- A private name on the left of `in`. -/
def privateOperand : Reader Tree := do
  let p ← privateName
  Reader.check (seesWord "in")
  return p

/-! ### Steps from an operand -/

/-- `.name`. -/
def memberStep (base : Operand) : Reader Operand := do
  sign "."
  let part ← privateName <|> nameNode .other
  return { tree := ← group base.tree.start [base.tree, part], target := true }

/-- `[index]`. -/
def indexStep (g : Grammar) (base : Operand) : Reader Operand := do
  mark "["
  let index ← expressions g .nested
  mark "]"
  return { tree := ← group base.tree.start [base.tree, index], target := true }

/-- A call with the given arguments. -/
def callNode (base : Operand) (types : Option Tree) (arguments : Tree) : Reader Operand := do
  return .value (← finish .call base.tree.start
    (base.tree.playing .callee :: types.toList ++ [arguments.playing .arguments]))

/-- A call. -/
def callStep (g : Grammar) (base : Operand) : Reader Operand := do
  let arguments ← arguments g
  callNode base none arguments

/-- A template literal as an argument. -/
def templateStep (g : Grammar) (base : Operand) : Reader Operand := do
  let t ← template g
  callNode base none t

/-- A step that is taken only if there is something to step from. -/
def optionalStep (g : Grammar) (base : Operand) : Reader Operand := do
  Reader.check fun cursor =>
    sees "?." cursor && !(((skipGap cursor).rest.drop 2).head?.any Char.isDigit)
  mark "?."
  indexStep g base <|> (do
      let types ← Reader.optional (typeArguments g)
      let arguments ← arguments g
      callNode base types arguments)
    <|> do
      let part ← privateName <|> nameNode .other
      return { tree := ← group base.tree.start [base.tree, part], target := true }

/-- `!` after an operand. -/
def certainStep (base : Operand) : Reader Operand := do
  sign "!"
  return { tree := ← group base.tree.start [base.tree], target := true }

/-- `++` or `--` after an operand. -/
def updateStep (base : Operand) : Reader Operand := do
  sign "++" <|> sign "--"
  return .value (← group base.tree.start [base.tree])

/-- Whether an operand may begin here. -/
def seesOperand (cursor : Cursor) : Bool :=
  match (skipGap cursor).rest with
  | [] => false
  | c :: cs =>
    "([\x7b\"'\x60/@#!~+-<".toList.contains c || c.isDigit
      || c = '.' && cs.head?.any Char.isDigit
      || nameLength (c :: cs) ≠ 0 && !seesAny ["in", "instanceof", "as", "satisfies"] cursor

/-- Type arguments after an operand, with a call or without one. -/
def genericStep (g : Grammar) (context : Context) (base : Operand) : Reader Operand := do
  let types ← typeArguments g
  (do
    let arguments ← arguments g
    callNode base (some types) arguments)
  <|> do
    Reader.check fun cursor => !context.operators || context.stops cursor || !seesOperand cursor
    return .value (← group base.tree.start [base.tree, types])

/-- One step from an operand; `calls` tells whether it may be called. -/
def step (g : Grammar) (context : Context) (calls : Bool) (base : Operand) : Reader Operand :=
  memberStep base <|> indexStep g base <|> templateStep g base <|>
    if calls then
      optionalStep g base <|> callStep g base <|> certainStep base <|> updateStep base
        <|> genericStep g context base
    else certainStep base

/-- Follows steps from an operand as far as they go. -/
def steps (g : Grammar) (context : Context) (calls : Bool) : (fuel : Nat) → Operand → Reader Operand
  | 0, base => return base
  | fuel + 1, base => fun cursor =>
    if context.stops cursor then some (base, cursor)
    else match step g context calls base cursor with
      | some (next, cursor) => steps g context calls fuel next cursor
      | none => some (base, cursor)

/-- Follows steps from an operand as far as they go. -/
def stepsFrom (g : Grammar) (context : Context) (calls : Bool) (base : Operand) : Reader Operand :=
  fun cursor => steps g context calls cursor.rest.length base cursor

/-! ### Operands -/

/-- A primary expression that `new` may be applied to, and any other operand before its steps. -/
def primary (g : Grammar) (context : Context) : Reader Operand :=
  (do return .value (← asyncFunction g context))
  <|> (do
    Reader.check fun cursor => sees "(" cursor || sees "<" cursor || peekName cursor ≠ []
    return .value (← arrow g context))
  <|> (do return { tree := ← parenthesized g, target := true })
  <|> (do
    let start ← begin
    let parts ← functionTail g
    return .value (← group start parts))
  <|> (do return .value (← classExpression g))
  <|> (do return .value (← yieldExpression g context))
  <|> (do return .value (← importExpression))
  <|> (do return .value (← objectLiteral g))
  <|> (do return .value (← arrayLiteral g))
  <|> (do return .value (← stringLiteral))
  <|> (do return .value (← numberLiteral))
  <|> (do return .value (← template g))
  <|> (do return .value (← regexLiteral))
  <|> (do return .value (← privateOperand))
  <|> identifier

/-- `new` and what is made. -/
def newExpression (g : Grammar) (context : Context) : Reader Tree := do
  let start ← begin
  word "new"
  (do
    mark "."
    word "target"
    group start [])
  <|> do
    let base ← primary g context
    let maker ← stepsFrom g context false base
    let types ← Reader.optional do
      Reader.check (!context.stops ·)
      let types ← typeArguments g
      Reader.check fun cursor => sees "(" cursor || !seesOperand cursor
      return types
    let arguments ← Reader.optional do
      Reader.check (!context.stops ·)
      arguments g
    group start (maker.tree :: types.toList ++ arguments.toList)

/-- A primary expression, `new` included. -/
def primaryOrNew (g : Grammar) (context : Context) : Reader Operand :=
  (do return .value (← newExpression g context)) <|> primary g context

/-- A prefix operator. -/
def prefixOperator (g : Grammar) : Reader (List Tree) :=
  (do
    sign "++" <|> sign "--" <|> sign "!" <|> sign "+" <|> sign "-" <|> mark "~"
    return [])
  <|> (do
    let _ ← oneOf ["typeof", "void", "delete", "await"]
    return [])
  <|> do
    let types ← typeArguments g
    return [types]

/-- Reads the sign of an assignment, `=` or another. -/
def assignmentSign (augmented : Bool) : Reader Unit :=
  sign "=" <|> do
    Reader.check fun cursor => augmented && augmentedSigns.contains (peekSign cursor)
    (fun cursor => mark (peekSign cursor) cursor : Reader Unit)

/-- The value of an assignment to a target that has been read. -/
def assigned (g : Grammar) (context : Context) (augmented : Bool) (target : Tree) :
    Reader Tree := do
  Reader.check (!context.stops ·)
  assignmentSign augmented
  let value ← g.expression context
  group target.start [target, value]

/-- An assignment to the names in a pattern. -/
def destructuring (g : Grammar) (context : Context) : Reader Tree := do
  Reader.check fun cursor => sees "[" cursor || sees "\x7b" cursor
  let target ← g.pattern
  assigned g context false target

/-- A primary expression with its steps, and an assignment to it if one follows. -/
def assignmentOrValue (g : Grammar) (context : Context) : Reader Tree := do
  let base ← primaryOrNew g context
  let value ← stepsFrom g context true base
  if value.target && context.operators then assigned g context true value.tree <|> return value.tree
  else return value.tree

/-- An assignment that disposes of its value in the end. -/
def usingAssignment (g : Grammar) (context : Context) : Reader Tree := do
  let start ← begin
  word "using"
  let target ← g.pattern
  let value ← assigned g context false target
  group start [value]

/-- An operand: prefix operators, then an assignment or a primary expression with its steps. -/
def operand (g : Grammar) (context : Context) : Reader Tree := do
  let start ← begin
  let prefixes ← Reader.many do
    -- a generic arrow function looks like a type assertion at first
    Reader.check fun cursor => !(sees "<" cursor && (arrow g context).succeeds cursor)
    prefixOperator g
  let body ← usingAssignment g context <|> destructuring g context <|> assignmentOrValue g context
  if prefixes.isEmpty then return body else group start (prefixes.flatten ++ [body])

/-! ### Chains of operands -/

/-- `? yes : no` after a condition. Where a return type after the parameters of an arrow function
takes the colon, it is read again without. -/
def conditionalStep (g : Grammar) (context : Context) (base : Tree) : Reader Tree := do
  Reader.check fun cursor =>
    let rest := (skipGap cursor).rest
    match rest with
    | '?' :: '?' :: _ => false
    | '?' :: '.' :: c :: _ => c.isDigit
    | '?' :: cs => !([':', ')', ','].contains ((cs.dropWhile isAsciiBlank).head?.getD ' '))
    | _ => false
  mark "?"
  let branches (typedArrows : Bool) : Reader Tree := do
    let yes ← g.expression { Context.nested with typedArrows }
    mark ":"
    let no ← g.expression context
    group base.start [base, yes, no]
  branches context.typedArrows <|> branches false

/-- `as Type` or `satisfies Type` after an expression. -/
def typedStep (g : Grammar) (context : Context) (base : Tree) : Reader Tree :=
  (do
    word "as"
    let type ← g.type { context with inExpression := true }
    finish .asExpression base.start [base, type])
  <|> do
    word "satisfies"
    let type ← g.type { context with inExpression := true }
    finish .satisfiesExpression base.start [base, type]

/-- A binary operator and its right operand. -/
def binaryStep (g : Grammar) (context : Context) (base : Tree) : Reader Tree := do
  (do
    Reader.check fun cursor => binarySigns.contains (peekSign cursor)
    (fun cursor => mark (peekSign cursor) cursor : Reader Unit))
    <|> word "in" <|> word "instanceof"
  let right ← operand g context
  group base.start [base, right]

/-- Follows operators as far as they go. -/
def operators (g : Grammar) (context : Context) : (fuel : Nat) → Tree → Reader Tree
  | 0, base => return base
  | fuel + 1, base => fun cursor =>
    if context.stops cursor then some (base, cursor)
    else
      match (typedStep g context base <|> binaryStep g context base
        <|> conditionalStep g context base) cursor with
      | some (next, cursor) => operators g context fuel next cursor
      | none => some (base, cursor)

/-- An expression. -/
def expression (g : Grammar) (context : Context) : Reader Tree := do
  let first ← operand g context
  if context.operators then fun cursor => operators g context cursor.rest.length first cursor
  else return first

/-! ### Patterns -/

/-- `...pattern`. -/
def restPattern (g : Grammar) : Reader Tree := do
  let start ← begin
  mark "..."
  let inner ← g.pattern
  group start [inner]

/-- A pattern with an optional default. -/
def defaultedPattern (g : Grammar) : Reader Tree := do
  let start ← begin
  let inner ← g.pattern
  let value ← Reader.optional (initializer g .nested)
  group start (inner :: value.toList)

/-- An entry of an object pattern. -/
def objectPatternEntry (g : Grammar) : Reader Tree :=
  restPattern g
  <|> (do
    let start ← begin
    let key ← propertyName g
    mark ":"
    let value ← defaultedPattern g
    group start [key, value])
  <|> do
    let start ← begin
    let name ← nameNode .other
    let value ← Reader.optional (initializer g .nested)
    group start (name :: value.toList)

/-- An object pattern. -/
def objectPattern (g : Grammar) : Reader Tree := do
  let start ← begin
  mark "\x7b"
  let entries ← holedList (objectPatternEntry g)
  mark "\x7d"
  group start entries

/-- An array pattern. -/
def arrayPattern (g : Grammar) : Reader Tree := do
  let start ← begin
  mark "["
  let items ← holedList (defaultedPattern g)
  mark "]"
  group start items

/-- A part of a value: a name, and members or items of it. -/
def place (g : Grammar) : (fuel : Nat) → Operand → Reader Operand
  | 0, base => return base
  | fuel + 1, base => fun cursor =>
    match (memberStep base <|> indexStep g base <|> certainStep base) cursor with
    | some (next, cursor) => place g fuel next cursor
    | none => some (base, cursor)

/-- A pattern: a part of a value, or names taken out of an object or an array. -/
def pattern (g : Grammar) : Reader Tree :=
  objectPattern g <|> arrayPattern g <|> restPattern g <|> do
    let base ← identifier
    let target ← fun cursor => place g cursor.rest.length base cursor
    if target.target then return target.tree else failure

end Script

end ComponentFile
