import ComponentFile.Script.Expression

/-!
Statements: imports, exports, declarations and control flow.
-/

namespace ComponentFile

namespace Script

/-! ### Expressions as statements -/

/-- An expression used as a statement. -/
def expressionStatement (g : Grammar) : Reader Tree := do
  let start ← begin
  let e ← expressions g .ofStatement
  semicolon true
  finish .expressionStatement start [e]

/-- A statement with a label. -/
def labeled (g : Grammar) : Reader Tree := do
  let start ← begin
  let _ ← name
  mark ":"
  let body ← g.statement
  group start [body]

/-- Whether an operator follows, so that braces before it hold an object and not statements. -/
def seesContinuation (cursor : Cursor) : Bool :=
  let s := peekSign cursor
  s ≠ [] && !(["+", "-", "!", "++", "--", "<", "/", "<<", "..."].map String.toList).contains s
    || sees "," cursor || seesAny ["in", "instanceof", "as", "satisfies"] cursor

/-- Statements in braces, or an object literal where only that fits. -/
def braces (g : Grammar) : Reader Tree :=
  (do
    let body ← block g false
    Reader.check (!seesContinuation ·)
    return body)
  <|> expressionStatement g <|> block g false

/-! ### Imports -/

/-- `* as name`. -/
def namespaceImport : Reader Tree := do
  let start ← begin
  mark "*"
  word "as"
  let n ← nameNode .identifier
  finish .namespaceImport start [n]

/-- An entry in the braces of an import. -/
def importSpecifier : Reader Tree := do
  let start ← begin
  let _ ← Reader.optional (word "type" <|> word "typeof")
  (do
    let n ← stringLiteral <|> nameNode .identifier
    word "as"
    let a ← nameNode .identifier
    finish .importSpecifier start [n.playing .name, a.playing .localName])
  <|> do
    let n ← nameNode .identifier
    finish .importSpecifier start [n.playing .name]

/-- The braces of an import. -/
def namedImports : Reader Tree := do
  let start ← begin
  mark "\x7b"
  let specifiers ← Reader.optional (commaList importSpecifier)
  let _ ← Reader.optional (mark ",")
  mark "\x7d"
  finish .namedImports start (specifiers.getD [])

/-- The bindings of an import. -/
def importClause : Reader Tree := do
  let start ← begin
  let parts ← (do return [← namespaceImport]) <|> (do return [← namedImports]) <|> do
    let n ← nameNode .identifier
    let more ← Reader.optional (do mark ","; namespaceImport <|> namedImports)
    return n :: more.toList
  finish .importClause start parts

/-- `from 'module'`. -/
def fromClause : Reader Tree := do
  word "from"
  let source ← stringLiteral
  return source.playing .source

/-- `name = require('module')`. -/
def requireClause : Reader Tree := do
  let start ← begin
  let n ← nameNode .identifier
  mark "="
  word "require"
  mark "("
  let source ← stringLiteral
  mark ")"
  group start [n, source]

/-- An import. -/
def importStatement (g : Grammar) : Reader Tree := do
  let start ← begin
  word "import"
  let _ ← Reader.optional (word "type" <|> word "typeof")
  let parts ← (do let c ← importClause; let s ← fromClause; return [c, s])
    <|> (do let r ← requireClause; return [r])
    <|> (do let s ← stringLiteral; return [s.playing .source])
  let attributes ← Reader.optional do
    Reader.check (!Context.ofDeclaredType.stops ·)
    word "with"
    objectLiteral g
  semicolon false
  finish .importStatement start (parts ++ attributes.toList)

/-- A name with a path. -/
def dottedName : Reader Tree := do
  let start ← begin
  let _ ← name
  let _ ← Reader.many (do mark "."; name)
  group start []

/-- `import name = path`. -/
def importAlias : Reader Tree := do
  let start ← begin
  word "import"
  let _ ← name
  mark "="
  let path ← dottedName
  semicolon false
  group start [path]

/-! ### Declarations -/

/-- A declared variable, and whether it has a value. -/
def declarator (g : Grammar) : Reader (Tree × Bool) := do
  let start ← begin
  let target ← objectPattern g <|> arrayPattern g <|> nameNode .other
  (do
    mark "!"
    let type ← typeClause g .ofDeclaredType
    return (← group start [target, type], false))
  <|> do
    let type ← Reader.optional do
      Reader.check (!Context.ofDeclaredType.stops ·)
      typeClause g .ofDeclaredType
    let value ← Reader.optional do
      Reader.check (!Context.ofDeclaredType.stops ·)
      initializer g .ofStatement
    return (← group start (target :: type.toList ++ value.toList), value.isSome)

/-- Declared variables. -/
def variableDeclaration (g : Grammar) (words : List Text) : Reader Tree := do
  let start ← begin
  let w ← oneOf words
  -- `let` alone on its line is a name
  if w = "let".toList then Reader.check (!Context.ofStatement.stops ·)
  let declarators ← commaList1 (declarator g)
  semicolon (declarators.getLast?.any (·.2))
  group start (declarators.map (·.1))

/-- A function with a name. -/
def functionDeclaration (g : Grammar) : Reader Tree := do
  let start ← begin
  let async ← Reader.optional (word "async")
  if async.isSome then Reader.check (!Context.ofStatement.stops ·)
  word "function"
  let _ ← Reader.optional (mark "*")
  let n ← nameNode .other
  let parts ← signature g .ofSignature
  let body ← (do return [← block g false]) <|> (do signatureEnd; return [])
  let _ ← Reader.optional (lineEnd false)
  group start (n :: parts ++ body)

/-- A class with a name. -/
def classDeclaration (g : Grammar) : Reader Tree := do
  let start ← begin
  let decorators ← Reader.many (decorator g)
  let parts ← classTail g true
  let _ ← Reader.optional (lineEnd false)
  group start (decorators ++ parts)

/-- An abstract class. -/
def abstractClass (g : Grammar) : Reader Tree := do
  let start ← begin
  let decorators ← Reader.many (decorator g)
  word "abstract"
  let parts ← classTail g true
  group start (decorators ++ parts)

/-- A type with a name. -/
def typeAlias (g : Grammar) : Reader Tree := do
  let start ← begin
  word "type"
  Reader.check (!Context.ofStatement.stops ·)
  let _ ← name
  let types ← Reader.optional (typeParameters g)
  mark "="
  let type ← g.type .ofDeclaredType
  semicolon false
  group start (types.toList ++ [type])

/-- An interface. -/
def interfaceDeclaration (g : Grammar) : Reader Tree := do
  let start ← begin
  word "interface"
  let _ ← name
  let types ← Reader.optional (typeParameters g)
  let bases ← Reader.optional (do word "extends"; commaList1 (namedType g .nestedType))
  let body ← objectType g
  group start (types.toList ++ bases.getD [] ++ [body])

/-- A member of an enumeration. -/
def enumMember (g : Grammar) : Reader Tree := do
  let start ← begin
  let n ← propertyName g
  let value ← Reader.optional (initializer g .nested)
  group start (n :: value.toList)

/-- An enumeration. -/
def enumDeclaration (g : Grammar) : Reader Tree := do
  let start ← begin
  let _ ← Reader.optional (word "const")
  word "enum"
  let _ ← name
  mark "\x7b"
  let members ← Reader.optional (commaList (enumMember g))
  mark "\x7d"
  group start (members.getD [])

/-- A module or a namespace. -/
def moduleDeclaration (g : Grammar) : Reader Tree := do
  let start ← begin
  let _ ← oneOf ["module", "namespace"]
  Reader.check (!Context.ofStatement.stops ·)
  let _ ← stringLiteral <|> dottedName
  let body ← Reader.optional (block g false)
  group start body.toList

/-- A declaration other than an ambient one. -/
def plainDeclaration (g : Grammar) : Reader Tree :=
  functionDeclaration g <|> classDeclaration g <|> abstractClass g <|> enumDeclaration g
    <|> variableDeclaration g ["let", "const", "var"] <|> typeAlias g <|> interfaceDeclaration g
    <|> moduleDeclaration g <|> importAlias

/-- What an ambient declaration declares. -/
def ambientBody (g : Grammar) : Reader Tree :=
  (do word "global"; block g false)
  <|> (do
    let start ← begin
    word "module"
    mark "."
    let _ ← name
    let type ← typeClause g .ofDeclaredType
    semicolon false
    group start [type])
  <|> plainDeclaration g

/-- A declaration of something that exists elsewhere. -/
def ambientDeclaration (g : Grammar) : Reader Tree := do
  let start ← begin
  word "declare"
  Reader.check (!Context.ofStatement.stops ·)
  let body ← ambientBody g <|> do
    word "declare"
    ambientBody g
  group start [body]

/-- A declaration. -/
def declaration (g : Grammar) : Reader Tree := ambientDeclaration g <|> plainDeclaration g

/-! ### Exports -/

/-- An entry in the braces of an export. -/
def exportSpecifier : Reader Unit := do
  let _ ← Reader.optional (modifier ["type", "typeof"] fun cursor =>
    peekName cursor ≠ [] || sees "'" cursor || sees "\"" cursor)
  let _ ← stringLiteral <|> nameNode .other
  let _ ← Reader.optional do
    word "as"
    stringLiteral <|> nameNode .other

/-- The braces of an export. -/
def exportClause : Reader Unit := do
  mark "\x7b"
  let _ ← Reader.optional (commaList exportSpecifier)
  let _ ← Reader.optional (mark ",")
  mark "\x7d"

/-- Names exported, perhaps from another module. -/
def exportedNames : Reader Tree := do
  let start ← begin
  word "export"
  Reader.check (!Context.ofStatement.stops ·)
  let source ← (do
      mark "*"
      let _ ← Reader.optional (do word "as"; stringLiteral <|> nameNode .other)
      return some (← fromClause))
    <|> do
      let _ ← Reader.optional (word "type")
      exportClause
      Reader.optional do
        Reader.check (!Context.ofDeclaredType.stops ·)
        fromClause
  semicolon false
  finish .exportStatement start source.toList

/-- `export default`. -/
def defaultExport (g : Grammar) : Reader Tree := do
  let start ← begin
  let decorators ← Reader.many (decorator g)
  word "export"
  Reader.check (!Context.ofStatement.stops ·)
  let wordStart ← begin
  word "default"
  let d ← finish .defaultMark wordStart []
  let body ← (do return (← declaration g).playing .declaration) <|> do
    let e ← g.expression .ofStatement
    semicolon true
    return e.playing .value
  finish .exportStatement start (decorators ++ [d, body])

/-- An exported declaration. -/
def exportedDeclaration (g : Grammar) : Reader Tree := do
  let start ← begin
  let decorators ← Reader.many (decorator g)
  word "export"
  Reader.check (!Context.ofStatement.stops ·)
  let body ← declaration g
  finish .exportStatement start (decorators ++ [body.playing .declaration])

/-- `export = value`, `export as namespace name` and the like. -/
def otherExport (g : Grammar) : Reader Tree := do
  let start ← begin
  word "export"
  Reader.check (!Context.ofStatement.stops ·)
  let parts ← (do
      sign "="
      let e ← g.expression .ofStatement
      semicolon true
      return [e])
    <|> do
      word "as"
      word "namespace"
      let _ ← name
      semicolon false
      return []
  finish .exportStatement start parts

/-- An export. -/
def exportStatement (g : Grammar) : Reader Tree :=
  exportedNames <|> defaultExport g <|> exportedDeclaration g <|> otherExport g

/-! ### Control flow -/

/-- `if`. -/
def ifStatement (g : Grammar) : Reader Tree := do
  let start ← begin
  word "if"
  let condition ← parenthesized g
  let yes ← g.statement
  let no ← Reader.optional (do word "else"; g.statement)
  group start (condition :: yes :: no.toList)

/-- A statement inside a case. -/
def caseStatement (g : Grammar) : Reader Tree := do
  Reader.check (!seesAny ["case", "default"] ·)
  g.statement

/-- A case of a `switch`. -/
def switchCase (g : Grammar) : Reader Tree := do
  let start ← begin
  let value ← (do word "case"; return [← expressions g .nested]) <|> (do word "default"; return [])
  mark ":"
  let body ← Reader.many (caseStatement g)
  group start (value ++ body)

/-- `switch`. -/
def switchStatement (g : Grammar) : Reader Tree := do
  let start ← begin
  word "switch"
  let value ← parenthesized g
  mark "\x7b"
  let cases ← Reader.many (switchCase g)
  mark "\x7d"
  group start (value :: cases)

/-- What a loop over items binds, with the word before it. -/
def loopTarget (g : Grammar) : Reader Tree :=
  (do
    let _ ← oneOf ["var", "let", "const"]
    let target ← objectPattern g <|> arrayPattern g <|> nameNode .other
    let value ← Reader.optional (initializer g .nested)
    Reader.check (seesAny ["in", "of"])
    group target.start (target :: value.toList))
  <|> g.pattern <|> parenthesized g

/-- The head of a loop over items. -/
def itemsHead (g : Grammar) : Reader (List Tree) := do
  mark "("
  let target ← loopTarget g
  let _ ← oneOf ["in", "of"]
  let items ← expressions g .nested
  mark ")"
  return [target, items]

/-- The head of a loop with a condition. -/
def conditionHead (g : Grammar) : Reader (List Tree) := do
  mark "("
  let first ← (do return [← variableDeclaration g ["let", "const", "var"]])
    <|> (do let e ← expressions g .nested; mark ";"; return [e])
    <|> (do mark ";"; return [])
  let condition ← Reader.optional (expressions g .nested)
  mark ";"
  let next ← Reader.optional (expressions g .nested)
  mark ")"
  return first ++ condition.toList ++ next.toList

/-- `for`. -/
def forStatement (g : Grammar) : Reader Tree := do
  let start ← begin
  word "for"
  let head ← (do let _ ← Reader.optional (word "await"); itemsHead g) <|> conditionHead g
  let body ← g.statement
  group start (head ++ [body])

/-- `while`. -/
def whileStatement (g : Grammar) : Reader Tree := do
  let start ← begin
  word "while"
  let condition ← parenthesized g
  let body ← g.statement
  group start [condition, body]

/-- `do`. -/
def doStatement (g : Grammar) : Reader Tree := do
  let start ← begin
  word "do"
  let body ← g.statement
  word "while"
  let condition ← parenthesized g
  let _ ← Reader.optional (semicolon false)
  group start [body, condition]

/-- The handler of a `try`. -/
def catchClause (g : Grammar) : Reader (List Tree) := do
  word "catch"
  let parameter ← Reader.optional do
    mark "("
    let target ← objectPattern g <|> arrayPattern g <|> nameNode .other
    let type ← Reader.optional (typeClause g .nestedType)
    mark ")"
    return target :: type.toList
  let body ← block g false
  return parameter.getD [] ++ [body]

/-- `try`. -/
def tryStatement (g : Grammar) : Reader Tree := do
  let start ← begin
  word "try"
  let body ← block g false
  let handler ← Reader.optional (catchClause g)
  let last ← Reader.optional (do word "finally"; block g false)
  group start (body :: handler.getD [] ++ last.toList)

/-- `with`. -/
def withStatement (g : Grammar) : Reader Tree := do
  let start ← begin
  word "with"
  let subject ← parenthesized g
  let body ← g.statement
  group start [subject, body]

/-- `break` and `continue`. -/
def jumpStatement : Reader Tree := do
  let start ← begin
  let _ ← oneOf ["break", "continue"]
  let _ ← Reader.optional do
    Reader.check (!Context.ofDeclaredType.stops ·)
    name
  semicolon false
  group start []

/-- `debugger`. -/
def debuggerStatement : Reader Tree := do
  let start ← begin
  word "debugger"
  semicolon false
  group start []

/-- `return`. -/
def returnStatement (g : Grammar) : Reader Tree := do
  let start ← begin
  word "return"
  let value ← Reader.optional do
    Reader.check (!Context.ofDeclaredType.stops ·)
    expressions g .ofStatement
  semicolon value.isSome
  group start value.toList

/-- `throw`. -/
def throwStatement (g : Grammar) : Reader Tree := do
  let start ← begin
  word "throw"
  let value ← expressions g .ofStatement
  semicolon true
  group start [value]

/-- The empty statement. -/
def emptyStatement : Reader Tree := do
  let start ← begin
  mark ";"
  group start []

/-! ### Statements -/

/-- The statements that begin with a word of their own, which is no name there. -/
def wordStatements (g : Grammar) : List (Text × Reader Tree) :=
  [("var", variableDeclaration g ["var"]),
    ("const", enumDeclaration g <|> variableDeclaration g ["const"]),
    ("if", ifStatement g), ("switch", switchStatement g), ("for", forStatement g),
    ("while", whileStatement g), ("do", doStatement g), ("try", tryStatement g),
    ("with", withStatement g), ("break", jumpStatement), ("continue", jumpStatement),
    ("debugger", debuggerStatement), ("return", returnStatement g), ("throw", throwStatement g),
    ("function", functionDeclaration g <|> expressionStatement g),
    ("class", classDeclaration g <|> expressionStatement g), ("abstract", abstractClass g),
    ("interface", interfaceDeclaration g), ("enum", enumDeclaration g),
    ("import", importStatement g <|> importAlias <|> expressionStatement g)]

/-- The statements that begin with a word which may also be a name. -/
def nameStatements (g : Grammar) : List (Text × Reader Tree) :=
  [("let", variableDeclaration g ["let"]), ("type", typeAlias g), ("declare", ambientDeclaration g),
    ("module", moduleDeclaration g), ("namespace", moduleDeclaration g),
    ("export", exportStatement g), ("async", functionDeclaration g)]

/-- A statement that begins with a name. -/
def nameStatement (g : Grammar) (w : Text) : Reader Tree :=
  match (nameStatements g).find? (·.1 = w) with
  | some (_, reader) => reader <|> labeled g <|> expressionStatement g
  | none => labeled g <|> expressionStatement g

/-- A statement. -/
def statement (g : Grammar) : Reader Tree := fun cursor =>
  let cursor := skipGap cursor
  match cursor.rest with
  | [] => none
  | c :: _ =>
    if c = ';' then emptyStatement cursor
    else if c = '\x7b' then braces g cursor
    else if c = '@' then
      (exportStatement g <|> classDeclaration g <|> abstractClass g
        <|> expressionStatement g) cursor
    else
      let w := peekName cursor
      match (wordStatements g).find? (·.1 = w) with
      | some (_, reader) => reader cursor
      | none => if w.isEmpty then expressionStatement g cursor else nameStatement g w cursor

/-! ### Scripts -/

/-- The grammar in which at most `depth` constructs are nested. -/
def grammar : (depth : Nat) → Grammar
  | 0 => .empty
  | depth + 1 =>
    { statement := fun cursor => statement (grammar depth) cursor
      expression := fun context cursor => expression (grammar depth) context cursor
      type := fun context cursor => typeExpression (grammar depth) context cursor
      pattern := fun cursor => pattern (grammar depth) cursor }

/-- A depth that no script of the given length exceeds. -/
def depthBound (length : Nat) : Nat := 4 * length + 8

/-- The interpreter line that a script may begin with. -/
def interpreterLine : Reader Unit := fun cursor =>
  let cursor := skipGap cursor
  match cursor.rest with
  | '#' :: '!' :: cs => some ((), cursor.skip (2 + (cs.takeWhile (· ≠ '\n')).length))
  | _ => none

/-- The statements of a script, if it is well formed. -/
def program (content : Text) : Option Tree :=
  let g := grammar (depthBound content.length)
  let reader : Reader (List Tree) := do
    let _ ← Reader.optional interpreterLine
    let statements ← Reader.many g.statement
    gap
    Reader.check (·.rest.isEmpty)
    return statements
  (reader ⟨content, 0⟩).map fun (statements, _) =>
    .node .program .plain 0 content.bytes statements

end Script

end ComponentFile
