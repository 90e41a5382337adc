import ComponentFile.Script.Literal

/-!
The parts of the script grammar that refer to each other.

The readers of expressions, types, patterns and statements are mutually recursive. Each is written
against a `Grammar`, which holds readers for what may be nested inside; the knot is tied once, with
a bound on the depth of nesting.
-/

namespace ComponentFile

namespace Script

/-- Where an expression or type stands. -/
structure Context where
  /-- Whether a line break may end it. -/
  lineEnds : Bool
  /-- Whether an operator may follow, so that a parenthesis or bracket on the next line continues
  it. -/
  inExpression : Bool := true
  /-- Whether a block may follow, as after the signature of a function. -/
  inSignature : Bool := false
  /-- Whether the parameters of an arrow function may be followed by a return type. -/
  typedArrows : Bool := true
  /-- Whether binary operators may follow. -/
  operators : Bool := true
  deriving DecidableEq, Repr

namespace Context

/-- Inside brackets, where line breaks do not count. -/
def nested : Context := { lineEnds := false }

/-- At the top of a statement. -/
def ofStatement : Context := { lineEnds := true }

/-- The class that another one extends. -/
def ofHeritage : Context := { lineEnds := false, operators := false }

/-- A type inside brackets. -/
def nestedType : Context := { lineEnds := false, inExpression := false }

/-- A type at the end of a statement. -/
def ofDeclaredType : Context := { lineEnds := true, inExpression := false }

/-- The return type of a signature that may end its statement. -/
def ofSignature : Context := { lineEnds := true, inExpression := false, inSignature := true }

/-- Whether the cursor stands where a line break ends what is being read. -/
def stops (context : Context) (cursor : Cursor) : Bool :=
  context.lineEnds &&
    (lineEndFrom? context.inExpression context.inSignature (cursor.rest.length + 1) cursor).isSome

end Context

/-- The readers of nested constructs. -/
structure Grammar where
  /-- A statement. -/
  statement : Reader Tree
  /-- An expression. -/
  expression : Context → Reader Tree
  /-- A type. -/
  type : Context → Reader Tree
  /-- A pattern that names are bound by. -/
  pattern : Reader Tree

/-- A grammar in which nothing can be nested. -/
def Grammar.empty : Grammar where
  statement := failure
  expression := fun _ => failure
  type := fun _ => failure
  pattern := failure

/-! ### Lists -/

/-- Items separated by commas, at least one; a comma may follow the last. -/
def commaList {α : Type} (item : Reader α) : Reader (List α) := do
  let first ← item
  let rest ← Reader.many (do mark ","; item)
  let _ ← Reader.optional (mark ",")
  return first :: rest

/-- Items separated by commas, at least one. -/
def commaList1 {α : Type} (item : Reader α) : Reader (List α) := do
  let first ← item
  let rest ← Reader.many (do mark ","; item)
  return first :: rest

/-- Items separated by commas, any of which may be left out. -/
def holedList {α : Type} (item : Reader α) : Reader (List α) := do
  let first ← Reader.optional item
  let rest ← Reader.many (do mark ","; Reader.optional item)
  return (first :: rest).filterMap id

/-- A list of trees as the children of a node of no particular kind. -/
def group (start : Nat) (children : List Tree) : Reader Tree := finish .other start children

/-! ### Sequences and blocks -/

/-- An expression or several separated by commas. -/
def expressions (g : Grammar) (context : Context) : Reader Tree := do
  let start ← begin
  let first ← g.expression context
  let rest ← Reader.many do
    Reader.check (!context.stops ·)
    mark ","
    g.expression context
  if rest.isEmpty then return first else group start (first :: rest)

/-- Statements in braces. A line break may end a block as it ends a statement. -/
def block (g : Grammar) (inExpression : Bool) : Reader Tree := do
  let start ← begin
  mark "\x7b"
  let statements ← Reader.many g.statement
  mark "\x7d"
  let _ ← Reader.optional (lineEnd inExpression)
  group start statements

/-! ### Names of properties -/

/-- A private name. -/
def privateName : Reader Tree := do
  let start ← begin
  mark "#"
  Reader.check fun cursor => nameLength cursor.rest ≠ 0
  let _ ← name
  group start []

/-- The name of a property: a name, a string, a number, a private name or an expression in
brackets. -/
def propertyName (g : Grammar) : Reader Tree :=
  nameNode .other <|> stringLiteral <|> numberLiteral <|> privateName <|> do
    let start ← begin
    mark "["
    let e ← g.expression .nested
    mark "]"
    group start [e]

/-! ### Template literals -/

/-- The number of characters of a template up to a quote, an escape or a substitution. -/
def templateCharsLength : Text → Nat
  | [] => 0
  | '$' :: '\x7b' :: _ => 0
  | c :: cs =>
    if c = '\x60' || c = '\\' || c = '\x00' then 0 else 1 + templateCharsLength cs

/-- One part of a template literal, as the trees in it. -/
def templatePart (g : Grammar) : Reader (List Tree) := fun cursor =>
  match templateCharsLength cursor.rest with
  | 0 =>
    match escapeLength? cursor.rest with
    | some n => some ([], cursor.skip n)
    | none =>
      (do
        Reader.check fun cursor => "$\x7b".toList.isPrefixOf cursor.rest
        mark "$\x7b"
        let e ← expressions g .nested
        mark "\x7d"
        return [e] : Reader (List Tree)) cursor
  | n => some ([], cursor.skip n)

/-- A template literal. -/
def template (g : Grammar) : Reader Tree := do
  let start ← begin
  mark "\x60"
  let parts ← Reader.many (templatePart g)
  Reader.check fun cursor => cursor.rest.head? = some '\x60'
  mark "\x60"
  group start parts.flatten

/-! ### Arguments -/

/-- `...` and an expression. -/
def spread (g : Grammar) : Reader Tree := do
  let start ← begin
  mark "..."
  let e ← g.expression .nested
  group start [e]

/-- The arguments of a call. -/
def arguments (g : Grammar) : Reader Tree := do
  let start ← begin
  mark "("
  let items ← holedList (spread g <|> g.expression .nested)
  mark ")"
  finish .arguments start items

/-- The type arguments of a call or type. -/
def typeArguments (g : Grammar) : Reader Tree := do
  let start ← begin
  mark "<"
  let types ← commaList (g.type .nestedType)
  mark ">"
  group start types

end Script

end ComponentFile
