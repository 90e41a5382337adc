import ComponentFile.Script.Recovery
import ComponentFile.Text.Lines

/-!
The outline of a script: its top-level statements with their places in the document.

Only what registration reasons about is described: imports, the default export and the object
literals that belong to it. Everything else is `other` with a span. All spans are in the coordinates
of the document, given the position at which the script begins.

A script that is not well formed has no outline; `SyntaxError` tells where its first fault is.
-/

namespace ComponentFile

namespace Script

/-! ### The outline of a script -/

/-- A property of an object literal. -/
structure Property (ν : Type) where
  /-- The key, without quotes. -/
  key : Text
  /-- The value. -/
  value : ν
  /-- The place of the whole property. -/
  span : Span
  deriving Repr

/-- The value of a property. -/
inductive Value where
  /-- An object literal. -/
  | object (span : Span) (properties : List (Property Value))
  /-- A name. -/
  | identifier (name : Text)
  /-- Anything else. -/
  | other
  deriving Repr

/-- An object literal. -/
structure ObjectLiteral where
  /-- The place of the literal, braces included. -/
  span : Span
  /-- The properties, in order. -/
  properties : List (Property Value)
  deriving Repr

/-- The value as an object literal. -/
def Value.asObject? : Value → Option ObjectLiteral
  | .object span properties => some ⟨span, properties⟩
  | _ => none

/-- Whether the value is the given name. -/
def Value.isIdentifier (name : Text) : Value → Bool
  | .identifier n => n = name
  | _ => false

namespace ObjectLiteral

/-- The first property of a key. -/
def property? (object : ObjectLiteral) (key : Text) : Option (Property Value) :=
  object.properties.find? (·.key = key)

/-- Whether a property has the given key or the given name for its value. -/
def lists (object : ObjectLiteral) (name : Text) : Bool :=
  object.properties.any fun p => p.key = name || p.value.isIdentifier name

end ObjectLiteral

/-- A call in a default export. -/
structure Call where
  /-- The text of what is called. -/
  callee : Text
  /-- The place of the arguments, parentheses included. -/
  arguments : Span
  /-- The first argument if it is an object literal. -/
  argument : Option ObjectLiteral
  deriving Repr

/-- What a default export exports. -/
inductive Declaration where
  /-- An object literal. -/
  | object (literal : ObjectLiteral)
  /-- The result of a call. -/
  | call (made : Call)
  /-- Anything else. -/
  | other
  deriving Repr

/-- The options of a component: the exported object, or the one handed to a call. -/
def Declaration.options? : Declaration → Option ObjectLiteral
  | .object literal => some literal
  | .call made => made.argument
  | .other => none

/-- An import. -/
structure Import where
  /-- The module, without quotes. -/
  source : Text
  /-- The names that the import binds. -/
  specifiers : List Text
  deriving DecidableEq, Repr

/-- What a statement is. -/
inductive StatementKind where
  /-- An import. -/
  | importing (declaration : Import)
  /-- A default export. -/
  | exporting (declaration : Declaration)
  /-- Anything else. -/
  | other
  deriving Repr

/-- A top-level statement. -/
structure Statement where
  /-- What it is. -/
  kind : StatementKind
  /-- Its place in the document. -/
  span : Span
  deriving Repr

namespace Statement

/-- The statement as an import. -/
def asImport? (statement : Statement) : Option Import :=
  match statement.kind with
  | .importing declaration => some declaration
  | _ => none

/-- The statement as a default export. -/
def asExport? (statement : Statement) : Option Declaration :=
  match statement.kind with
  | .exporting declaration => some declaration
  | _ => none

end Statement

/-! ### Quotes -/

/-- Whether a character encloses string literals. -/
def isQuote (c : Char) : Bool := c = '"' || c = '\'' || c = '\x60'

/-- The text between the quotes of a literal; a text that is not in quotes stays as it is. -/
def unquote (literal : Text) : Text :=
  match literal with
  | c :: d :: cs =>
    if isQuote c && (d :: cs).getLast? = some c then (d :: cs).dropLast else literal
  | _ => literal

/-! ### From trees to outlines -/

/-- The place in a document of a script that is part of it. -/
structure Site where
  /-- The text of the script. -/
  content : Text
  /-- The position at which it begins. -/
  origin : Position

namespace Site

/-- The position of an offset of the script. -/
def position (site : Site) (offset : Nat) : Position :=
  (site.content.position offset).within site.origin

/-- The place of a tree. -/
def span (site : Site) (tree : Tree) : Span := ⟨site.position tree.start, site.position tree.stop⟩

/-- The text of a tree. -/
def text (site : Site) (tree : Tree) : Text := tree.text site.content

/-- The key that a tree denotes. -/
def key (site : Site) (tree : Tree) : Text :=
  if tree.kind = .string then unquote (site.text tree) else site.text tree

end Site

/-- Whether a kind only wraps the expression that it holds first. -/
def Kind.isWrapper : Kind → Bool
  | .parenthesized => true
  | .asExpression => true
  | .satisfiesExpression => true
  | _ => false

mutual

/-- The value that a tree denotes, seen through parentheses and type annotations. -/
def valueOf (site : Site) : Tree → Value
  | .node kind role start stop children =>
    if kind = .object then
      .object (site.span (.node kind role start stop children)) (propertiesOf site children)
    else if kind = .identifier then .identifier (site.text (.node kind role start stop children))
    else if kind.isWrapper then firstValue site children
    else .other

/-- The value of the first tree. -/
def firstValue (site : Site) : List Tree → Value
  | [] => .other
  | tree :: _ => valueOf site tree

/-- The value of the first tree that plays the value of a pair. -/
def pairValue (site : Site) : List Tree → Value
  | [] => .other
  | tree :: trees => if tree.role = .value then valueOf site tree else pairValue site trees

/-- The property that a tree denotes, if it denotes one. -/
def propertyOf? (site : Site) : Tree → Option (Property Value)
  | .node kind role start stop children =>
    let tree := Tree.node kind role start stop children
    match kind with
    | .pair => (tree.child? .key).map fun key =>
      ⟨site.key key, pairValue site children, site.span tree⟩
    | .shorthand => some ⟨site.text tree, .identifier (site.text tree), site.span tree⟩
    | .method => (tree.child? .name).map fun name => ⟨site.key name, .other, site.span tree⟩
    | _ => none

/-- The properties that trees denote. -/
def propertiesOf (site : Site) : List Tree → List (Property Value)
  | [] => []
  | tree :: trees => (propertyOf? site tree).toList ++ propertiesOf site trees

end

mutual

/-- The tree inside parentheses and type annotations. -/
def unwrap : Tree → Tree
  | .node kind role start stop children =>
    if kind.isWrapper then unwrapFirst (.node kind role start stop children) children
    else .node kind role start stop children

/-- The tree inside the first of several trees; without any, the given one. -/
def unwrapFirst (default : Tree) : List Tree → Tree
  | [] => default
  | tree :: _ => unwrap tree

end

/-- The call that a tree denotes. -/
def callOf? (site : Site) (tree : Tree) : Option Call := do
  let callee ← tree.child? .callee
  let arguments ← tree.child? .arguments
  if arguments.kind = .arguments then
    some
      { callee := site.text callee
        arguments := site.span arguments
        argument := do
          let first ← arguments.children.head?
          if first.kind = .object then (valueOf site first).asObject? else none }
  else none

/-- What an export exports. -/
def declarationOf (site : Site) (tree : Tree) : Declaration :=
  match (tree.child? .value).orElse fun _ => tree.child? .declaration with
  | none => .other
  | some value =>
    let value := unwrap value
    match value.kind with
    | .object => ((valueOf site value).asObject?.map .object).getD .other
    | .call => ((callOf? site value).map .call).getD .other
    | _ => .other

/-- The name that a specifier binds. -/
def specifierName? (site : Site) (tree : Tree) : Option Text :=
  ((tree.child? .localName).orElse fun _ => tree.child? .name).map fun n => unquote (site.text n)

/-- The names that a part of an import clause binds. -/
def boundNames (site : Site) (tree : Tree) : List Text :=
  match tree.kind with
  | .identifier => [site.text tree]
  | .namespaceImport => ((tree.children.find? (·.kind = .identifier)).map site.text).toList
  | .namedImports =>
    (tree.children.filter (·.kind = .importSpecifier)).filterMap (specifierName? site)
  | _ => []

/-- The import that a tree denotes. -/
def importOf? (site : Site) (tree : Tree) : Option Import :=
  (tree.child? .source).map fun source =>
    { source := unquote (site.text source)
      specifiers := (tree.children.filter (·.kind = .importClause)).flatMap fun clause =>
        clause.children.flatMap (boundNames site) }

/-- What the statement of a tree is. -/
def classify (site : Site) (tree : Tree) : StatementKind :=
  match tree.kind with
  | .importStatement => ((importOf? site tree).map .importing).getD .other
  | .exportStatement =>
    if tree.children.any (·.kind = .defaultMark) then .exporting (declarationOf site tree)
    else .other
  | _ => .other

/-- Whether a statement is nothing but a name. Such statements are left out of outlines. -/
def isBareName (tree : Tree) : Bool :=
  tree.kind = .expressionStatement &&
    match tree.children with
    | [child] => child.kind = .identifier
    | _ => false

/-- The statements of a tree. -/
def statementsOf (site : Site) (tree : Tree) : List Statement :=
  (tree.children.filter (!isBareName ·)).map fun child => ⟨classify site child, site.span child⟩

/-! ### Faults -/

/-- What is wrong at a point of a script. -/
inductive Fault where
  /-- This text fits nowhere. -/
  | unexpected (text : Text)
  /-- Something was left out. -/
  | missing (what : Text)
  deriving DecidableEq, Repr

/-- The first fault of a script and its place in the document. -/
structure SyntaxError where
  /-- What is wrong. -/
  fault : Fault
  /-- The line. -/
  line : Nat
  /-- The column. -/
  column : Nat
  deriving DecidableEq, Repr

/-- The words for a fault. -/
def Fault.message : Fault → Text
  | .unexpected text => "Unexpected \x60".toList ++ text ++ "\x60".toList
  | .missing what => "Missing \x60".toList ++ what ++ "\x60".toList

/-- The report of a syntax error. -/
def SyntaxError.message (error : SyntaxError) : Text :=
  "Syntax error at ".toList ++ Nat.toDigits 10 error.line ++ ":".toList
    ++ Nat.toDigits 10 error.column ++ ": ".toList ++ error.fault.message

/-- The number of characters of broken code that a report shows. -/
def shownLength : Nat := 20

/-- The fault that a mark of broken code stands for. -/
def faultOf (site : Site) (tree : Tree) : Fault :=
  match tree.kind with
  | .missing what => .missing what
  | _ => .unexpected (Text.trim ((site.text tree).take shownLength))

/-- The first fault of a tree. -/
def syntaxError (site : Site) (tree : Tree) : SyntaxError :=
  let fault := tree.firstFault?.getD tree
  let position := site.position fault.start
  ⟨faultOf site fault, position.line, position.column⟩

/-! ### Outlines -/

/-- The outline of a syntax tree. -/
def outlineOf (site : Site) (tree : Tree) : Except SyntaxError (List Statement) :=
  if tree.hasFault then .error (syntaxError site tree) else .ok (statementsOf site tree)

/-- The outline of a script that begins at the given position of a document. -/
def outline (content : Text) (origin : Position) : Except SyntaxError (List Statement) :=
  outlineOf ⟨content, origin⟩ (parse content)

end Script

end ComponentFile
