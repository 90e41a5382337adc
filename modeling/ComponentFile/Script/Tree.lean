import ComponentFile.Text.Basic

/-!
Syntax trees of scripts.

A tree is a `Kind`, the `Role` it plays in its parent, the byte range it covers and its children.
Only what the analyses look at has a kind of its own. Punctuation and comments have no nodes, apart
from comments as in pages, which are nodes like any other.

Two kinds mark broken code: `error` covers text that fits nowhere, and `missing` stands, with an
empty range, where something was left out. `Tree.firstFault?` is the first of these in preorder.
-/

namespace ComponentFile

namespace Script

/-- The kind of a node. -/
inductive Kind where
  /-- A whole script. -/
  | program
  /-- An expression used as a statement. -/
  | expressionStatement
  /-- An import. -/
  | importStatement
  /-- The bindings of an import. -/
  | importClause
  /-- `* as name` in an import. -/
  | namespaceImport
  /-- The braces of an import. -/
  | namedImports
  /-- One entry in the braces of an import. -/
  | importSpecifier
  /-- An export. -/
  | exportStatement
  /-- The word `default` of an export. -/
  | defaultMark
  /-- An object literal. -/
  | object
  /-- `key: value` in an object literal. -/
  | pair
  /-- A name in an object literal that is key and value at once. -/
  | shorthand
  /-- A method. -/
  | method
  /-- A call. -/
  | call
  /-- The parenthesised arguments of a call. -/
  | arguments
  /-- An expression in parentheses. -/
  | parenthesized
  /-- `value as Type`. -/
  | asExpression
  /-- `value satisfies Type`. -/
  | satisfiesExpression
  /-- A name. -/
  | identifier
  /-- A string literal. -/
  | string
  /-- Text that fits nowhere. -/
  | error
  /-- Something left out, by name. -/
  | missing (what : Text)
  /-- Anything else. -/
  | other
  deriving DecidableEq, Repr

/-- Whether a kind marks broken code. -/
def Kind.isFault : Kind → Bool
  | .error => true
  | .missing _ => true
  | _ => false

/-- The role of a node in its parent. -/
inductive Role where
  /-- No particular role. -/
  | plain
  /-- The module of an import. -/
  | source
  /-- The name of a specifier or method. -/
  | name
  /-- The local name of a specifier. -/
  | localName
  /-- The key of a pair. -/
  | key
  /-- The value of a pair or an export. -/
  | value
  /-- The declaration of an export. -/
  | declaration
  /-- What a call calls. -/
  | callee
  /-- The arguments of a call. -/
  | arguments
  deriving DecidableEq, Repr

/-- A syntax tree. -/
inductive Tree where
  /-- A node over the bytes from `start` up to `stop`. -/
  | node (kind : Kind) (role : Role) (start stop : Nat) (children : List Tree)
  deriving Repr

namespace Tree

/-- The kind of the root. -/
def kind : Tree → Kind
  | .node kind _ _ _ _ => kind

/-- The role of the root. -/
def role : Tree → Role
  | .node _ role _ _ _ => role

/-- The offset at which a tree begins. -/
def start : Tree → Nat
  | .node _ _ start _ _ => start

/-- The offset at which a tree ends. -/
def stop : Tree → Nat
  | .node _ _ _ stop _ => stop

/-- The children of the root. -/
def children : Tree → List Tree
  | .node _ _ _ _ children => children

/-- The tree in another role. -/
def playing (role : Role) : Tree → Tree
  | .node kind _ start stop children => .node kind role start stop children

/-- A tree without children. -/
def leaf (kind : Kind) (start stop : Nat) : Tree := .node kind .plain start stop []

/-- The first child in a role. -/
def child? (tree : Tree) (role : Role) : Option Tree := tree.children.find? (·.role = role)

/-- The text that a tree covers. -/
def text (content : Text) (tree : Tree) : Text := content.slice tree.start tree.stop

/-! ### Broken code -/

mutual

/-- Whether a tree holds a mark of broken code. -/
def hasFault : Tree → Bool
  | .node kind _ _ _ children => kind.isFault || anyFault children

/-- Whether one of several trees holds a mark of broken code. -/
def anyFault : List Tree → Bool
  | [] => false
  | tree :: trees => tree.hasFault || anyFault trees

end

mutual

/-- The first mark of broken code. Trees without one are passed over whole, and what lies below a
mark is not looked at. -/
def firstFault? : Tree → Option Tree
  | .node kind role start stop children =>
    if kind.isFault then some (.node kind role start stop children)
    else if anyFault children then firstFaultOf? children
    else none

/-- The first mark of broken code in several trees. -/
def firstFaultOf? : List Tree → Option Tree
  | [] => none
  | tree :: trees =>
    match tree.firstFault? with
    | some fault => some fault
    | none => firstFaultOf? trees

end

/-! ### All nodes -/

mutual

/-- Whether some node of a tree satisfies a predicate. -/
def anyNode (p : Tree → Bool) : Tree → Bool
  | .node kind role start stop children =>
    p (.node kind role start stop children) || anyNodeOf p children

/-- Whether some node of several trees satisfies a predicate. -/
def anyNodeOf (p : Tree → Bool) : List Tree → Bool
  | [] => false
  | tree :: trees => tree.anyNode p || anyNodeOf p trees

end

end Tree

end Script

end ComponentFile
