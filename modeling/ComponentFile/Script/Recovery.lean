import ComponentFile.Repair.Search
import ComponentFile.Script.Statement

/-!
Scripts that the first readers give up on.

`parse` answers with a tree for every text. A script that the readers of statements take as a whole
has the tree of its statements. Any other one has the tree of its best reading: the script may hold
a comment as in pages, which only the second reader knows, or be broken, and then marks of broken
code stand where it had to be repaired. Kinds and roles are the same in both trees.
-/

namespace ComponentFile

namespace Repair

/-! ### Kinds -/

/-- The words that are values. -/
def valueWords : List String := ["this", "super", "true", "false", "null", "undefined"]

/-- Whether a token only holds a construct together or is passed over by all analyses; it has no
node then. -/
def Terminal.isSilent : Terminal → Bool
  | .stop => true
  | .mark _ => true
  | .word text => text ≠ "default" && !valueWords.contains text
  | .patternEnd => true
  | .questionMark => true
  | .comment => true
  | .hashBang => true
  | _ => false

/-- The kind of a token in a tree. -/
def Terminal.kind : Terminal → Script.Kind
  | .identifier => .identifier
  | .word text => if text = "default" then .defaultMark else .other
  | _ => .other

/-- The kind of what is called by the given name. -/
def kindOfName (name : String) : Script.Kind :=
  match name with
  | "program" => .program
  | "expressionStatement" => .expressionStatement
  | "importStatement" => .importStatement
  | "importClause" => .importClause
  | "namespaceImport" => .namespaceImport
  | "namedImports" => .namedImports
  | "importSpecifier" => .importSpecifier
  | "exportStatement" => .exportStatement
  | "object" => .object
  | "pair" => .pair
  | "shorthand_property_identifier" => .shorthand
  | "methodDefinition" => .method
  | "callExpression" => .call
  | "arguments" => .arguments
  | "parenthesizedExpression" => .parenthesized
  | "asExpression" => .asExpression
  | "satisfiesExpression" => .satisfiesExpression
  | "identifier" => .identifier
  | "string" => .string
  | _ => .other

/-! ### Roles -/

/-- The role that a child plays in what is called `parent`. A specifier without `as` binds the name
that it has. -/
def roleIn (parent child : String) : Script.Role :=
  match parent, child with
  | "importStatement", "string" => .source
  | "fromClause", "string" => .source
  | "importSpecifier", "exportedName" => .name
  | "importSpecifier", "identifier" => .localName
  | "exportStatement", "declaration" => .declaration
  | "exportStatement", "expression" => .value
  | "pair", "propertyName" => .key
  | "pair", "expression" => .value
  | "methodDefinition", "propertyName" => .name
  | "callExpression", "arguments" => .arguments
  | "callExpression", "templateString" => .arguments
  | "callExpression", "typeArguments" => .plain
  | "callExpression", _ => .callee
  | _, _ => .plain

/-! ### Trees -/

namespace Piece

/-- What a piece is called, unless it appears under another name. -/
def name (tables : Tables) (piece : Piece) : String :=
  match piece.shape with
  | .token terminal => (tables.terminals[terminal]?.map Terminal.name).getD ""
  | .part index => (tables.parts[index]?.map Part.name).getD ""
  | _ => ""

/-- The kind of a piece that appears under the given name. -/
def kind (tables : Tables) (name : Option String) (piece : Piece) : Script.Kind :=
  if piece.facts.isMissing then .missing (name.getD (piece.name tables)).toList
  else match piece.shape with
    | .fault => .error
    | .passed => .other
    | .part _ => kindOfName (name.getD (piece.name tables))
    | .token terminal =>
      match name with
      | some name => kindOfName name
      | none => (tables.terminals[terminal]?.map Terminal.kind).getD .other

/-- Whether a piece is a token without a node. Words that appear under another name are names. -/
def isSilent (tables : Tables) (name : Option String) (piece : Piece) : Bool :=
  match piece.shape with
  | .token terminal =>
    !piece.facts.isMissing && (tables.terminals[terminal]?).any fun terminal =>
      terminal.isSilent && !(name.isSome && terminal.isNameLike)
  | _ => false

mutual

/-- The trees of a piece that plays the given role: its own, or those of its children if it is
hidden. -/
def trees (tables : Tables) (name : Option String) (role : Script.Role) :
    Piece → List Script.Tree
  | .mk facts children =>
    let piece := Piece.mk facts []
    if piece.isSilent tables name then []
    else if name.isSome || piece.isShown tables then
      [.node (piece.kind tables name) role facts.start facts.stop.offset
        (treesOfAll tables (name.getD (piece.name tables)) .plain facts.names children)]
    else treesOfAll tables (piece.name tables) role facts.names children

/-- The trees of the children of what is called `parent`, under the given names. Children without a
role of their own play that of a hidden parent. -/
def treesOfAll (tables : Tables) (parent : String) (inherited : Script.Role) :
    List (Option String) → List Piece → List Script.Tree
  | _, [] => []
  | names, .mk facts children :: rest =>
    if facts.isExtra then
      trees tables none .plain (.mk facts children) ++ treesOfAll tables parent inherited names rest
    else
      let role := match roleIn parent ((Piece.mk facts []).name tables) with
        | .plain => inherited
        | role => role
      trees tables names.head?.join role (.mk facts children)
        ++ treesOfAll tables parent inherited names.tail rest

end

end Piece

end Repair

namespace Script

/-- The tree of the best reading of a script. -/
def repaired (content : Text) : Tree :=
  let tables := Repair.tables.get
  match (Repair.bestReading? tables content).map (Repair.Piece.trees tables none .plain) with
  | some [tree] => tree
  | _ => .leaf .error 0 content.bytes

/-- The syntax tree of a script. -/
def parse (content : Text) : Tree :=
  match program content with
  | some tree => tree
  | none => repaired content

end Script

end ComponentFile
