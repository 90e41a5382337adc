import ComponentFile.Markup.Attribute
import ComponentFile.Markup.Element
import ComponentFile.Script.Outline

/-!
Documents and their blocks.

A document is made of at most one plain script, one script setup and one template, and of any number
of styles. `Document.parse` never fails: what cannot be delimited is left out, and a script that is
not well formed keeps its syntax error in place of an outline.

`Document.parseBy` is the same for any way of making syntax trees of scripts.
-/

namespace ComponentFile

/-! ### Blocks -/

/-- What all blocks have in common. -/
structure Block where
  /-- The text between the tags. -/
  content : Text
  /-- The place of the whole element. -/
  span : Span
  /-- The place of the content. -/
  contentSpan : Span
  /-- The attributes of the opening tag. -/
  attributes : List Markup.Attribute
  deriving DecidableEq, Repr

namespace Block

/-- The block of an element of a text. -/
def ofElement (text : Text) (element : Markup.Element) : Block where
  content := element.content
  span := text.span element.start element.stop
  contentSpan := text.span element.contentStart element.contentStop
  attributes := Markup.Attribute.parse element.rawAttributes

/-- Whether there is an attribute of the given name. -/
def has (block : Block) (name : Text) : Bool := block.attributes.any (·.name = name)

/-- The value of the first attribute of the given name. -/
def value? (block : Block) (name : Text) : Option Text :=
  (block.attributes.find? (·.name = name)).bind (·.value)

/-- The language of the content. -/
def lang (block : Block) : Option Text := block.value? "lang"

/-- The file that holds the content. -/
def src (block : Block) : Option Text := block.value? "src"

/-- Whether the content is nothing but blanks. -/
def isEmpty (block : Block) : Bool := Text.isAllBlank block.content

end Block

/-- A script. -/
structure ScriptBlock extends Block where
  /-- Whether it is a script setup. -/
  setup : Bool
  /-- The top-level statements, or the first fault. -/
  outline : Except Script.SyntaxError (List Script.Statement)

namespace ScriptBlock

/-- The script of a block, analysed with the given syntax. -/
def ofBlock (syntaxTree : Text → Script.Tree) (block : Block) : ScriptBlock where
  toBlock := block
  setup := block.has "setup"
  outline := Script.outlineOf ⟨block.content, block.contentSpan.start⟩ (syntaxTree block.content)

/-- The statements; none if the script is not well formed. -/
def statements (script : ScriptBlock) : List Script.Statement :=
  match script.outline with
  | .ok statements => statements
  | .error _ => []

/-- The imports, in order. -/
def imports (script : ScriptBlock) : List Script.Import :=
  script.statements.filterMap (·.asImport?)

/-- Whether the script is typed. -/
def isTyped (script : ScriptBlock) : Bool := script.lang = some "ts".toList

end ScriptBlock

/-- A style. -/
structure StyleBlock extends Block where
  /-- Whether it applies to this component only. -/
  isScoped : Bool
  /-- Whether its names are exposed as a module. -/
  isModule : Bool
  deriving DecidableEq, Repr

/-- The style of a block. -/
def StyleBlock.ofBlock (block : Block) : StyleBlock where
  toBlock := block
  isScoped := block.has "scoped"
  isModule := block.has "module"

/-! ### Documents -/

/-- A document; every part is optional. -/
structure Document where
  /-- The plain script. -/
  script : Option ScriptBlock := none
  /-- The script setup. -/
  scriptSetup : Option ScriptBlock := none
  /-- The template. -/
  template : Option Block := none
  /-- The styles, in order. -/
  styles : List StyleBlock := []

namespace Document

/-- The script elements that have a body. -/
def scripts (text : Text) (elements : List Markup.Element) : List Block :=
  (elements.filter fun e => e.isNamed "script" && !e.selfClosing).map (Block.ofElement text)

/-- The document of a text, where scripts are analysed with the given syntax. The first script of
either sort and the first template count; a script without a body does not. -/
def parseBy (syntaxTree : Text → Script.Tree) (text : Text) : Document :=
  let elements := Markup.scan text
  let scripts := scripts text elements
  { script := (scripts.find? (!·.has "setup")).map (ScriptBlock.ofBlock syntaxTree)
    scriptSetup := (scripts.find? (·.has "setup")).map (ScriptBlock.ofBlock syntaxTree)
    template := (elements.find? (·.isNamed "template")).map (Block.ofElement text)
    styles := (elements.filter (·.isNamed "style")).map fun e =>
      StyleBlock.ofBlock (Block.ofElement text e) }

/-- The document of a text. -/
def parse (text : Text) : Document := parseBy Script.parse text

/-- All blocks, in the order in which they stand in the text. -/
def blocks (document : Document) : List Block :=
  (document.script.toList.map (·.toBlock) ++ document.scriptSetup.toList.map (·.toBlock)
    ++ document.template.toList ++ document.styles.map (·.toBlock)).mergeSort
      fun a b => a.span.start.offset ≤ b.span.start.offset

end Document

end ComponentFile
