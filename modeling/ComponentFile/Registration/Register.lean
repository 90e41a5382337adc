import ComponentFile.Document
import ComponentFile.Edit
import ComponentFile.Registration.Source

/-!
Registering a component in a document.

`register` answers with the insertions that import a component and list it among the options of the
document's component. Which of five ways is taken depends on the scripts of the document: a script
setup with or without content, else a plain script with or without content, else a new script.
A component that is already imported and listed gives no insertions.

`registerBy` is the same for any way of making syntax trees of scripts.
-/

namespace ComponentFile

namespace Registration

/-- Why a component cannot be registered: the script is not well formed. -/
abbrev Outcome := Except Script.SyntaxError

/-! ### Imports -/

/-- Puts a body between the tags of a block that holds nothing but blanks. -/
def fillEmpty (block : Block) (body : Text) : Insertion :=
  .placed block.contentSpan.stop
    (if block.span.isSingleLine then '\n' :: body ++ ['\n'] else body ++ ['\n'])

/-- The last import of a script. -/
def lastImport? (statements : List Script.Statement) : Option Script.Statement :=
  statements.reverse.find? (·.asImport?.isSome)

/-- Where the import of a component goes: below the last import, or else to the top of the script.
On a line that also holds a tag of the script, line feeds keep it apart. -/
def importInsertion (block : Block) (statements : List Script.Statement) (component : Component) :
    Insertion :=
  let line := Source.importStatement component
  match lastImport? statements with
  | some last =>
    if last.span.stop.line < block.contentSpan.stop.line then
      ⟨last.span.stop.line + 1, 0, line ++ ['\n']⟩
    else .placed last.span.stop ('\n' :: line)
  | none =>
    if block.contentSpan.isSingleLine then
      .placed block.contentSpan.start ('\n' :: line ++ ['\n'])
    else ⟨block.contentSpan.start.line + 1, 0, line ++ "\n\n".toList⟩

/-- Whether the module of a component is mentioned in a script. -/
def mentions (script : ScriptBlock) (component : Component) : Bool :=
  Text.contains script.content component.bareSource

/-- Imports a component whose module is not mentioned yet. -/
def ensureImport (script : ScriptBlock) (component : Component) : Outcome (Option Insertion) :=
  if mentions script component then .ok none
  else match script.outline with
    | .ok statements => .ok (some (importInsertion script.toBlock statements component))
    | .error error => .error error

/-- Imports the typed wrapper into a typed script that lacks it. -/
def typeHelperInsertion? (script : ScriptBlock) : Option Insertion :=
  if script.isTyped && !script.imports.any (·.specifiers.contains Source.typeHelper) then
    some (.placed script.contentSpan.start
      (if script.contentSpan.isSingleLine then '\n' :: Source.typeHelperImport ++ ['\n']
        else '\n' :: Source.typeHelperImport))
  else none

/-! ### Options -/

/-- The offset just past the comma that follows an entry, if nothing but blanks precede it. -/
def trailingComma? (text : Text) (entryStop close : Nat) : Option Nat :=
  let between := text.slice entryStop close
  match between.dropWhile Text.isBlank with
  | ',' :: _ => some (entryStop + Text.bytes (between.takeWhile Text.isBlank) + 1)
  | _ => none

/-- Adds a name as the last entry of an object literal. -/
def appendEntry (text : Text) (object : Script.ObjectLiteral) (name : Text) : Insertion :=
  let singleLine := object.span.isSingleLine
  match object.properties.getLast? with
  | none =>
    .placed (text.position (object.span.start.offset + 1))
      (if singleLine then ' ' :: name ++ ", ".toList
        else '\n' :: text.indentation object.span.start.line ++ '\t' :: name ++ [','])
  | some last =>
    let separator := if singleLine then [' '] else '\n' :: text.indentation last.span.start.line
    match trailingComma? text last.span.stop.offset (object.span.stop.offset - 1) with
    | some comma => .placed (text.position comma) (separator ++ name ++ [','])
    | none => .placed (text.position last.span.stop.offset) (',' :: separator ++ name ++ [','])

/-- Whether nothing but blanks stands between the parentheses of an argument list. -/
def isEmptyArguments (text : Text) (arguments : Span) : Bool :=
  Text.isAllBlank (text.slice (arguments.start.offset + 1) (arguments.stop.offset - 1))

/-- Lists a component among the options of a default export. -/
def listInExport? (text : Text) (statement : Script.Statement) (declaration : Script.Declaration)
    (component : Component) : Option Insertion :=
  let option := Source.componentsOption component
  match declaration.options? with
  | some options =>
    match options.property? "components" with
    | none =>
      some (.placed (text.position (options.span.start.offset + 1))
        (if statement.span.isSingleLine then "\n\t".toList ++ option ++ ['\n']
          else "\n\t".toList ++ option))
    | some property =>
      match property.value.asObject? with
      | none => none
      | some components =>
        if components.lists component.name then none
        else some (appendEntry text components component.name)
  | none =>
    match declaration with
    | .call made =>
      if isEmptyArguments text made.arguments then
        some (.placed (text.position (made.arguments.start.offset + 1))
          ("\x7b\n\t".toList ++ option ++ "\n\x7d".toList))
      else none
    | _ => none

/-! ### Registration -/

/-- The first default export among statements. -/
def defaultExport? (statements : List Script.Statement) :
    Option (Script.Statement × Script.Declaration) :=
  statements.findSome? fun s => s.asExport?.map (s, ·)

/-- Registers a component in a plain script that has content. -/
def registerInScript (text : Text) (script : ScriptBlock) (component : Component)
    (settings : Settings) : Outcome (List Insertion) := do
  let statements ← script.outline
  let imported ← ensureImport script component
  match defaultExport? statements with
  | some (statement, declaration) =>
    return imported.toList ++ (listInExport? text statement declaration component).toList
  | none =>
    let export' := '\n' :: Source.defaultExport component settings script.isTyped ++ ['\n']
    return (typeHelperInsertion? script).toList ++ imported.toList
      ++ [.placed script.contentSpan.stop export']

/-- The insertions that register a component in a parsed document. -/
def registerIn (text : Text) (document : Document) (component : Component) (settings : Settings) :
    Outcome (List Insertion) :=
  match document.scriptSetup, document.script with
  | some setup, _ =>
    if setup.isEmpty then .ok [fillEmpty setup.toBlock (Source.importStatement component)]
    else (ensureImport setup component).map Option.toList
  | none, some script =>
    if script.isEmpty then
      .ok [fillEmpty script.toBlock (Source.scriptContent component settings script.isTyped)]
    else registerInScript text script component settings
  | none, none => .ok [⟨0, 0, Source.newScriptBlock component settings⟩]

/-- The insertions that register a component, where scripts are analysed with the given syntax. -/
def registerBy (syntaxTree : Text → Script.Tree) (text : Text) (component : Component)
    (settings : Settings) : Outcome (List Insertion) :=
  registerIn text (.parseBy syntaxTree text) component settings

/-- The insertions that register a component. -/
def register (text : Text) (component : Component) (settings : Settings) :
    Outcome (List Insertion) :=
  registerBy Script.parse text component settings

/-- What one registration of several made of the text. -/
structure Step where
  /-- The insertions, or why there are none. -/
  outcome : Outcome (List Insertion)
  /-- The text afterwards. -/
  text : Text

/-- Registers components one after the other, each in the text that the one before left, where
scripts are analysed with the given syntax. -/
def registerAllBy (syntaxTree : Text → Script.Tree) (settings : Settings) :
    Text → List Component → List Step
  | _, [] => []
  | text, component :: components =>
    match registerBy syntaxTree text component settings with
    | .ok edits =>
      let next := applyInsertions text edits
      ⟨.ok edits, next⟩ :: registerAllBy syntaxTree settings next components
    | .error error =>
      ⟨.error error, text⟩ :: registerAllBy syntaxTree settings text components

/-- Registers components one after the other, each in the text that the one before left. -/
def registerAll (settings : Settings) (text : Text) (components : List Component) : List Step :=
  registerAllBy Script.parse settings text components

end Registration

end ComponentFile
