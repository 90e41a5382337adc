import ComponentFile.Editor.Placement
import ComponentFile.Registration.Source
import ComponentFile.Script.Calls

/-!
Snippets on offer at a caret.

In a script setup these are the compiler functions that it does not call yet, in a template one
element a component, and outside all blocks the blocks that the document can still take. Plain
scripts and styles get nothing.
-/

namespace ComponentFile

/-- A snippet on offer. In the inserted text `$0` marks where the caret ends up. -/
structure Snippet where
  /-- What the snippet is called. -/
  label : Text
  /-- The inserted text. -/
  insertText : Text
  /-- What the client shows about it. -/
  documentation : Text
  deriving DecidableEq, Repr

namespace Snippet

/-- A snippet whose documentation shows the inserted text with a bar for the caret. -/
def plain (label insertText : Text) : Snippet :=
  ⟨label, insertText, "\x60\x60\x60vue\n".toList ++ Text.replaceFirst insertText "$0" "|"⟩

/-! ### In a script setup -/

/-- The parts of a component that a script setup defines by compiler functions. -/
def definableParts : List Text := ["props", "emits", "slots"]

/-- The text with its first letter in upper case. -/
def capitalize : Text → Text
  | [] => []
  | c :: cs => c.toUpper :: cs

/-- The snippet that defines a part. -/
def ofPart (typed : Bool) (label : Text) : Snippet :=
  let head := "const ".toList ++ label ++ " = define".toList ++ capitalize label
  if typed then
    ⟨label, head ++ "<$0>()".toList, "\x60\x60\x60typescript\n".toList ++ head ++ "<|>()".toList⟩
  else ⟨label, head ++ "($0)".toList, "\x60\x60\x60javascript\n".toList ++ head ++ "(|)".toList⟩

/-- The snippets for the parts that a script setup does not define yet. Slots are for typed scripts
only. -/
def ofSetup (setup : ScriptBlock) : List Snippet :=
  let existing := Script.definedParts setup.content
  (definableParts.filter fun label =>
    !existing.has label && (setup.isTyped || label ≠ "slots".toList)).map (ofPart setup.isTyped)

/-! ### In a template -/

/-- Whether a language is the indented one of templates. -/
def isPug (lang : Option Text) : Bool := lang = some "pug".toList

/-- The snippet that writes an element of a component. -/
def ofComponent (lang : Option Text) (component : Component) : Snippet :=
  let name := component.name
  if isPug lang then ⟨name, name, "\x60\x60\x60pug\n".toList ++ name ++ "|".toList⟩
  else
    ⟨name, '<' :: name ++ "$0></".toList ++ name ++ ">".toList,
      "\x60\x60\x60html\n<".toList ++ name ++ "|></".toList ++ name ++ ">".toList⟩

/-! ### Outside all blocks -/

/-- The body of a new plain script. -/
def scriptBody (settings : Settings) (typed : Bool) : Text :=
  let caret : Text :=
    if settings.api = .composition && !settings.useScriptSetup then "setup() \x7b\n\t\t$0\n\t\x7d"
    else "$0"
  if typed then
    "import \x7b defineComponent \x7d from 'vue'\n\nexport default defineComponent(\x7b\n\t".toList
      ++ caret ++ "\n\x7d)".toList
  else "export default \x7b\n\t".toList ++ caret ++ "\n\x7d".toList

/-- The snippets for a plain script. -/
def ofScript (settings : Settings) (lang : Option Text) : List Snippet :=
  [plain "script" ("<script".toList ++ Source.langAttribute lang ++ ">\n".toList
      ++ scriptBody settings (lang = some "ts".toList) ++ "\n</script>\n".toList),
    plain "script src" "<script src=\"$0\"></script>"]

/-- The snippet for a script setup. -/
def ofScriptSetup (lang : Option Text) : Snippet :=
  plain "script setup" ("<script setup".toList ++ Source.langAttribute lang
    ++ ">\n$0\n</script>\n".toList)

/-- The elements on offer as the root of a new template, besides components. -/
def rootElements : List Text :=
  ["main", "section", "div", "a", "header", "footer", "nav", "ul", "li", "button", "form",
    "component", "RouterLink", "RouterView"]

/-- The choice between all elements on offer as the root. -/
def rootChoice (components : List Component) : Text :=
  "$\x7b1|".toList ++ Text.join "," (rootElements ++ components.map (·.name)) ++ "|\x7d$0".toList

/-- The snippet for a template with content. -/
def ofFullTemplate (components : List Component) (lang : Option Text) : Snippet :=
  if isPug lang then
    ⟨"template", "<template lang=\"pug\">\n\t".toList ++ rootChoice components
        ++ "\n</template>\n".toList,
      "\x60\x60\x60vue\n<template lang=\"pug\">\n\tmain|\n</template>\n"⟩
  else
    ⟨"template", "<template>\n\t<".toList ++ rootChoice components
        ++ ">\n\t\t\n\t</$1>\n</template>\n".toList,
      "\x60\x60\x60vue\n<template>\n\t<main|>\n\t\t\n\t</main>\n</template>\n"⟩

/-- The snippets for a template. -/
def ofTemplate (components : List Component) (lang : Option Text) : List Snippet :=
  [ofFullTemplate components lang, plain "template src" "<template src=\"$0\"></template>"]

/-- The snippets for a style. -/
def ofStyle (lang : Option Text) : List Snippet :=
  let full (label : Text) := plain label ('<' :: label ++ Source.langAttribute lang
    ++ ">\n$0\n</style>\n".toList)
  [full "style", full "style module", full "style scoped",
    plain "style src" "<style src=\"$0\"></style>"]

/-- The language of a new script: that of the other script if it has one, else as set. -/
def scriptLang (settings : Settings) (other : Option ScriptBlock) : Option Text :=
  (other.bind (·.lang)).orElse fun _ => settings.scriptLang

/-- The snippets for the blocks that a document can still take. -/
def ofDocument (document : Document) (settings : Settings) (components : List Component) :
    List Snippet :=
  (if document.script.isNone then
      ofScript settings (scriptLang settings document.scriptSetup) else [])
    ++ (if document.scriptSetup.isNone && settings.prefersScriptSetup then
      [ofScriptSetup (scriptLang settings document.script)] else [])
    ++ (if document.template.isNone then ofTemplate components settings.templateLang else [])
    ++ ofStyle settings.styleLang

end Snippet

/-! ### Completion -/

/-- A block that has a part on the given line. -/
def onLine {α : Type} (toBlock : α → Block) (line : Nat) (block : Option α) : Option α :=
  block.filter fun b => (toBlock b).span.containsLine line

/-- The snippets on offer at a caret of a document. -/
def completeIn (document : Document) (caret : Caret) (configuration : Configuration) :
    List Snippet :=
  match onLine (·.toBlock) caret.line document.scriptSetup,
    onLine id caret.line document.template with
  | some setup, _ =>
    if Placement.isValidInSetup caret setup.statements then Snippet.ofSetup setup else []
  | none, some template =>
    if Placement.isValidInTemplate caret template then
      configuration.components.map (Snippet.ofComponent template.lang)
    else []
  | none, none =>
    if (onLine (·.toBlock) caret.line document.script).isSome
        || document.styles.any (·.span.containsLine caret.line) then []
    else Snippet.ofDocument document configuration.settings configuration.components

/-- The snippets on offer at a caret of a text. -/
def complete (text : Text) (caret : Caret) (configuration : Configuration) : List Snippet :=
  completeIn (.parse text) caret configuration

end ComponentFile
