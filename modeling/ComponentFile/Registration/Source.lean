import ComponentFile.Settings.Basic

/-!
The source texts that registration writes into a document.
-/

namespace ComponentFile

namespace Source

/-- The binding of the typed component wrapper. -/
def typeHelper : Text := "defineComponent"

/-- The import of the typed component wrapper. -/
def typeHelperImport : Text := "import \x7b defineComponent \x7d from 'vue'"

/-- The stub of a setup function. -/
def setupOption : Text := "setup() \x7b\n\t\t\n\t\x7d,"

/-- The import of a component. -/
def importStatement (component : Component) : Text :=
  "import ".toList ++ component.name ++ " from '".toList ++ component.source ++ "'".toList

/-- A `components` option with a single component. -/
def componentsOption (component : Component) : Text :=
  "components: \x7b\n\t\t".toList ++ component.name ++ ",\n\t\x7d,".toList

/-- The options of a new default export. -/
def options (component : Component) (settings : Settings) : Text :=
  if settings.api = .composition then
    componentsOption component ++ "\n\t".toList ++ setupOption
  else componentsOption component

/-- A new default export. -/
def defaultExport (component : Component) (settings : Settings) (typed : Bool) : Text :=
  if typed then
    "export default ".toList ++ typeHelper ++ "(\x7b\n\t".toList ++ options component settings
      ++ "\n\x7d)".toList
  else "export default \x7b\n\t".toList ++ options component settings ++ "\n\x7d".toList

/-- The whole content of a plain script. -/
def scriptContent (component : Component) (settings : Settings) (typed : Bool) : Text :=
  (if typed then typeHelperImport ++ ['\n'] else []) ++ importStatement component ++ "\n\n".toList
    ++ defaultExport component settings typed

/-- A `lang` attribute with the blank before it; nothing without a language. -/
def langAttribute : Option Text → Text
  | some lang => " lang=\"".toList ++ lang ++ "\"".toList
  | none => []

/-- A new script block, followed by a blank line. -/
def newScriptBlock (component : Component) (settings : Settings) : Text :=
  let lang := langAttribute settings.scriptLang
  if settings.prefersScriptSetup then
    "<script setup".toList ++ lang ++ ">\n".toList ++ importStatement component
      ++ "\n</script>\n\n".toList
  else
    "<script".toList ++ lang ++ ">\n".toList
      ++ scriptContent component settings (settings.preprocessors.script = some .ts)
      ++ "\n</script>\n\n".toList

end Source

end ComponentFile
