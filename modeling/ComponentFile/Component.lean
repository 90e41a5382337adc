import ComponentFile.Text.Basic

/-!
Components that a document can use.
-/

namespace ComponentFile

/-- A component: the name of its tag and binding, and the module it is imported from. -/
structure Component where
  /-- The tag name and import binding. -/
  name : Text
  /-- The module path. -/
  source : Text
  deriving DecidableEq, Repr

/-- The mark of a module path relative to the source folder. -/
def Component.sourceAlias : Text := "@/"

/-- The module path without the leading `@/`. -/
def Component.bareSource (component : Component) : Text :=
  if sourceAlias.isPrefixOf component.source then component.source.drop sourceAlias.length
  else component.source

end ComponentFile
