import ComponentFile.Editor.Uri
import ComponentFile.Settings.Decode

/-!
The arguments of the command that registers a component. They may come in any order: the first that
reads as a component is the component, and the first string that is a resource identifier names the
document.
-/

namespace ComponentFile

namespace Command

/-- The name of the command that registers a component. -/
def registerComponent : Text := "sfcLsp.registerComponent"

/-- A value as a component. -/
def asComponent? (json : Json) : Option Component :=
  match Component.decode json with
  | .ok component => some component
  | .error _ => none

/-- The component among the arguments. -/
def componentArgument? (arguments : List Json) : Option Component :=
  arguments.findSome? asComponent?

/-- The document among the arguments. -/
def uriArgument? (arguments : List Json) : Option Text :=
  (arguments.filterMap Json.asString?).find? Uri.isValid

/-- What is said when the arguments do not name a document and a component. -/
def usage : Text :=
  registerComponent ++ " expects a document URI and a \x7b name, source \x7d component".toList

end Command

end ComponentFile
