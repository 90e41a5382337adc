import ComponentFile.Component
import ComponentFile.Editor.Placement

/-!
Finding the component that was just typed into a template.

`detect?` looks through the changes in order for the first one inside the template in which the name
of a component occurs. Where several names occur at the same place, heavier ones are tried first.
-/

namespace ComponentFile

namespace Detection

/-- A change with a range, reduced to its lines and the new text. -/
structure TypedText where
  /-- The first line of the range. -/
  firstLine : Nat
  /-- The last line of the range. -/
  lastLine : Nat
  /-- The new text. -/
  text : Text
  deriving DecidableEq, Repr

/-- What was typed in a change. A replacement of the whole text is not typing. -/
def TypedText.ofChange? (change : Change) : Option TypedText :=
  change.range.map fun (start, stop) => ⟨start.line, stop.line, change.text⟩

/-- The characters that count twice in the weight of a name. -/
def heavyChars : Text := "\\.+*?()|[]\x7b\x7d^$#&-~"

/-- The weight by which names are ordered: the bytes, where some characters count twice. -/
def weight (name : Text) : Nat := Text.bytes name + (name.filter heavyChars.elem).length

/-- The names of components that are not empty, the heaviest first; names of equal weight stay in
order. -/
def searchNames (components : List Component) : List Text :=
  ((components.map (·.name)).filter (!·.isEmpty)).mergeSort fun a b => weight b ≤ weight a

/-- The first of several names that occurs at the first place of a text where any of them does. -/
def findName? (names : List Text) : Text → Option Text
  | [] => none
  | c :: cs =>
    match names.find? (·.isPrefixOf (c :: cs)) with
    | some name => some name
    | none => findName? names cs

/-- The component that was typed into a template. -/
def detectIn? (template : Block) (changes : List TypedText) (components : List Component) :
    Option Component := do
  let inside := changes.filter fun c => Placement.isTemplateChange c.firstLine c.lastLine template
  let name ← inside.findSome? fun c => findName? (searchNames components) c.text
  components.find? (·.name = name)

/-- The component that was typed into the template of a document, given the text after the
changes. -/
def detect? (text : Text) (changes : List TypedText) (components : List Component) :
    Option Component := do
  detectIn? (← (Document.parse text).template) changes components

end Detection

end ComponentFile
