import ComponentFile.Edit
import ComponentFile.Editor.QuickFix
import ComponentFile.Text.Lines

/-!
The quick fixes of a line as replacements of the whole line.
-/

namespace ComponentFile

/-- A range of a document and the text that replaces it. -/
structure Replacement where
  /-- Where the range begins. -/
  start : Caret
  /-- Where the range ends. -/
  stop : Caret
  /-- The new text. -/
  text : Text
  deriving DecidableEq, Repr

namespace Replacement

/-- The largest line and column that can be written down. -/
def largest : Nat := 4294967295

/-- An insertion as the replacement of an empty range. -/
def ofInsertion (insertion : Insertion) : Replacement :=
  let caret : Caret := ⟨min insertion.line largest, min insertion.column largest⟩
  ⟨caret, caret, insertion.text⟩

/-- The replacement as a change of the document. -/
def toChange (replacement : Replacement) : Change :=
  ⟨some (replacement.start, replacement.stop), replacement.text⟩

/-- The replacement of a whole line. -/
def ofLine (line : Nat) (old new : Text) : Replacement :=
  ⟨⟨line, 0⟩, ⟨line, min (Text.units old) largest⟩, new⟩

end Replacement

/-- A titled replacement. -/
structure CodeAction where
  /-- What the action is called. -/
  title : Text
  /-- What it does. -/
  replacement : Replacement
  deriving DecidableEq, Repr

/-- The actions on offer on a line of a text. -/
def codeActions (text : Text) (line : Nat) (names : List Text) : List CodeAction :=
  match text.lineText? line with
  | none => []
  | some old => (quickFixes old names).map fun fix =>
    ⟨fix.title, .ofLine line old fix.replacement⟩

end ComponentFile
