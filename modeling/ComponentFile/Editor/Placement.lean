import ComponentFile.Document
import ComponentFile.Edit

/-!
Where in a document something new can be written.

* `isValidInSetup` tells whether a statement can begin at a place of a script setup.
* `isValidInTemplate` tells whether an element can be written at a place of a template.
* `isTemplateChange` tells whether a change lies strictly between the tags of a template.
-/

namespace ComponentFile

namespace Placement

/-- Whether a new statement can begin at a caret. The first statement that has a part on its line
decides: past the end of a statement on one line is fine, anywhere in one on several lines is
not. -/
def isValidInSetup (caret : Caret) (statements : List Script.Statement) : Bool :=
  match statements.find? (·.span.containsLine caret.line) with
  | none => true
  | some statement =>
    statement.span.isSingleLine && caret.column > statement.span.stop.column

/-- Whether a character is an angle bracket. -/
def isBracket (c : Char) : Bool := c = '<' || c = '>'

/-- The rest of a line from a column on. -/
def fromColumn (line : Text) (column : Nat) : Text := (line.cut (line.unitIndex column)).2

/-- Whether the first angle bracket of a text opens; a text without any is fine. -/
def opensFirst (text : Text) : Bool := text.find? isBracket ≠ some '>'

/-- Whether the first of several lines that begins with an angle bracket begins with an opening
one; lines without any are fine. -/
def opensNext : List Text → Bool
  | [] => true
  | line :: lines =>
    match Text.trimStart line with
    | '<' :: _ => true
    | '>' :: _ => false
    | _ => opensNext lines

/-- The lines of a template's content between the lines of its tags. -/
def interior (template : Block) : List Text := (Text.lines template.content).tail.dropLast

/-- Whether an element can be written at a column of the first of several lines. -/
def isValidAt (column : Nat) : List Text → Bool
  | [] => false
  | line :: lines =>
    if line.any isBracket then opensFirst (fromColumn line column) else opensNext lines

/-- Whether an element can be written at a caret. The next angle bracket decides, on the caret's own
line or at the start of the lines below: an opening one means that the caret is between elements.
The line on which the template begins is never valid. -/
def isValidInTemplate (caret : Caret) (template : Block) : Bool :=
  template.span.start.line < caret.line &&
    isValidAt caret.column ((interior template).drop (caret.line - (template.span.start.line + 1)))

/-- Whether lines lie strictly between the first and the last line of a template. -/
def isTemplateChange (first last : Nat) (template : Block) : Bool :=
  template.span.start.line < first && last < template.span.stop.line

end Placement

end ComponentFile
