import ComponentFile.Text.Lines

/-!
Edits of a document: insertions, and replacements of ranges.

A batch of insertions is one transaction: all positions refer to the text before the batch, and
insertions at the same point end up in list order (`applyInsertions`).
-/

namespace ComponentFile

/-! ### Insertions -/

/-- A text to be inserted at a line and UTF-16 column. -/
structure Insertion where
  /-- The line. -/
  line : Nat
  /-- The column. -/
  column : Nat
  /-- The inserted text. -/
  text : Text
  deriving DecidableEq, Repr

/-- The insertion of a text at a point. -/
def Insertion.placed (p : Position) (text : Text) : Insertion := ⟨p.line, p.column, text⟩

/-- The text up to the first character that starts at or after a byte offset, and the rest. -/
def Text.cut : Text → Nat → Text × Text
  | [], _ => ([], [])
  | c :: cs, offset =>
    if offset = 0 then ([], c :: cs)
    else
      let (before, rest) := cut cs (offset - c.utf8Size)
      (c :: before, rest)

/-- The text with another one inserted at a byte offset. -/
def Text.insertAt (text : Text) (offset : Nat) (inserted : Text) : Text :=
  let (before, rest) := text.cut offset
  before ++ inserted ++ rest

/-- Adds an anchored text to a list kept by descending offset; at equal offsets the later one comes
first. -/
def insertDescending (anchored : Nat × Text) : List (Nat × Text) → List (Nat × Text)
  | [] => [anchored]
  | other :: rest =>
    if other.1 ≤ anchored.1 then anchored :: other :: rest
    else other :: insertDescending anchored rest

/-- The insertions with their offsets in a text, from the last to the first. -/
def anchorDescending (text : Text) (edits : List Insertion) : List (Nat × Text) :=
  edits.foldl (fun anchored edit =>
    insertDescending (text.offset edit.line edit.column, edit.text) anchored) []

/-- The text after a batch of insertions. -/
def applyInsertions (text : Text) (edits : List Insertion) : Text :=
  (anchorDescending text edits).foldl (fun result (offset, inserted) =>
    result.insertAt offset inserted) text

/-! ### Content changes -/

/-- A line and UTF-16 column of an editor. -/
structure Caret where
  /-- The line. -/
  line : Nat
  /-- The column. -/
  column : Nat
  deriving DecidableEq, Repr

/-- A change reported by an editor; without a range it replaces the whole text. -/
structure Change where
  /-- The replaced range, from its start to its end. -/
  range : Option (Caret × Caret)
  /-- The new text. -/
  text : Text
  deriving DecidableEq, Repr

/-- The text after a change. A range that ends before it starts is taken for an insertion. -/
def Change.apply (change : Change) (text : Text) : Text :=
  match change.range with
  | none => change.text
  | some (start, stop) =>
    let first := text.offset start.line start.column
    let last := max first (text.offset stop.line stop.column)
    (text.cut first).1 ++ change.text ++ (text.cut last).2

end ComponentFile
