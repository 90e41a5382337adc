import ComponentFile.Text.Basic

/-!
Points and spans of a document.

A `Position` carries a line, a column and an offset at once. Lines end at line feeds, columns count
UTF-16 units from the start of the line and offsets count UTF-8 bytes from the start of the text;
all three start at zero. `Position.after` walks over a text, and `Position.within` re-anchors a
point of a part of a document at the place where the part begins.
-/

namespace ComponentFile

/-- A point of a document. -/
structure Position where
  /-- The number of line feeds before the point. -/
  line : Nat
  /-- The UTF-16 units between the start of the line and the point. -/
  column : Nat
  /-- The UTF-8 bytes before the point. -/
  offset : Nat
  deriving DecidableEq, Repr

namespace Position

/-- The start of a text. -/
def origin : Position := ⟨0, 0, 0⟩

/-- The point just past one character. -/
def next (p : Position) (c : Char) : Position :=
  if c = '\n' then ⟨p.line + 1, 0, p.offset + c.utf8Size⟩
  else ⟨p.line, p.column + Text.unitsOf c, p.offset + c.utf8Size⟩

/-- The point just past a text. -/
def after (p : Position) : Text → Position
  | [] => p
  | c :: cs => after (p.next c) cs

/-- A point given relative to `anchor`, in the coordinates in which `anchor` is given: only the
columns of the first line move. -/
def within (p anchor : Position) : Position where
  line := anchor.line + p.line
  column := if p.line = 0 then anchor.column + p.column else p.column
  offset := anchor.offset + p.offset

end Position

/-- The part of a document from `start` up to `stop`. -/
structure Span where
  /-- The first point. -/
  start : Position
  /-- The point just past the last character. -/
  stop : Position
  deriving DecidableEq, Repr

namespace Span

/-- Whether a span begins and ends on the same line. -/
def isSingleLine (s : Span) : Bool := s.start.line = s.stop.line

/-- Whether a line has a part in a span; the first and the last line count. -/
def containsLine (s : Span) (line : Nat) : Bool := s.start.line ≤ line && line ≤ s.stop.line

end Span

end ComponentFile
