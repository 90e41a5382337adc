import ComponentFile.Text.Blank
import ComponentFile.Text.Position

/-!
Translation between offsets and line/column pairs.

`Text.position` answers for every offset: one past the end is taken for the end, and one inside a
character for the start of that character. `Text.offset` answers for every pair: a line past the end
means the end of the text, and a column past the end of a line means the end of that line, before
its line feed. A column between the two units of a character means the point after the character.
-/

namespace ComponentFile

namespace Text

/-! ### From offsets to positions -/

/-- The last point at most `n` bytes past `p`, where the text continues with the given one. -/
def advance (p : Position) (n : Nat) : Text → Position
  | [] => p
  | c :: cs => if c.utf8Size ≤ n then advance (p.next c) (n - c.utf8Size) cs else p

/-- The point of a text at a byte offset. -/
def position (text : Text) (offset : Nat) : Position := advance .origin offset text

/-- The span of a text between two byte offsets. -/
def span (text : Text) (start stop : Nat) : Span := ⟨text.position start, text.position stop⟩

/-! ### From columns and lines to offsets -/

/-- The bytes before the first character of a line that starts at or after a UTF-16 column. -/
def unitIndex : Text → Nat → Nat
  | [], _ => 0
  | c :: cs, column => if column = 0 then 0 else c.utf8Size + unitIndex cs (column - unitsOf c)

/-- The text of a line, without its line feed. -/
def lineText? (text : Text) (line : Nat) : Option Text := text.lines[line]?

/-- The byte offset of a column of one of the given lines. -/
def offsetIn : List Text → Nat → Nat → Nat
  | [], _, _ => 0
  | [l], 0, column => unitIndex l column
  | [l], _ + 1, _ => bytes l
  | l :: _ :: _, 0, column => unitIndex l column
  | l :: l' :: ls, line + 1, column => bytes l + 1 + offsetIn (l' :: ls) line column

/-- The byte offset of a line/column pair. -/
def offset (text : Text) (line column : Nat) : Nat := offsetIn text.lines line column

/-- Whether a character may indent a line. -/
def isIndent (c : Char) : Bool := c = ' ' || c = '\t'

/-- The spaces and tabs that a line begins with. -/
def indentation (text : Text) (line : Nat) : Text :=
  ((text.lineText? line).getD []).takeWhile isIndent

end Text

end ComponentFile
