import ComponentFile.Repair.State
import ComponentFile.Script.Cursor

/-!
Pieces: what a reader has made of the script so far.

A `Piece` is a token or a part with the pieces it consists of. Text that fits nowhere is a piece as
well, and so is a token that is missing. Each such repair has a cost; the cost of a piece is that of
all repairs in it, and of two ways to read a script the cheaper one is better.
-/

namespace ComponentFile

namespace Repair

/-- What a piece stands for. -/
inductive Shape where
  /-- A token. -/
  | token (terminal : Nat)
  /-- A part of the grammar. -/
  | part (index : Nat)
  /-- Text that fits nowhere. -/
  | fault
  /-- Text that has been passed over and will become part of a fault. -/
  | passed
  deriving DecidableEq, Repr

/-- What is known of a piece without looking inside. -/
structure Facts where
  /-- What the piece stands for. -/
  shape : Shape
  /-- Where the blanks before the piece begin. -/
  origin : Nat
  /-- Where the piece begins. -/
  start : Nat
  /-- Where the piece ends. -/
  stop : Script.Cursor
  /-- The number of line breaks before the piece. -/
  rowsBefore : Nat := 0
  /-- The number of line breaks in the piece. -/
  rows : Nat := 0
  /-- Whether the piece may stand anywhere. -/
  isExtra : Bool := false
  /-- Whether the piece is missing in the text. -/
  isMissing : Bool := false
  /-- Whether the piece is a reserved word. -/
  isWord : Bool := false
  /-- The cost of all repairs in the piece. -/
  cost : Nat := 0
  /-- The weight of all productions in the piece. -/
  weight : Int := 0
  /-- The number of children that are shown. -/
  shownChildren : Nat := 0
  /-- The number of pieces inside that are shown. -/
  shownInside : Nat := 0
  /-- The names that the children appear under. -/
  names : List (Option String) := []

/-- A token or a part with what it consists of. -/
inductive Piece where
  /-- A piece with its children. -/
  | mk (facts : Facts) (children : List Piece)

/-! ### Costs -/

/-- The cost of each repair. -/
def repairCost : Nat := 500

/-- The cost of a missing token, in addition. -/
def missingCost : Nat := 110

/-- The cost of each piece that is passed over. -/
def passedPieceCost : Nat := 100

/-- The cost of each byte that is passed over. -/
def passedByteCost : Nat := 1

/-- The cost of each line that is passed over. -/
def passedRowCost : Nat := 30

/-- The cost of passing over a stretch of text, apart from the pieces in it. -/
def passedTextCost (bytes rows : Nat) : Nat := passedByteCost * bytes + passedRowCost * rows

namespace Piece

/-- What is known of the piece. -/
def facts : Piece → Facts
  | .mk facts _ => facts

/-- What the piece consists of. -/
def children : Piece → List Piece
  | .mk _ children => children

/-- What the piece stands for. -/
def shape (piece : Piece) : Shape := piece.facts.shape

/-- The piece with its facts changed. -/
def withFacts (change : Facts → Facts) : Piece → Piece
  | .mk facts children => .mk (change facts) children

/-- The cost of all repairs in a piece. -/
def cost (piece : Piece) : Nat :=
  if piece.facts.isMissing then repairCost + missingCost else piece.facts.cost

/-- Whether the piece is shown in trees. -/
def isShown (tables : Tables) (piece : Piece) : Bool :=
  match piece.shape with
  | .token terminal => (tables.terminals[terminal]?.map Terminal.isShown).getD false
  | .part index => (tables.parts[index]?.map Part.isShown).getD false
  | .fault => true
  | .passed => false

/-- The number of bytes of a piece with the blanks before it. -/
def bytes (piece : Piece) : Nat := piece.facts.stop.offset - piece.facts.origin

/-- The number of line breaks of a piece with the blanks before it. -/
def allRows (piece : Piece) : Nat := piece.facts.rowsBefore + piece.facts.rows

/-- How much a piece counts as progress. -/
def progress (tables : Tables) (piece : Piece) : Nat :=
  piece.facts.shownInside + (if piece.isShown tables then 1 else 0)
    + (if piece.shape = .passed then 1 else 0)

/-- Whether a piece is text that fits nowhere. -/
def isFault (piece : Piece) : Bool := piece.shape = .fault

/-! ### Joining pieces -/

/-- Whether pieces of a shape consist of text that is passed over. -/
def Shape.isPassing (shape : Shape) : Bool := shape = .fault || shape = .passed

/-- The cost that a child adds to text that is passed over. -/
def childCost (tables : Tables) (child : Piece) : Nat :=
  if child.facts.isExtra || (child.isFault && child.children.isEmpty) then 0
  else if child.isShown tables then passedPieceCost
  else passedPieceCost * child.facts.shownChildren

/-- The facts of a piece with one more child; `names` are the names that are left for the children
to come. -/
def addChild (tables : Tables) (state : Facts × List (Option String)) (child : Piece) :
    Facts × List (Option String) :=
  let (facts, names) := state
  let renamed := !child.facts.isExtra && child.shape ≠ .token 0 && (names.head?.join).isSome
  let isShown := renamed || child.isShown tables
  ({ facts with
      stop := child.facts.stop
      rows := facts.rows + child.allRows
      cost := facts.cost + (if child.shape = .passed then 0 else child.cost)
        + (if Shape.isPassing facts.shape then childCost tables child else 0)
      weight := facts.weight + child.facts.weight
      shownInside := facts.shownInside + child.facts.shownInside + (if isShown then 1 else 0)
      shownChildren := facts.shownChildren
        + (if isShown then 1 else child.facts.shownChildren) },
    if child.facts.isExtra then names else names.tail)

/-- Joins pieces that stand at `place` if there are none. -/
def join (tables : Tables) (place : Script.Cursor) (shape : Shape) (names : List (Option String))
    (children : List Piece) : Piece :=
  let first := children.head?.map Piece.facts
  let facts : Facts :=
    { shape
      origin := (first.map Facts.origin).getD place.offset
      start := (first.map Facts.start).getD place.offset
      stop := place
      rowsBefore := (first.map Facts.rowsBefore).getD 0
      names }
  let (facts, _) := children.foldl (addChild tables) (facts, names)
  let rows := facts.rows - facts.rowsBefore
  let own := if Shape.isPassing shape then
      repairCost + passedTextCost (facts.stop.offset - facts.start) rows
    else 0
  .mk { facts with rows, cost := facts.cost + own } children

/-! ### Choosing between pieces -/

/-- The place of a shape in the order of shapes. -/
def Shape.order (tables : Tables) : Shape → Nat
  | .token terminal => terminal
  | .part index => tables.terminals.size + index
  | .fault => tables.terminals.size + tables.parts.size
  | .passed => tables.terminals.size + tables.parts.size + 1

mutual

/-- Compares two pieces by their shapes, from the outside in. -/
def compareShapes (tables : Tables) : Piece → Piece → Ordering
  | .mk facts children, .mk otherFacts others =>
    match compare (Shape.order tables facts.shape) (Shape.order tables otherFacts.shape) with
    | .eq =>
      match compare children.length others.length with
      | .eq => compareAllShapes tables children others
      | decided => decided
    | decided => decided

/-- Compares pieces in order by their shapes. -/
def compareAllShapes (tables : Tables) : List Piece → List Piece → Ordering
  | piece :: pieces, other :: others =>
    match compareShapes tables piece other with
    | .eq => compareAllShapes tables pieces others
    | decided => decided
  | _, _ => .eq

end

/-- Whether the second of two pieces is the better reading of a text. -/
def prefers (tables : Tables) (left right : Piece) : Bool :=
  if right.cost ≠ left.cost then right.cost < left.cost
  else if right.facts.weight ≠ left.facts.weight then left.facts.weight < right.facts.weight
  else 0 < left.cost || compareShapes tables left right = .gt

/-- Whether two pieces are as good as the same: they stand for the same and cover the same text, or
both have been repaired. -/
def isLike (left right : Piece) : Bool :=
  left.shape = right.shape &&
    ((0 < left.cost && 0 < right.cost) ||
      (left.facts.start - left.facts.origin = right.facts.start - right.facts.origin
        && left.facts.stop.offset - left.facts.start
          = right.facts.stop.offset - right.facts.start
        && left.children.length = right.children.length
        && left.facts.isExtra = right.facts.isExtra))

end Piece

end Repair

end ComponentFile
