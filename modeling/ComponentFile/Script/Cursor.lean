import ComponentFile.Script.Tree

/-!
Reading a script character by character.

A `Cursor` stands between two characters: it knows what follows and how many bytes precede. A
`Reader` either fails or answers with a value and the cursor after it; alternatives backtrack. After
a token the cursor stands directly behind it, so that the blanks and comments before the next token
can still be looked at: they decide whether a line break ends a statement.

* `blanks` and `comment?` describe what may stand between tokens, `gap` skips it.
* `lineEnd?` decides whether a statement may end at the cursor without a semicolon.
-/

namespace ComponentFile

namespace Script

/-! ### Cursors and readers -/

/-- A point of a script. -/
structure Cursor where
  /-- What follows. -/
  rest : Text
  /-- The number of bytes that precede. -/
  offset : Nat
  deriving DecidableEq, Repr

/-- The cursor after the first `n` characters that follow. -/
def Cursor.skip (cursor : Cursor) : Nat → Cursor
  | 0 => cursor
  | n + 1 =>
    match cursor.rest with
    | [] => cursor
    | c :: cs => Cursor.skip ⟨cs, cursor.offset + c.utf8Size⟩ n

/-- Reads a value off the text at a cursor. -/
abbrev Reader := StateT Cursor Option

namespace Reader

/-- Reads repeatedly until the reader fails, at most `fuel` times. -/
def manyFrom {α : Type} (reader : Reader α) : (fuel : Nat) → Cursor → List α × Cursor
  | 0, cursor => ([], cursor)
  | fuel + 1, cursor =>
    match reader cursor with
    | none => ([], cursor)
    | some (value, next) =>
      let (values, last) := manyFrom reader fuel next
      (value :: values, last)

/-- Reads as often as possible. A reader that succeeds takes a character, so there are no more
rounds than characters. -/
def many {α : Type} (reader : Reader α) : Reader (List α) := fun cursor =>
  some (manyFrom reader cursor.rest.length cursor)

/-- Reads a value if possible. -/
def optional {α : Type} (reader : Reader α) : Reader (Option α) := fun cursor =>
  match reader cursor with
  | some (value, next) => some (some value, next)
  | none => some (none, cursor)

/-- Succeeds without reading if the test holds of the cursor. -/
def check (test : Cursor → Bool) : Reader Unit := fun cursor =>
  if test cursor then some ((), cursor) else none

/-- Whether a reader succeeds; nothing is read. -/
def succeeds {α : Type} (reader : Reader α) (cursor : Cursor) : Bool := (reader cursor).isSome

/-- Answers the byte offset of the cursor. -/
def offset : Reader Nat := fun cursor => some (cursor.offset, cursor)

end Reader

/-! ### Characters -/

/-- The blanks that separate tokens and end lines: space, tab, line feed, vertical tab, form feed
and carriage return. -/
def isAsciiBlank (c : Char) : Bool := c = ' ' || (9 ≤ c.toNat && c.toNat ≤ 13)

/-- Ranges of blanks beyond ASCII: space separators, line and paragraph separators, and marks of
no width. -/
def wideBlankRanges : List (Nat × Nat) :=
  [(0xA0, 0xA0), (0x1680, 0x1680), (0x2000, 0x200B), (0x2028, 0x2029), (0x202F, 0x202F),
    (0x205F, 0x2060), (0x3000, 0x3000), (0xFEFF, 0xFEFF)]

/-- Whether a character is a blank between tokens. -/
def isGapBlank (c : Char) : Bool :=
  isAsciiBlank c || wideBlankRanges.any fun (low, high) => low ≤ c.toNat && c.toNat ≤ high

/-- The ASCII characters that stand in no name. -/
def nameBreakers : Text := ":;\x60\"'@#.,|^&<=>+-*/\\%?!~()[]\x7b\x7d"

/-- Whether a character may stand in a name. -/
def isNameChar (c : Char) : Bool :=
  0x20 ≤ c.toNat && !isGapBlank c && !nameBreakers.elem c

/-- Whether a character may begin a name. -/
def isNameStart (c : Char) : Bool := isNameChar c && !c.isDigit

/-- A hexadecimal digit. -/
def isHexDigit (c : Char) : Bool := c.isDigit || ('a' ≤ c && c ≤ 'f') || ('A' ≤ c && c ≤ 'F')

/-! ### Between tokens -/

/-- Whether a character ends a line comment. -/
def endsLine (c : Char) : Bool := c = '\n' || c = '\r' || c.toNat = 0x2028 || c.toNat = 0x2029

/-- The number of characters up to and including `*/`. -/
def blockCommentLength? : Text → Option Nat
  | [] => none
  | '*' :: '/' :: _ => some 2
  | _ :: cs => (blockCommentLength? cs).map (· + 1)

/-- The number of characters of the comment that a text begins with. -/
def commentLength? : Text → Option Nat
  | '/' :: '/' :: cs => some (2 + (cs.takeWhile (!endsLine ·)).length)
  | '/' :: '*' :: cs => (blockCommentLength? cs).map (2 + ·)
  | _ => none

/-- The cursor after any blanks. -/
def skipBlanks (cursor : Cursor) : Cursor :=
  cursor.skip (cursor.rest.takeWhile isGapBlank).length

/-- The cursor after blanks and comments, in at most `fuel` rounds. -/
def skipGapFrom : (fuel : Nat) → Cursor → Cursor
  | 0, cursor => cursor
  | fuel + 1, cursor =>
    let cursor := skipBlanks cursor
    match commentLength? cursor.rest with
    | some n => skipGapFrom fuel (cursor.skip n)
    | none => cursor

/-- The cursor after blanks and comments. -/
def skipGap (cursor : Cursor) : Cursor := skipGapFrom (cursor.rest.length + 1) cursor

/-- Skips blanks and comments. -/
def gap : Reader Unit := fun cursor => some ((), skipGap cursor)

/-- Skips blanks and comments and answers the offset after them, where the next token begins. -/
def begin : Reader Nat := do
  gap
  Reader.offset

/-! ### Line ends -/

/-- Whether a line comment goes on with a character when the end of a statement is looked for. -/
def keepsLine (c : Char) : Bool := c ≠ '\n' && c ≠ '\x00'

/-- What follows blanks and comments, where a slash that begins no comment is refused. Answers the
text that follows. -/
def afterBreak? : (fuel : Nat) → Text → Option Text
  | 0, _ => none
  | fuel + 1, text =>
    let text := text.dropWhile isAsciiBlank
    match text with
    | '/' :: '/' :: cs => afterBreak? fuel (cs.dropWhile keepsLine)
    | '/' :: '*' :: cs => afterBreak? fuel (cs.drop ((blockCommentLength? cs).getD cs.length))
    | '/' :: _ => none
    | text => some text

/-- An ASCII letter. -/
def isLetter (c : Char) : Bool := c.isAlpha

/-- Whether a text begins with the operator `in` or `instanceof`. -/
def beginsRelation (text : Text) : Bool :=
  match text with
  | 'i' :: 'n' :: rest =>
    !(rest.head?.any isLetter) ||
      ("stanceof".toList.isPrefixOf rest && !((rest.drop 8).head?.any isLetter))
  | _ => false

/-- Whether a statement may end before a line break with this text after it. In an expression a
parenthesis or bracket on the next line continues the statement. -/
def breaksBefore (inExpression inSignature : Bool) (text : Text) : Bool :=
  match text with
  | [] => true
  | c :: rest =>
    if "\x60,.;*%><=?^|&/:".toList.contains c then false
    else if c = '\x7b' then !inSignature
    else if c = '(' || c = '[' then !inExpression
    else if c = '+' then rest.head? = some '+'
    else if c = '-' then rest.head? = some '-'
    else if c = '!' then rest.head? ≠ some '='
    else !beginsRelation text

/-- Whether a statement may end exactly here: at the end of the script or a null character, before a
closing brace, or at a line break that the next line does not undo. -/
def endsHere (inExpression inSignature : Bool) (text : Text) : Bool :=
  match text.dropWhile fun c => isAsciiBlank c && c ≠ '\n' with
  | [] => true
  | '\x00' :: _ => true
  | '\x7d' :: rest =>
    if (rest.dropWhile isAsciiBlank).head? = some ':' then inExpression else true
  | '\n' :: rest =>
    match afterBreak? (rest.length + 1) rest with
    | some next => breaksBefore inExpression inSignature next
    | none => false
  | _ => false

/-- The cursor at which a statement may end without a semicolon. Comments that follow on the same
line belong to the statement. -/
def lineEndFrom? (inExpression inSignature : Bool) : (fuel : Nat) → Cursor → Option Cursor
  | 0, _ => none
  | fuel + 1, cursor =>
    if endsHere inExpression inSignature cursor.rest then some cursor
    else
      let next := skipBlanks cursor
      match commentLength? next.rest with
      | some n => lineEndFrom? inExpression inSignature fuel (next.skip n)
      | none => none

/-- The cursor at which a statement may end without a semicolon, if it may. -/
def lineEnd? (inExpression : Bool) (cursor : Cursor) : Option Cursor :=
  lineEndFrom? inExpression false (cursor.rest.length + 1) cursor

/-- Ends a statement without a semicolon. -/
def lineEnd (inExpression : Bool) : Reader Unit := fun cursor =>
  (lineEnd? inExpression cursor).map ((), ·)

/-! ### Tokens -/

/-- The number of characters of the escape `\uXXXX` or `\u{X...}` that a text begins with. -/
def nameEscapeLength? : Text → Option Nat
  | '\\' :: 'u' :: '\x7b' :: rest =>
    let digits := rest.takeWhile isHexDigit
    if digits.isEmpty || (rest.drop digits.length).head? ≠ some '\x7d' then none
    else some (digits.length + 4)
  | '\\' :: 'u' :: a :: b :: c :: d :: _ => if [a, b, c, d].all isHexDigit then some 6 else none
  | _ => none

/-- The number of characters of a name that go on with this text; `passed` more characters belong
to an escape. -/
def nameTailLength : (passed : Nat) → Text → Nat
  | _, [] => 0
  | passed + 1, _ :: cs => 1 + nameTailLength passed cs
  | 0, c :: cs =>
    if isNameChar c then 1 + nameTailLength 0 cs
    else match nameEscapeLength? (c :: cs) with
      | some n => 1 + nameTailLength (n - 1) cs
      | none => 0

/-- The number of characters of the name that a text begins with; zero if it begins with none. -/
def nameLength : Text → Nat
  | [] => 0
  | c :: cs =>
    if isNameStart c || (nameEscapeLength? (c :: cs)).isSome then nameTailLength 0 (c :: cs) else 0

/-- The name that follows, after a gap. -/
def peekName (cursor : Cursor) : Text :=
  let cursor := skipGap cursor
  cursor.rest.take (nameLength cursor.rest)

/-- Whether the given word follows, after a gap. -/
def seesWord (word : Text) (cursor : Cursor) : Bool := peekName cursor = word

/-- Whether one of the given words follows, after a gap. -/
def seesAny (words : List Text) (cursor : Cursor) : Bool := words.contains (peekName cursor)

/-- Whether the given characters follow, after a gap. -/
def sees (mark : Text) (cursor : Cursor) : Bool := mark.isPrefixOf (skipGap cursor).rest

/-- Reads a name and answers its text. -/
def name : Reader Text := fun cursor =>
  let cursor := skipGap cursor
  match nameLength cursor.rest with
  | 0 => none
  | n => some (cursor.rest.take n, cursor.skip n)

/-- Reads the given word. -/
def word (w : Text) : Reader Unit := fun cursor =>
  let cursor := skipGap cursor
  let n := nameLength cursor.rest
  if n ≠ 0 && cursor.rest.take n = w then some ((), cursor.skip n) else none

/-- Reads one of the given words and answers it. -/
def oneOf (words : List Text) : Reader Text := do
  let w ← name
  if words.contains w then return w else failure

/-- Reads the given characters. -/
def mark (m : Text) : Reader Unit := fun cursor =>
  let cursor := skipGap cursor
  if m.isPrefixOf cursor.rest then some ((), cursor.skip m.length) else none

/-- Ends a statement, with a semicolon or without one. -/
def semicolon (inExpression : Bool) : Reader Unit := lineEnd inExpression <|> mark ";"

/-! ### Nodes -/

/-- Finishes a node that began at `start` and ends at the cursor. -/
def finish (kind : Kind) (start : Nat) (children : List Tree) : Reader Tree := fun cursor =>
  some (.node kind .plain start cursor.offset children, cursor)

/-- Reads a name as a node of the given kind. -/
def nameNode (kind : Kind) : Reader Tree := do
  let start ← begin
  let _ ← name
  finish kind start []

end Script

end ComponentFile
