import ComponentFile.Repair.State
import ComponentFile.Script.Literal

/-!
Tokens of a script, found one at a time.

Which token a text begins with depends on what is expected: a slash may divide or begin a regular
expression, a line break may end a statement. `find?` looks for an expected token at a cursor.
-/

namespace ComponentFile

namespace Repair

open Script (Cursor)

/-- A token found in a text. -/
structure Found where
  /-- The kind of token. -/
  terminal : Nat
  /-- Where the token begins. -/
  start : Cursor
  /-- Where the token ends. -/
  stop : Cursor

namespace Found

/-- The token of the first `length` characters at a cursor. -/
def ofLength (tables : Tables) (terminal : Terminal) (cursor : Cursor) (length : Nat) : Found :=
  ⟨tables.index terminal, cursor, cursor.skip length⟩

/-- The number of bytes of a token. -/
def size (found : Found) : Nat := found.stop.offset - found.start.offset

end Found

/-- The number of characters of a template up to a quote, an escape or a substitution; none if the
template does not end or holds a null character before that. -/
def templateLength? : Text → Option Nat
  | [] => none
  | '\x00' :: _ => none
  | '\x60' :: _ => some 0
  | '\\' :: _ => some 0
  | '$' :: '\x7b' :: _ => some 0
  | _ :: rest => (templateLength? rest).map (· + 1)

/-- The cursor after ASCII blanks. -/
def skipAsciiBlanks (cursor : Cursor) : Cursor :=
  cursor.skip (cursor.rest.takeWhile Script.isAsciiBlank).length

/-- Whether a text goes on as after the question mark of a condition. -/
def goesOnAsCondition : Text → Bool
  | '?' :: _ => false
  | '.' :: rest => rest.head?.any Char.isDigit
  | rest =>
    match (rest.dropWhile Script.isAsciiBlank).head? with
    | some c => c ≠ ':' && c ≠ ')' && c ≠ ','
    | none => true

/-- The question mark of a condition. -/
def questionMark? (tables : Tables) (cursor : Cursor) : Option Found :=
  let cursor := skipAsciiBlanks cursor
  match cursor.rest with
  | '?' :: rest =>
    if goesOnAsCondition rest then some (.ofLength tables .questionMark cursor 1) else none
  | _ => none

/-- Whether a character separates lines or paragraphs. -/
def isSeparator (c : Char) : Bool := c.toNat = 0x2028 || c.toNat = 0x2029

/-- Whether a comment as in pages goes on with a character. -/
def keepsPageComment (c : Char) : Bool := c ≠ '\n' && c ≠ '\x00' && !isSeparator c

/-- A comment as in pages. -/
def pageComment? (tables : Tables) (cursor : Cursor) : Option Found :=
  let blanks := cursor.rest.takeWhile fun c => Script.isAsciiBlank c || isSeparator c
  let cursor := cursor.skip blanks.length
  if "<!--".toList.isPrefixOf cursor.rest || "-->".toList.isPrefixOf cursor.rest then
    some (.ofLength tables .pageComment cursor (cursor.rest.takeWhile keepsPageComment).length)
  else none

/-- A token that depends on more than its own characters: one that covers no text, the characters of
a template, the question mark of a condition or a comment as in pages. -/
def findByPlace? (tables : Tables) (expected : Terminal → Bool) (cursor : Cursor) : Option Found :=
  if expected .templateChars then
    if expected .lineEnd then none
    else match templateLength? cursor.rest with
      | some (n + 1) => some (.ofLength tables .templateChars cursor (n + 1))
      | _ => none
  else if expected .lineEnd || expected .signatureEnd then
    if Script.endsHere (expected (.mark "||")) (expected .signatureEnd) cursor.rest then
      some (.ofLength tables .lineEnd cursor 0)
    else if expected .questionMark then questionMark? tables cursor
    else none
  else if expected .questionMark then questionMark? tables cursor
  else if expected (.mark "||") || expected .escape || expected .patternBody then none
  else pageComment? tables cursor

/-- The number of characters of a regular expression up to its closing slash. The characters of an
open bracket are counted in `inClass`; they belong to it only if the bracket is closed. -/
def patternLength : (inClass : Option Nat) → Text → Nat
  | _, [] => 0
  | _, ['\\'] => 0
  | inClass, '\\' :: c :: rest =>
    if c = '\n' then 0
    else match inClass with
      | none => 2 + patternLength none rest
      | some n => patternLength (some (n + 2)) rest
  | none, c :: rest =>
    if c = '\n' || c = '/' then 0
    else if c = '[' then patternLength (some 1) rest
    else 1 + patternLength none rest
  | some n, c :: rest =>
    if c = '\n' then 0
    else if c = ']' then n + 1 + patternLength none rest
    else patternLength (some (n + 1)) rest

/-- A token that follows directly, without blanks before it. -/
def findAttached? (tables : Tables) (expected : Terminal → Bool) (cursor : Cursor) : Option Found :=
  let take (terminal : Terminal) (length : Nat) : Option Found :=
    if expected terminal && length ≠ 0 then some (.ofLength tables terminal cursor length) else none
  let run (p : Char → Bool) : Nat := (cursor.rest.takeWhile p).length
  let quotedBy (quote c : Char) : Bool := c ≠ quote && c ≠ '\\' && c ≠ '\r' && c ≠ '\n'
  take .doubleQuoted (run (quotedBy '"'))
    <|> take .singleQuoted (run (quotedBy '\''))
    <|> take .patternBody (patternLength none cursor.rest)
    <|> take .patternEnd (if cursor.rest.head? = some '/' then 1 else 0)
    <|> take .patternFlags (run fun c => 'a' ≤ c && c ≤ 'z')
    <|> take .escape ((Script.escapeLength? cursor.rest).getD 0)

/-- The longer of two tokens, the first of two that are equally long. -/
def longer (a b : Option Found) : Option Found :=
  match a, b with
  | some x, some y => if x.size < y.size then some y else some x
  | some x, none => some x
  | none, y => y

/-- The longest expected mark. -/
def findMark? (tables : Tables) (expected : TerminalSet) (cursor : Cursor) : Option Found :=
  tables.marks.foldl (fun best (index, text) =>
    if expected.has index && text.isPrefixOf cursor.rest then
      longer best (some ⟨index, cursor, cursor.skip text.length⟩)
    else best) none

/-- The number of characters of a private name. -/
def privateLength : Text → Nat
  | '#' :: rest => match Script.nameLength rest with
    | 0 => 0
    | n => n + 1
  | _ => 0

/-- A token after blanks. -/
def findApart? (tables : Tables) (expected : TerminalSet) (cursor : Cursor) : Option Found :=
  let isExpected (terminal : Terminal) : Bool := expected.has (tables.index terminal)
  let take (terminal : Terminal) (length : Nat) : Option Found :=
    if length ≠ 0 then some (.ofLength tables terminal cursor length) else none
  if cursor.rest.isEmpty then
    if isExpected .stop then some (.ofLength tables .stop cursor 0) else none
  else take .comment ((Script.commentLength? cursor.rest).getD 0) <|>
    (longer (if expected &&& tables.nameLike ≠ 0 then
        take .identifier (Script.nameLength cursor.rest) else none)
      <| longer (if isExpected .number then
        take .number ((Script.numberLength? cursor.rest).getD 0) else none)
      <| longer (if isExpected .privateName then
        take .privateName (privateLength cursor.rest) else none)
      <| longer (if isExpected .hashBang && "#!".toList.isPrefixOf cursor.rest then
        take .hashBang (cursor.rest.takeWhile (· ≠ '\n')).length else none)
      <| findMark? tables expected cursor)

/-- An expected token at a cursor. -/
def find? (tables : Tables) (expected : TerminalSet) (cursor : Cursor) : Option Found :=
  findAttached? tables (fun terminal => expected.has (tables.index terminal)) cursor
    <|> findApart? tables expected (Script.skipBlanks cursor)

end Repair

end ComponentFile
