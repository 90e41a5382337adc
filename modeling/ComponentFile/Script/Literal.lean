import ComponentFile.Script.Cursor

/-!
Literals of scripts: strings, numbers and regular expressions.

Each has a function that answers how many characters of a text belong to the literal at its front,
and a reader that makes a node of it.
-/

namespace ComponentFile

namespace Script

/-! ### Escapes and strings -/

/-- An octal digit. -/
def isOctalDigit (c : Char) : Bool := '0' ≤ c && c ≤ '7'

/-- The number of characters of the escape that a text begins with. -/
def escapeLength? : Text → Option Nat
  | '\\' :: c :: rest =>
    if c = 'x' then
      if (rest.take 2).length = 2 && (rest.take 2).all isHexDigit then some 4 else none
    else if c = 'u' then nameEscapeLength? ('\\' :: c :: rest)
    else if isOctalDigit c then some (2 + ((rest.take 2).takeWhile isOctalDigit).length)
    else if (c = '\r' || c = '?') && rest.head?.any fun d => endsLine d && d ≠ '\r' then some 3
    else some 2
  | _ => none

/-- The number of blanks and characters of comments that a text begins with. -/
def gapLength (text : Text) : Nat := text.length - (skipGap ⟨text, 0⟩).rest.length

/-- The number of characters of a string that go on with this text, up to and including the closing
quote. A line break inside a string may only be followed by the closing quote. -/
def stringTailLength? (quote : Char) : (passed : Nat) → Text → Option Nat
  | _, [] => none
  | passed + 1, _ :: cs => (stringTailLength? quote passed cs).map (· + 1)
  | 0, c :: cs =>
    if c = quote then some 1
    else if c = '\\' then
      match escapeLength? (c :: cs) with
      | some n => (stringTailLength? quote (n - 1) cs).map (· + 1)
      | none => none
    else if c = '\n' || c = '\r' then
      let n := gapLength (c :: cs)
      if ((c :: cs).drop n).head? = some quote then some (n + 1) else none
    else (stringTailLength? quote 0 cs).map (· + 1)

/-- The number of characters of the string that a text begins with. -/
def stringLength? : Text → Option Nat
  | c :: cs => if c = '"' || c = '\'' then (stringTailLength? c 0 cs).map (· + 1) else none
  | [] => none

/-- Reads a literal whose length is given by a function, as a node of the given kind. -/
def literal (kind : Kind) (length? : Text → Option Nat) : Reader Tree := fun cursor =>
  let cursor := skipGap cursor
  match length? cursor.rest with
  | some n =>
    let next := cursor.skip n
    some (.leaf kind cursor.offset next.offset, next)
  | none => none

/-- Reads a string. -/
def stringLiteral : Reader Tree := literal .string stringLength?

/-! ### Numbers -/

/-- The number of characters of a run of digits, in which single underscores may stand between two
digits. -/
def digitRun (isDigit : Char → Bool) : Text → Nat
  | [] => 0
  | [c] => if isDigit c then 1 else 0
  | c :: '_' :: d :: cs =>
    if isDigit c then if isDigit d then 2 + digitRun isDigit (d :: cs) else 1 else 0
  | c :: d :: cs => if isDigit c then 1 + digitRun isDigit (d :: cs) else 0

/-- The length of a run of digits with the sign for big integers after it. -/
def withBigMark (text : Text) (n : Nat) : Nat :=
  if n ≠ 0 && (text.drop n).head? = some 'n' then n + 1 else n

/-- The length of an exponent. -/
def exponentLength : Text → Nat
  | e :: cs =>
    if e = 'e' || e = 'E' then
      let sign := if cs.head? = some '+' || cs.head? = some '-' then 1 else 0
      match digitRun Char.isDigit (cs.drop sign) with
      | 0 => 0
      | n => 1 + sign + n
    else 0
  | [] => 0

/-- The length of the whole part of a number with a point or an exponent. -/
def wholeLength (text : Text) : Nat :=
  let lead := if text.head? = some '0' then 1 else 0
  match text.drop lead with
  | c :: cs =>
    if c.isDigit && c ≠ '0' then
      let under := if cs.head? = some '_' then 1 else 0
      match digitRun Char.isDigit (cs.drop under) with
      | 0 => lead + 1
      | n => lead + 1 + under + n
    else lead
  | [] => lead

/-- The length of a decimal number. -/
def decimalLength (text : Text) : Nat :=
  let digits := withBigMark text (digitRun Char.isDigit text)
  let whole := wholeLength text
  let pointed :=
    match text.drop whole with
    | '.' :: cs =>
      let fraction := digitRun Char.isDigit cs
      if whole = 0 && fraction = 0 then 0
      else whole + 1 + fraction + exponentLength (cs.drop fraction)
    | cs => if whole ≠ 0 && exponentLength cs ≠ 0 then whole + exponentLength cs else 0
  max digits pointed

/-- The length of a number in another base, after its mark. -/
def basedLength (isDigit : Char → Bool) (text : Text) : Nat :=
  match digitRun isDigit text with
  | 0 => 0
  | n => 2 + withBigMark text n

/-- The number of characters of the number that a text begins with. -/
def numberLength? (text : Text) : Option Nat :=
  let based := match text with
    | '0' :: c :: cs =>
      if c = 'x' || c = 'X' then basedLength isHexDigit cs
      else if c = 'b' || c = 'B' then basedLength (fun d => d = '0' || d = '1') cs
      else if c = 'o' || c = 'O' then basedLength isOctalDigit cs
      else 0
    | _ => 0
  match max based (decimalLength text) with
  | 0 => none
  | n => some n

/-- Reads a number. -/
def numberLiteral : Reader Tree := literal .other numberLength?

/-! ### Regular expressions -/

/-- The number of characters of a pattern that go on with this text, up to and including the closing
slash; `inClass` tells whether a bracket is open. -/
def patternTailLength? : (inClass : Bool) → Text → Option Nat
  | _, [] => none
  | _, ['\\'] => none
  | inClass, '\\' :: c :: cs =>
    if c = '\n' then none else (patternTailLength? inClass cs).map (· + 2)
  | inClass, c :: cs =>
    if c = '\n' then none
    else if inClass then (patternTailLength? (c ≠ ']') cs).map (· + 1)
    else if c = '/' then some 1
    else (patternTailLength? (c = '[') cs).map (· + 1)

/-- The number of characters of the regular expression that a text begins with. -/
def regexLength? : Text → Option Nat
  | '/' :: c :: cs =>
    if c = '/' || c = '*' then none
    else match patternTailLength? false (c :: cs) with
      | some n => some (1 + n + (((c :: cs).drop n).takeWhile fun d => 'a' ≤ d && d ≤ 'z').length)
      | none => none
  | _ => none

/-- Reads a regular expression. -/
def regexLiteral : Reader Tree := literal .other regexLength?

end Script

end ComponentFile
