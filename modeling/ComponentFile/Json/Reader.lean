import ComponentFile.Json.Basic

/-!
Reading JSON.

`Json.parse` accepts exactly one value with blanks around it. A reader takes the text from where it
stands and answers with what it read and the text after it. Strings come out decoded, with pairs of
surrogate escapes joined; a surrogate on its own is refused.
-/

namespace ComponentFile

namespace Json

/-! ### Blanks and digits -/

/-- The blanks between the tokens of JSON. -/
def isGap (c : Char) : Bool := c = ' ' || c = '\t' || c = '\n' || c = '\r'

/-- The text without leading blanks. -/
def skipGap (text : Text) : Text := text.dropWhile isGap

/-- The value of a decimal digit. -/
def digitValue (c : Char) : Nat := c.toNat - '0'.toNat

/-- The number that decimal digits denote. -/
def decimalValue (digits : Text) : Nat := digits.foldl (fun n c => 10 * n + digitValue c) 0

/-- The value of a hexadecimal digit. -/
def hexDigit? (c : Char) : Option Nat :=
  if c.isDigit then some (c.toNat - '0'.toNat)
  else if 'a' ≤ c ∧ c ≤ 'f' then some (c.toNat - 'a'.toNat + 10)
  else if 'A' ≤ c ∧ c ≤ 'F' then some (c.toNat - 'A'.toNat + 10)
  else none

/-- The code unit that four hexadecimal digits denote, and the text after them. -/
def readUnit? : Text → Option (Nat × Text)
  | a :: b :: c :: d :: rest => do
    let a ← hexDigit? a
    let b ← hexDigit? b
    let c ← hexDigit? c
    let d ← hexDigit? d
    some (((a * 16 + b) * 16 + c) * 16 + d, rest)
  | _ => none

/-! ### Strings -/

/-- The character that a simple escape stands for. -/
def simpleEscape? : Char → Option Char
  | '"' => some '"'
  | '\\' => some '\\'
  | '/' => some '/'
  | 'b' => some '\x08'
  | 'f' => some '\x0c'
  | 'n' => some '\n'
  | 'r' => some '\r'
  | 't' => some '\t'
  | _ => none

/-- The character after a backslash and `u`, joining a pair of surrogates. -/
def readEscaped? (text : Text) : Option (Char × Text) :=
  match readUnit? text with
  | none => none
  | some (unit, rest) =>
    if 0xD800 ≤ unit ∧ unit < 0xDC00 then
      match rest with
      | '\\' :: 'u' :: rest =>
        match readUnit? rest with
        | none => none
        | some (low, rest) =>
          if 0xDC00 ≤ low ∧ low < 0xE000 then
            some (Char.ofNat (0x10000 + (unit - 0xD800) * 0x400 + (low - 0xDC00)), rest)
          else none
      | _ => none
    else if 0xDC00 ≤ unit ∧ unit < 0xE000 then none
    else some (Char.ofNat unit, rest)

/-- The characters of a string up to its closing quote; at most `fuel` of them. -/
def readString? : (fuel : Nat) → Text → Option (Text × Text)
  | 0, _ => none
  | _ + 1, [] => none
  | fuel + 1, c :: cs =>
    if c = '"' then some ([], cs)
    else if c = '\\' then
      match cs with
      | 'u' :: cs => do
        let (d, rest) ← readEscaped? cs
        let (tail, rest) ← readString? fuel rest
        some (d :: tail, rest)
      | e :: cs => do
        let d ← simpleEscape? e
        let (tail, rest) ← readString? fuel cs
        some (d :: tail, rest)
      | [] => none
    else if c.toNat < 0x20 then none
    else do
      let (tail, rest) ← readString? fuel cs
      some (c :: tail, rest)

/-! ### Numbers -/

/-- The exponent of a number, and the text after it; no exponent is zero. -/
def readExponent? : Text → Option (Option Int × Text)
  | c :: cs =>
    if c = 'e' || c = 'E' then
      let (negative, cs) : Bool × Text := match cs with
        | '+' :: cs => (false, cs)
        | '-' :: cs => (true, cs)
        | cs => (false, cs)
      let digits := cs.takeWhile Char.isDigit
      if digits.isEmpty then none
      else
        let value : Int := decimalValue digits
        some (some (if negative then -value else value), cs.dropWhile Char.isDigit)
    else some (none, c :: cs)
  | [] => some (none, [])

/-- The digits after the point of a number, and the text after them. -/
def readFraction? : Text → Option (Option Text × Text)
  | '.' :: cs =>
    let digits := cs.takeWhile Char.isDigit
    if digits.isEmpty then none else some (some digits, cs.dropWhile Char.isDigit)
  | cs => some (none, cs)

/-- The number of the given parts. -/
def Number.build (negative : Bool) (whole : Text) (fraction : Option Text) (exponent : Option Int) :
    Number :=
  let value : Int := decimalValue whole
  let value := if negative then -value else value
  if fraction.isNone && exponent.isNone && !(negative && value = 0)
      && -(Int.pow 2 63) ≤ value && value < Int.pow 2 64 then .integer value
  else
    let fraction := fraction.getD []
    .decimal negative (decimalValue (whole ++ fraction)) (exponent.getD 0 - fraction.length)

/-- The number that a text begins with. -/
def readNumber? (text : Text) : Option (Number × Text) := do
  let (negative, text) : Bool × Text := match text with
    | '-' :: cs => (true, cs)
    | cs => (false, cs)
  let whole := text.takeWhile Char.isDigit
  if whole.isEmpty || (whole.head? = some '0' && whole.length > 1) then none
  else
    let (fraction, rest) ← readFraction? (text.dropWhile Char.isDigit)
    let (exponent, rest) ← readExponent? rest
    some (.build negative whole fraction exponent, rest)

/-! ### Values -/

/-- What follows a word that a text must begin with. -/
def expect? (word text : Text) : Option Text :=
  if word.isPrefixOf text then some (text.drop word.length) else none

mutual

/-- The value that a text begins with. -/
def readValue? : (fuel : Nat) → Text → Option (Json × Text)
  | 0, _ => none
  | fuel + 1, text =>
    match skipGap text with
    | [] => none
    | '"' :: cs => do
      let (s, rest) ← readString? (cs.length + 1) cs
      some (.string s, rest)
    | '[' :: cs =>
      match skipGap cs with
      | ']' :: rest => some (.array [], rest)
      | cs => do
        let (items, rest) ← readItems? fuel cs
        some (.array items, rest)
    | '\x7b' :: cs =>
      match skipGap cs with
      | '\x7d' :: rest => some (.object [], rest)
      | cs => do
        let (members, rest) ← readMembers? fuel [] cs
        some (.object members, rest)
    | 'n' :: cs => (expect? "ull" cs).map fun rest => (.null, rest)
    | 't' :: cs => (expect? "rue" cs).map fun rest => (.bool true, rest)
    | 'f' :: cs => (expect? "alse" cs).map fun rest => (.bool false, rest)
    | cs => (readNumber? cs).map fun (n, rest) => (.number n, rest)

/-- The items of an array up to its closing bracket. -/
def readItems? : (fuel : Nat) → Text → Option (List Json × Text)
  | 0, _ => none
  | fuel + 1, text => do
    let (item, rest) ← readValue? fuel text
    match skipGap rest with
    | ']' :: rest => some ([item], rest)
    | ',' :: rest =>
      let (items, rest) ← readItems? fuel rest
      some (item :: items, rest)
    | _ => none

/-- The members of an object up to its closing brace, added to those already read. -/
def readMembers? : (fuel : Nat) → List (Text × Json) → Text → Option (List (Text × Json) × Text)
  | 0, _, _ => none
  | fuel + 1, members, text =>
    match skipGap text with
    | '"' :: cs => do
      let (key, rest) ← readString? (cs.length + 1) cs
      match skipGap rest with
      | ':' :: rest =>
        let (value, rest) ← readValue? fuel rest
        let members := insertMember key value members
        match skipGap rest with
        | '\x7d' :: rest => some (members, rest)
        | ',' :: rest => readMembers? fuel members rest
        | _ => none
      | _ => none
    | _ => none

end

/-- The JSON value that a text denotes. -/
def parse (text : Text) : Option Json :=
  match readValue? (2 * text.length + 2) text with
  | some (value, rest) => if (skipGap rest).isEmpty then some value else none
  | none => none

end Json

end ComponentFile
