import ComponentFile.Text.Blank

/-!
The tags of markup, read off the front of a text.

An opening tag runs to the first `>` outside quotes (`OpenTag.read?`); a `<` outside quotes means
that the tag was never finished. A close tag is `</`, the name in any letter case, blanks and `>`
(`closeTag?`). Readers answer with the text of the tag, whose length says how much was read.
-/

namespace ComponentFile

namespace Markup

/-! ### Names -/

/-- Whether a character may stand in a tag name. -/
def isNameChar (c : Char) : Bool :=
  c.isAlphanum || c = '-' || c = '_' || c = ':' || c = '.'

/-- Whether two tag names agree up to the case of ASCII letters. -/
def sameName (a b : Text) : Bool := a.map Char.toLower == b.map Char.toLower

/-! ### Opening tags -/

/-- An opening tag. -/
structure OpenTag where
  /-- The tag name as written. -/
  name : Text
  /-- What stands between the name and the closing `>` or `/>`, trimmed. -/
  rawAttributes : Text
  /-- Whether the tag is written `<name ... />`. -/
  selfClosing : Bool
  /-- The whole tag. -/
  text : Text
  deriving DecidableEq, Repr

/-- The inside of a tag up to its closing `>`. The first argument is the quote that is open, if
any: inside quotes a `>` is text. -/
def tagBody? : Option Char → Text → Option Text
  | _, [] => none
  | some quote, c :: cs => (tagBody? (if c = quote then none else some quote) cs).map (c :: ·)
  | none, c :: cs =>
    if c = '>' then some []
    else if c = '<' then none
    else if c = '"' || c = '\'' then (tagBody? (some c) cs).map (c :: ·)
    else (tagBody? none cs).map (c :: ·)

/-- The opening tag that a text begins with. -/
def OpenTag.read? : Text → Option OpenTag
  | '<' :: cs =>
    let name := cs.takeWhile isNameChar
    if name.isEmpty then none
    else (tagBody? none (cs.dropWhile isNameChar)).map fun body =>
      let selfClosing := body.getLast? = some '/'
      { name
        rawAttributes := Text.trim (if selfClosing then body.dropLast else body)
        selfClosing
        text := '<' :: name ++ body ++ ['>'] }
  | _ => none

/-- Whether a text begins with `<`, the given name and an end of that name. -/
def opensTag (name : Text) : Text → Bool
  | '<' :: cs =>
    sameName name (cs.take name.length) &&
      match cs.drop name.length with
      | c :: _ => Text.isMarkupBlank c || c = '>' || c = '/'
      | [] => false
  | _ => false

/-! ### Close tags -/

/-- The close tag of the given name that a text begins with. -/
def closeTag? (name : Text) : Text → Option Text
  | '<' :: '/' :: cs =>
    if sameName name (cs.take name.length) then
      let tail := cs.drop name.length
      match tail.dropWhile Text.isMarkupBlank with
      | '>' :: _ =>
        some ('<' :: '/' :: cs.take name.length ++ tail.takeWhile Text.isMarkupBlank ++ ['>'])
      | _ => none
    else none
  | _ => none

/-! ### Comments and other asides -/

/-- A text up to and including the first occurrence of `mark`. -/
def through? (mark text : Text) : Option Text :=
  (Text.splitAt? mark text).map fun (before, _) => before ++ mark

/-- Whether a text begins with a comment, finished or not. -/
def opensComment (text : Text) : Bool := "<!--".toList.isPrefixOf text

/-- The comment that a text begins with; the closing `-->` may share its dashes with the opening. -/
def comment? (text : Text) : Option Text := through? "-->" text

/-- Whether a text begins with a declaration, an instruction or a stray close tag. -/
def opensAside : Text → Bool
  | '<' :: c :: _ => c = '!' || c = '?' || c = '/'
  | _ => false

/-- The declaration, instruction or stray close tag that a text begins with. -/
def aside? (text : Text) : Option Text := through? ">" text

end Markup

end ComponentFile
