import ComponentFile.Text.Blank

/-!
Formatting fixes for one line of template markup.

* `selfClosingFix?` writes `<Name attrs></Name>` as `<Name attrs />`.
* `multiLineFix?` puts each attribute of an element on a line of its own.

Which reading of a line is taken when several fit is part of the rule: names are tried in order, an
attribute is read as long as possible, a quoted value is tried before an unquoted one, and the
content of an element is as short as possible.
-/

namespace ComponentFile

namespace QuickFix

/-! ### Elements on offer -/

/-- The elements besides components whose attributes can be put on lines of their own. -/
def formattableElements : List Text :=
  ["main", "section", "div", "a", "header", "footer", "nav", "ul", "li", "button", "form", "input",
    "img", "component", "RouterLink", "RouterView"]

/-- The names that are not empty. -/
def proper (names : List Text) : List Text := names.filter (!·.isEmpty)

/-- What follows a word that a text must begin with. -/
def after? (word text : Text) : Option Text :=
  if word.isPrefixOf text then some (text.drop word.length) else none

/-- Whether a character may stand in the name of a close tag. -/
def isCloserChar (c : Char) : Bool := !(c = '>' || Text.isBlank c)

/-- A close tag after its `</`: the name, and the text after the tag. -/
def readCloser? (text : Text) : Option (Text × Text) :=
  let name := text.takeWhile isCloserChar
  if name.isEmpty then none
  else match Text.trimStart (text.dropWhile isCloserChar) with
    | '>' :: rest => some (name, rest)
    | _ => none

/-! ### Self-closing elements -/

/-- The text from a blank up to the first `>`; nothing if it does not begin with a blank. -/
def blankRun : Text → Text
  | [] => []
  | c :: cs => if Text.isBlank c then c :: cs.takeWhile (· != '>') else []

/-- An element without content after its `<`: what stands between the name and `>`, and the name in
the close tag. -/
def readEmptyElement? (name text : Text) : Option (Text × Text) := do
  let rest ← after? name text
  let attributes := blankRun rest
  let rest ← after? "></" (rest.drop attributes.length)
  let (closer, _) ← readCloser? rest
  some (attributes, closer)

/-- The line with its element written in self-closing form. -/
def selfClosingFix? (line : Text) (components : List Text) : Option Text :=
  let indentation := line.takeWhile Text.isBlank
  match line.dropWhile Text.isBlank with
  | '<' :: text => do
    let (name, attributes, closer) ← (proper ("component" :: components)).findSome? fun name =>
      (readEmptyElement? name text).map (name, ·)
    if closer = name then
      some (indentation ++ '<' :: name ++ Text.trimEnd attributes ++ " />".toList)
    else none
  | _ => none

/-! ### Attributes -/

/-- Whether a character may stand in an attribute name. -/
def isKeyChar (c : Char) : Bool := !(Text.isBlank c || c = '=' || c = '/' || c = '>')

/-- Whether a character may stand in an unquoted value. -/
def isBareChar (c : Char) : Bool := !(Text.isBlank c || c = '>')

/-- A value in quotes: the value, and the text after the closing quote. -/
def readQuoted? (quote : Char) : Text → Option (Text × Text)
  | [] => none
  | c :: cs =>
    if c = quote then
      match cs.dropWhile (· != quote) with
      | [] => none
      | _ :: rest => some (cs.takeWhile (· != quote), rest)
    else none

/-- All non-empty beginnings of a run of unquoted characters, the longest first, each given by the
text after it. -/
def bareRests : Text → List Text
  | [] => []
  | c :: cs => if isBareChar c then bareRests cs ++ [cs] else []

/-- The text after `=` and the blanks around it. -/
def afterEquals? (text : Text) : Option Text :=
  match Text.trimStart text with
  | '=' :: rest => some (Text.trimStart rest)
  | _ => none

/-- The texts after each reading of a value, the preferred reading first. -/
def valueRests (text : Text) : List Text :=
  ((readQuoted? '"' text).map (·.2)).toList ++ ((readQuoted? '\'' text).map (·.2)).toList
    ++ bareRests text

/-- The texts after each reading of one attribute with the blanks before it, the preferred reading
first. -/
def attributeRests (text : Text) : List Text :=
  let key := (Text.trimStart text).takeWhile isKeyChar
  if (text.takeWhile Text.isBlank).isEmpty || key.isEmpty then []
  else
    let rest := (Text.trimStart text).dropWhile isKeyChar
    ((afterEquals? rest).map valueRests).getD [] ++ [rest]

/-! ### The end of a tag -/

/-- How an element goes on after its attributes. -/
inductive Ending where
  /-- The line ends there, or after `>`. -/
  | opened
  /-- The tag ends with `/>` and the line with it. -/
  | selfClosed
  /-- There is content and a close tag of the given name. -/
  | closed (content closer : Text)
  deriving DecidableEq, Repr

/-- The shortest content without line feeds before a close tag that ends the text. -/
def contentToEnd? : Text → Option (Text × Text)
  | [] => none
  | c :: cs =>
    match (after? "</" (c :: cs)).bind readCloser? with
    | some (closer, []) => some ([], closer)
    | _ =>
      if c = '\n' then none
      else (contentToEnd? cs).map fun (content, closer) => (c :: content, closer)

/-- The ending that the rest of a line shows. -/
def Ending.read? (text : Text) : Option Ending :=
  match Text.trimStart text with
  | [] => some .opened
  | ['>'] => some .opened
  | ['/', '>'] => some .selfClosed
  | '>' :: rest => (contentToEnd? rest).map fun (content, closer) => .closed content closer
  | _ => none

/-! ### Elements with attributes -/

/-- A point of the search for the end of the attributes. -/
inductive Task where
  /-- Read another attribute if possible, else stop. -/
  | extend (rest : Text)
  /-- The attributes end here. -/
  | stop (rest : Text)

/-- Searches depth first for the attributes that leave a proper ending. Points are told apart by
the length of the text after them, and each one is extended once. The answer is the text after the
attributes and the ending it shows. -/
def search : (fuel : Nat) → (seen : List Nat) → List Task → Option (Text × Ending)
  | 0, _, _ => none
  | _ + 1, _, [] => none
  | fuel + 1, seen, .stop rest :: tasks =>
    match Ending.read? rest with
    | some ending => some (rest, ending)
    | none => search fuel seen tasks
  | fuel + 1, seen, .extend rest :: tasks =>
    if seen.contains rest.length then search fuel seen tasks
    else
      search fuel (rest.length :: seen) ((attributeRests rest).map .extend ++ .stop rest :: tasks)

/-- A number of steps that suffices for a text of the given length. -/
def searchFuel (length : Nat) : Nat := (length + 2) * (length + 4)

/-- An element with at least one attribute after its name: the text of the attributes, and the
ending. -/
def readAttributed? (text : Text) : Option (Text × Ending) :=
  (search (searchFuel text.length) [] ((attributeRests text).map .extend)).map fun (rest, ending) =>
    (text.take (text.length - rest.length), ending)

/-! ### Attributes on lines of their own -/

/-- The value of an attribute, and the text after it; no value is an empty one. -/
def readValue (text : Text) : Text × Text :=
  match afterEquals? text with
  | none => ([], text)
  | some value =>
    match readQuoted? '"' value with
    | some answer => answer
    | none =>
      match readQuoted? '\'' value with
      | some answer => answer
      | none =>
        let bare := value.takeWhile isBareChar
        if bare.isEmpty then ([], text) else (bare, value.dropWhile isBareChar)

/-- The attributes of a text, with the value of each; anything that begins no attribute is
skipped. -/
def splitAttributes : (fuel : Nat) → Text → List (Text × Text)
  | 0, _ => []
  | _ + 1, [] => []
  | fuel + 1, c :: cs =>
    if isKeyChar c then
      let (value, rest) := readValue ((c :: cs).dropWhile isKeyChar)
      ((c :: cs).takeWhile isKeyChar, value) :: splitAttributes fuel rest
    else splitAttributes fuel cs

/-- An attribute on a line of its own. -/
def attributeLine (pair : Text × Text) : Text :=
  if pair.2.isEmpty then '\t' :: pair.1
  else '\t' :: pair.1 ++ "=\"".toList ++ pair.2 ++ "\"".toList

/-- The lines of all attributes. -/
def attributeLines (attributes : Text) : Text :=
  Text.join "\n" ((splitAttributes attributes.length attributes).map attributeLine)

/-- The element with its attributes on lines of their own, not yet indented. -/
def layout (name attributes : Text) : Ending → Text
  | .opened => '<' :: name ++ '\n' :: attributeLines attributes ++ "\n>".toList
  | .selfClosed => '<' :: name ++ '\n' :: attributeLines attributes ++ "\n/>".toList
  | .closed content _ =>
    '<' :: name ++ '\n' :: attributeLines attributes ++ "\n>\n\t".toList ++ content ++ "\n</".toList
      ++ name ++ ">".toList

/-- Whether the close tag, if there is one, bears the name of the element. -/
def Ending.fits (name : Text) : Ending → Bool
  | .closed _ closer => closer = name
  | _ => true

/-- The line with the attributes of its element on lines of their own. -/
def multiLineFix? (line : Text) (components : List Text) : Option Text :=
  let indentation := line.takeWhile Text.isBlank
  match line.dropWhile Text.isBlank with
  | '<' :: text => do
    let (name, attributes, ending) ←
      (proper (formattableElements ++ components)).findSome? fun name =>
        ((after? name text).bind readAttributed?).map (name, ·)
    if ending.fits name then
      some (Text.join "\n" ((layout name attributes ending).lines.map (indentation ++ ·)))
    else none
  | _ => none

end QuickFix

/-! ### Fixes on offer -/

/-- A replacement for a whole line. -/
structure QuickFix where
  /-- What the fix is called. -/
  title : Text
  /-- The new text of the line. -/
  replacement : Text
  deriving DecidableEq, Repr

/-- The line without the carriage returns at its end. -/
def QuickFix.withoutReturns (line : Text) : Text := (line.reverse.dropWhile (· = '\r')).reverse

/-- The fixes on offer for a line. -/
def quickFixes (line : Text) (components : List Text) : List QuickFix :=
  let line := QuickFix.withoutReturns line
  ((QuickFix.selfClosingFix? line components).map (⟨"Format as self-closing", ·⟩)).toList
    ++ ((QuickFix.multiLineFix? line components).map (⟨"Format as multi-line", ·⟩)).toList

end ComponentFile
