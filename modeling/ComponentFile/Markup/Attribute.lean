import ComponentFile.Text.Blank

/-!
The attributes of an opening tag.

`Attribute.parse` reads an attribute list in any order and with any quoting: a name is everything up
to a blank or `=`, a value stands in double quotes, in single quotes or unquoted. It answers for
every text: a quote that is never closed runs to the end, and a `=` without a name before it is
skipped together with its value.
-/

namespace ComponentFile

namespace Markup

/-- An attribute; a bare one has no value. -/
structure Attribute where
  /-- The name as written. -/
  name : Text
  /-- The value without its quotes. -/
  value : Option Text
  deriving DecidableEq, Repr

namespace Attribute

/-- Whether a character may stand in an attribute name. -/
def isNameChar (c : Char) : Bool := !(Text.isBlank c || c = '=')

/-- The value at the front of a text, and the text after it. -/
def readValue : Text → Text × Text
  | [] => ([], [])
  | c :: cs =>
    if c = '"' || c = '\'' then (cs.takeWhile (· != c), (cs.dropWhile (· != c)).tail)
    else ((c :: cs).takeWhile (!Text.isBlank ·), (c :: cs).dropWhile (!Text.isBlank ·))

/-- The value that `=` introduces at the front of a text, if any, and the text after it. -/
def readAssignment : Text → Option Text × Text
  | '=' :: cs =>
    let (value, rest) := readValue (Text.trimStart cs)
    (some value, rest)
  | cs => (none, cs)

/-- Reads at most `fuel` attributes. -/
def parseSteps : (fuel : Nat) → Text → List Attribute
  | 0, _ => []
  | fuel + 1, text =>
    match text.trimStart with
    | [] => []
    | c :: cs =>
      let name := (c :: cs).takeWhile isNameChar
      let (value, rest) := readAssignment (Text.trimStart ((c :: cs).dropWhile isNameChar))
      if name.isEmpty then parseSteps fuel rest
      else ⟨name, value⟩ :: parseSteps fuel rest

/-- The attributes of a tag, in order. Each step reads at least one character. -/
def parse (raw : Text) : List Attribute := parseSteps raw.length raw

end Attribute

end Markup

end ComponentFile
