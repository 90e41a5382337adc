import ComponentFile.Markup.Tag

/-!
The top-level elements of a document.

Nothing below the top level is interpreted. The content of a `script` or `style` element is raw and
ends at the first close tag of that name (`firstClose?`); in any other element the tags of the same
name are counted, so that a `template` that holds a `template` closes at its own tag
(`balancedClose?`).

`scan` walks the document from construct to construct. An opening tag that is never finished, or an
element that is never closed, is passed over as text, so that it does not hide what follows. A
comment that is never closed ends the scan.
-/

namespace ComponentFile

namespace Markup

/-! ### Where an element closes -/

/-- The elements whose content is raw text. -/
def rawTextElements : List Text := ["script", "style"]

/-- Whether an element of this name holds raw text. -/
def isRawText (name : Text) : Bool := rawTextElements.any (sameName name)

/-- What lies between an opening tag and its close tag, and the close tag. -/
structure Closing where
  /-- The text before the close tag. -/
  content : Text
  /-- The close tag itself. -/
  tag : Text
  deriving DecidableEq, Repr

/-- One more character of content. -/
def Closing.push (c : Char) (closing : Closing) : Closing :=
  { closing with content := c :: closing.content }

/-- The first close tag of the given name. -/
def firstClose? (name : Text) : Text → Option Closing
  | [] => none
  | c :: cs =>
    match closeTag? name (c :: cs) with
    | some tag => some ⟨[], tag⟩
    | none => (firstClose? name cs).map (.push c)

/-- The first close tag of the given name at depth zero. `depth` counts the elements of that name
which are open, and `passed` the characters that belong to a construct already looked at. -/
def balancedClose? (name : Text) : (depth passed : Nat) → Text → Option Closing
  | _, _, [] => none
  | depth, passed + 1, c :: cs => (balancedClose? name depth passed cs).map (.push c)
  | depth, 0, c :: cs =>
    if opensComment (c :: cs) then
      match comment? (c :: cs) with
      | none => none
      | some comment => (balancedClose? name depth (comment.length - 1) cs).map (.push c)
    else match closeTag? name (c :: cs) with
      | some tag =>
        match depth with
        | 0 => some ⟨[], tag⟩
        | depth + 1 => (balancedClose? name depth (tag.length - 1) cs).map (.push c)
      | none =>
        if opensTag name (c :: cs) then
          match OpenTag.read? (c :: cs) with
          | some tag =>
            let depth := if tag.selfClosing then depth else depth + 1
            (balancedClose? name depth (tag.text.length - 1) cs).map (.push c)
          | none => (balancedClose? name depth 0 cs).map (.push c)
        else (balancedClose? name depth 0 cs).map (.push c)

/-- Where an element closes that was opened by `tag`, given the text after the tag. -/
def closing? (tag : OpenTag) (rest : Text) : Option Closing :=
  if tag.selfClosing then some ⟨[], []⟩
  else if isRawText tag.name then firstClose? tag.name rest
  else balancedClose? tag.name 0 0 rest

/-! ### Constructs -/

/-- What a document holds at one point of its top level. -/
inductive Construct where
  /-- A character of no importance. -/
  | plain
  /-- A comment, a declaration, an instruction or a stray close tag. -/
  | aside (text : Text)
  /-- A comment or the like that never ends. -/
  | endless
  /-- An element. -/
  | element (tag : OpenTag) (closing : Closing)
  deriving DecidableEq, Repr

/-- An aside, or an endless one. -/
def Construct.ofAside? : Option Text → Construct
  | some text => .aside text
  | none => .endless

/-- The element that a text begins with; anything else is plain. -/
def Construct.ofElement (text : Text) : Construct :=
  match OpenTag.read? text with
  | none => .plain
  | some tag =>
    match closing? tag (text.drop tag.text.length) with
    | none => .plain
    | some closing => .element tag closing

/-- Whether a text begins with `<` and an ASCII letter. -/
def opensElement : Text → Bool
  | '<' :: c :: _ => c.isAlpha
  | _ => false

/-- The construct that a text begins with. -/
def Construct.read (text : Text) : Construct :=
  if opensComment text then .ofAside? (comment? text)
  else if opensAside text then .ofAside? (aside? text)
  else if opensElement text then .ofElement text
  else .plain

/-! ### Scanning -/

/-- A top-level element with its byte offsets. -/
structure Element where
  /-- The tag name as written. -/
  name : Text
  /-- What stands between the name and the closing `>` or `/>`, trimmed. -/
  rawAttributes : Text
  /-- What stands between the tags. -/
  content : Text
  /-- The offset of the opening `<`. -/
  start : Nat
  /-- The offset just past the opening tag. -/
  contentStart : Nat
  /-- The offset of the close tag. -/
  contentStop : Nat
  /-- The offset just past the close tag. -/
  stop : Nat
  /-- Whether the element is written `<name ... />` and has no close tag. -/
  selfClosing : Bool
  deriving DecidableEq, Repr

/-- The element of the given tag and closing that begins at an offset. -/
def Element.build (start : Nat) (tag : OpenTag) (closing : Closing) : Element where
  name := tag.name
  rawAttributes := tag.rawAttributes
  content := closing.content
  start := start
  contentStart := start + tag.text.bytes
  contentStop := start + tag.text.bytes + closing.content.bytes
  stop := start + tag.text.bytes + closing.content.bytes + closing.tag.bytes
  selfClosing := tag.selfClosing

/-- Whether an element has the given name, in any letter case. -/
def Element.isNamed (element : Element) (name : Text) : Bool := sameName element.name name

/-- The elements of a text that begins at `offset`, of which `passed` characters belong to a
construct already looked at. -/
def scanFrom : (offset passed : Nat) → Text → List Element
  | _, _, [] => []
  | offset, passed + 1, c :: cs => scanFrom (offset + c.utf8Size) passed cs
  | offset, 0, c :: cs =>
    match Construct.read (c :: cs) with
    | .plain => scanFrom (offset + c.utf8Size) 0 cs
    | .aside text => scanFrom (offset + c.utf8Size) (text.length - 1) cs
    | .endless => []
    | .element tag closing =>
      let length := tag.text.length + closing.content.length + closing.tag.length
      .build offset tag closing :: scanFrom (offset + c.utf8Size) (length - 1) cs

/-- The top-level elements of a document, in order. -/
def scan (text : Text) : List Element := scanFrom 0 0 text

end Markup

end ComponentFile
