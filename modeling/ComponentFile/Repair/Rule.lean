/-!
Rules: how the grammar of scripts is written down as data.

The readers of well-formed scripts give up at the first fault. To say where a broken script goes
wrong, the grammar itself has to be looked at: which tokens could come next, and what would be
complete by then. So it is written down a second time, as a list of `Part`s, each with a `Rule`.

A rule may carry what decides between two readings of the same text: a `Rank` among other rules, a
`Side` to lean to between equals, and a weight that counts only when whole readings are compared.
-/

namespace ComponentFile

namespace Repair

/-- A kind of token. -/
inductive Terminal where
  /-- The end of the script. -/
  | stop
  /-- A name. -/
  | identifier
  /-- A first line for the operating system. -/
  | hashBang
  /-- Punctuation. -/
  | mark (text : String)
  /-- A reserved word. -/
  | word (text : String)
  /-- Characters of a string in double quotes. -/
  | doubleQuoted
  /-- Characters of a string in single quotes. -/
  | singleQuoted
  /-- An escape in a string or template. -/
  | escape
  /-- A comment. -/
  | comment
  /-- The slash that ends a regular expression. -/
  | patternEnd
  /-- What stands between the slashes of a regular expression. -/
  | patternBody
  /-- The letters after a regular expression. -/
  | patternFlags
  /-- A number. -/
  | number
  /-- A private name. -/
  | privateName
  /-- The end of a statement without a semicolon; it covers no text. -/
  | lineEnd
  /-- Characters of a template. -/
  | templateChars
  /-- The question mark of a condition. -/
  | questionMark
  /-- A comment as in pages. -/
  | pageComment
  /-- The end of a function without a body. It is never found in a text, but where it is possible a
  brace on the next line belongs to the function. -/
  | signatureEnd
  deriving DecidableEq, Hashable, Repr

namespace Terminal

/-- The token of a text that stands for itself: a word or a mark. -/
def ofString (text : String) : Terminal :=
  if text.toList.all Char.isAlpha then .word text else .mark text

/-- What a token is called when it is missing. -/
def name : Terminal → String
  | .stop => "end"
  | .identifier => "identifier"
  | .hashBang => "hash_bang_line"
  | .mark text => text
  | .word text => text
  | .doubleQuoted => "unescaped_double_string_fragment"
  | .singleQuoted => "unescaped_single_string_fragment"
  | .escape => "escape_sequence"
  | .comment => "comment"
  | .patternEnd => "/"
  | .patternBody => "regex_pattern"
  | .patternFlags => "regex_flags"
  | .number => "number"
  | .privateName => "private_property_identifier"
  | .lineEnd => "_automatic_semicolon"
  | .templateChars => "_template_chars"
  | .questionMark => "_ternary_qmark"
  | .pageComment => "html_comment"
  | .signatureEnd => "_function_signature_automatic_semicolon"

/-- Whether a token is shown in trees. -/
def isShown : Terminal → Bool
  | .lineEnd => false
  | .templateChars => false
  | .questionMark => false
  | .signatureEnd => false
  | _ => true

/-- Whether a token has the characters of a name. -/
def isNameLike : Terminal → Bool
  | .identifier => true
  | .word _ => true
  | _ => false

end Terminal

/-- The rank of a rule among others. -/
inductive Rank where
  /-- A number: the higher one wins. -/
  | level (value : Int)
  /-- A name in the lists of ranks. -/
  | named (name : String)
  deriving DecidableEq, Hashable, Repr

/-- Which reading wins between equal ranks. -/
inductive Side where
  /-- What stands on the left is complete. -/
  | left
  /-- What stands on the left goes on. -/
  | right
  deriving DecidableEq, Hashable, Repr

/-- A rule of the grammar. -/
inductive Rule where
  /-- A token. -/
  | token (terminal : Terminal)
  /-- A part of the grammar, by name. -/
  | part (name : String)
  /-- One rule after the other. -/
  | seq (rules : List Rule)
  /-- One of several rules. -/
  | choice (rules : List Rule)
  /-- A rule, one or more times. -/
  | rep1 (rule : Rule)
  /-- A rule with a rank, a side or both. -/
  | rated (rank : Option Rank) (side : Option Side) (rule : Rule)
  /-- A rule with a weight. -/
  | weighted (weight : Int) (rule : Rule)
  /-- A rule whose parts appear under another name. -/
  | renamed (name : String) (rule : Rule)
  deriving BEq, Repr

namespace Rule

/-- A text stands for itself. -/
def ofString (text : String) : Rule := .token (.ofString text)

instance : Coe String Rule := ⟨ofString⟩

/-- Nothing at all. -/
def blank : Rule := .seq []

/-- A rule or nothing. -/
def opt (rule : Rule) : Rule := .choice [rule, blank]

/-- A rule any number of times. -/
def rep (rule : Rule) : Rule := opt (.rep1 rule)

/-- A rule at least once, with commas between. -/
def commaSep1 (rule : Rule) : Rule := .seq [rule, rep (.seq [",", rule])]

/-- A rule any number of times, with commas between. -/
def commaSep (rule : Rule) : Rule := opt (commaSep1 rule)

/-- A rule with a named rank. -/
def ranked (name : String) (rule : Rule) : Rule := .rated (some (.named name)) none rule

/-- A rule with a number for its rank. -/
def level (value : Int) (rule : Rule) : Rule := .rated (some (.level value)) none rule

/-- A rule of rank zero that leans to the left. -/
def leftward (rule : Rule) : Rule := .rated (some (.level 0)) (some .left) rule

/-- A rule of rank zero that leans to the right. -/
def rightward (rule : Rule) : Rule := .rated (some (.level 0)) (some .right) rule

/-- A rule with a named rank that leans to the left. -/
def leftRanked (name : String) (rule : Rule) : Rule :=
  .rated (some (.named name)) (some .left) rule

/-- A rule with a named rank that leans to the right. -/
def rightRanked (name : String) (rule : Rule) : Rule :=
  .rated (some (.named name)) (some .right) rule

end Rule

/-- A part of the grammar. -/
structure Part where
  /-- Its name. -/
  name : String
  /-- Whether it is shown in trees. -/
  isShown : Bool
  /-- What it consists of. -/
  rule : Rule

/-- A part that is shown in trees. -/
def shown (name : String) (rule : Rule) : Part := ⟨name, true, rule⟩

/-- A part whose children appear in its place. -/
def hidden (name : String) (rule : Rule) : Part := ⟨name, false, rule⟩

end Repair

end ComponentFile
