import ComponentFile.Text.Basic

/-!
Absolute resource identifiers: a scheme, an optional authority, a path, an optional query and an
optional fragment, in ASCII with percent escapes. `Uri.isValid` decides the generic grammar of such
identifiers; they are compared and passed on as written.
-/

namespace ComponentFile

namespace Uri

/-! ### Character classes -/

/-- A hexadecimal digit. -/
def isHex (c : Char) : Bool := c.isDigit || ('a' ≤ c && c ≤ 'f') || ('A' ≤ c && c ≤ 'F')

/-- A character that never needs an escape. -/
def isUnreserved (c : Char) : Bool :=
  c.isAlphanum || c = '-' || c = '.' || c = '_' || c = '~'

/-- A character that may delimit parts of a component. -/
def isSubDelimiter (c : Char) : Bool := "!$&'()*+,;=".toList.contains c

/-- A character of a path segment. -/
def isSegmentChar (c : Char) : Bool := isUnreserved c || isSubDelimiter c || c = ':' || c = '@'

/-- A character of a path. -/
def isPathChar (c : Char) : Bool := isSegmentChar c || c = '/'

/-- A character of a query or a fragment. -/
def isQueryChar (c : Char) : Bool := isPathChar c || c = '?'

/-- A character of user information. -/
def isUserChar (c : Char) : Bool := isUnreserved c || isSubDelimiter c || c = ':'

/-- A character of a registered name. -/
def isHostChar (c : Char) : Bool := isUnreserved c || isSubDelimiter c

/-- Whether a text holds only allowed characters and percent escapes. -/
def isEscaped (allowed : Char → Bool) : Text → Bool
  | [] => true
  | '%' :: a :: b :: rest => isHex a && isHex b && isEscaped allowed rest
  | c :: rest => allowed c && isEscaped allowed rest

/-! ### Hosts -/

/-- The parts of a text between separators. -/
def splitOn (separator : Char) : Text → List Text
  | [] => [[]]
  | c :: cs =>
    if c = separator then [] :: splitOn separator cs
    else match splitOn separator cs with
      | [] => [[c]]
      | part :: parts => (c :: part) :: parts

/-- The value of a decimal number without leading zeros. -/
def octet? (text : Text) : Option Nat :=
  if text.isEmpty || text.length > 3 || !text.all Char.isDigit then none
  else if text.head? = some '0' && text.length > 1 then none
  else some (text.foldl (fun n c => 10 * n + (c.toNat - '0'.toNat)) 0)

/-- A dotted address of four octets. -/
def isAddress4 (text : Text) : Bool :=
  let parts := splitOn '.' text
  parts.length = 4 && parts.all fun part => (octet? part).any (· ≤ 255)

/-- A group of an address of eight groups. -/
def isGroup (text : Text) : Bool := 1 ≤ text.length && text.length ≤ 4 && text.all isHex

/-- The number of groups that a list of parts stands for, where the last part may be a dotted
address worth two groups. -/
def groupCount? (dottedAllowed : Bool) : List Text → Option Nat
  | [] => some 0
  | [last] =>
    if isGroup last then some 1
    else if dottedAllowed && isAddress4 last then some 2
    else none
  | part :: parts => if isGroup part then (groupCount? dottedAllowed parts).map (· + 1) else none

/-- The parts of a text between colons; the empty text has none. -/
def groups (text : Text) : List Text := if text.isEmpty then [] else splitOn ':' text

/-- An address of eight groups, of which one run may be left out. -/
def isAddress6 (text : Text) : Bool :=
  match Text.splitAt? "::" text with
  | none => groupCount? true (groups text) = some 8
  | some (front, back) =>
    match groupCount? false (groups front), groupCount? true (groups (back.drop 2)) with
    | some a, some b => a + b ≤ 7
    | _, _ => false

/-- An address of a later kind: `v`, a version and a dot before the address. -/
def isLaterAddress : Text → Bool
  | c :: cs =>
    let version := cs.takeWhile isHex
    (c = 'v' || c = 'V') && !version.isEmpty &&
      match cs.dropWhile isHex with
      | '.' :: address => !address.isEmpty && address.all isUserChar
      | _ => false
  | [] => false

/-- Whether a port, with the colon before it, may follow a host. -/
def isPort : Text → Bool
  | [] => true
  | ':' :: digits => digits.all Char.isDigit
  | _ => false

/-- Whether a host with an optional port is well formed. -/
def isHostPort : Text → Bool
  | '[' :: rest =>
    let address := rest.takeWhile (· != ']')
    match rest.dropWhile (· != ']') with
    | ']' :: port => (isAddress6 address || isLaterAddress address) && isPort port
    | _ => false
  | text =>
    isEscaped isHostChar (text.takeWhile (· != ':')) && isPort (text.dropWhile (· != ':'))

/-- Whether an authority is well formed. -/
def isAuthority (text : Text) : Bool :=
  match Text.splitAt? "@" text with
  | some (user, host) => isEscaped isUserChar user && isHostPort (host.drop 1)
  | none => isHostPort text

/-! ### Identifiers -/

/-- Whether a scheme is well formed. -/
def isScheme : Text → Bool
  | [] => false
  | c :: cs => c.isAlpha && cs.all fun d => d.isAlphanum || d = '+' || d = '-' || d = '.'

/-- Whether what stands between the scheme and the query is well formed. -/
def isHierarchy : Text → Bool
  | '/' :: '/' :: rest =>
    isAuthority (rest.takeWhile (· != '/')) && isEscaped isPathChar (rest.dropWhile (· != '/'))
  | path => isEscaped isPathChar path

/-- Whether a text is an absolute resource identifier. -/
def isValid (text : Text) : Bool :=
  let scheme := text.takeWhile (· != ':')
  match text.dropWhile (· != ':') with
  | ':' :: rest =>
    let beforeFragment := rest.takeWhile (· != '#')
    let fragment := (rest.dropWhile (· != '#')).drop 1
    let hierarchy := beforeFragment.takeWhile (· != '?')
    let query := (beforeFragment.dropWhile (· != '?')).drop 1
    isScheme scheme && isHierarchy hierarchy && isEscaped isQueryChar query
      && isEscaped isQueryChar fragment
  | _ => false

end Uri

end ComponentFile
