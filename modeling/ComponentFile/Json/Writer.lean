import ComponentFile.Json.Decimal

/-!
Writing JSON on one line.

Quotes, backslashes and control characters are escaped; every other character stands for itself.
-/

namespace ComponentFile

namespace Json

/-- A hexadecimal digit. -/
def hexDigit (n : Nat) : Char :=
  if n < 10 then Char.ofNat ('0'.toNat + n) else Char.ofNat ('a'.toNat + (n - 10))

/-- A character inside a string. -/
def escape (c : Char) : Text :=
  if c = '"' then ['\\', '"']
  else if c = '\\' then ['\\', '\\']
  else if c = '\n' then ['\\', 'n']
  else if c = '\r' then ['\\', 'r']
  else if c = '\t' then ['\\', 't']
  else if c.toNat < 0x20 then
    ['\\', 'u', '0', '0', hexDigit (c.toNat / 16), hexDigit (c.toNat % 16)]
  else [c]

/-- A string with its quotes. -/
def quote (s : Text) : Text := '"' :: s.flatMap escape ++ ['"']

mutual

/-- A value on one line. -/
def render : Json → Text
  | .null => "null".toList
  | .bool true => "true".toList
  | .bool false => "false".toList
  | .number n => n.text
  | .string s => quote s
  | .array items => '[' :: renderItems items ++ [']']
  | .object members => '\x7b' :: renderMembers members ++ ['\x7d']

/-- The items of an array. -/
def renderItems : List Json → Text
  | [] => []
  | [item] => render item
  | item :: items => render item ++ ',' :: renderItems items

/-- The members of an object. -/
def renderMembers : List (Text × Json) → Text
  | [] => []
  | [(key, value)] => quote key ++ ':' :: render value
  | (key, value) :: members => quote key ++ ':' :: render value ++ ',' :: renderMembers members

end

end Json

end ComponentFile
