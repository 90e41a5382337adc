import ComponentFile.Json.Decimal

/-!
What can be wrong with a settings value, and how it is reported.

`Problem` has one constructor a cause; all wording is in `Problem.message`. Strings are shown in
quotes with escapes for characters that leave no mark of their own (`Text.quoted`).
-/

namespace ComponentFile

/-! ### Quoted strings -/

/-- Ranges of characters that leave no mark of their own: controls, format characters, unusual
spaces, combining marks and private use. -/
def Text.unmarkedRanges : List (Nat × Nat) :=
  [(0x00, 0x1F), (0x7F, 0xA0), (0xAD, 0xAD), (0x300, 0x36F), (0x483, 0x489), (0x591, 0x5BD),
    (0x5BF, 0x5BF), (0x5C1, 0x5C2), (0x5C4, 0x5C5), (0x5C7, 0x5C7), (0x2000, 0x200F),
    (0x2028, 0x202F), (0x205F, 0x206F), (0x20D0, 0x20F0), (0x2CEF, 0x2CF1), (0x2D7F, 0x2D7F),
    (0x2DE0, 0x2DFF), (0x3000, 0x3000), (0x302A, 0x302D), (0x3099, 0x309A), (0xE000, 0xF8FF),
    (0xFB1E, 0xFB1E), (0xFE00, 0xFE0F), (0xFE20, 0xFE2F), (0xFEFF, 0xFEFF), (0xFF9E, 0xFF9F),
    (0xFFF9, 0xFFFB), (0xE0000, 0xE0FFF), (0xF0000, 0x10FFFF)]

/-- Whether a character leaves no mark of its own. -/
def Text.isUnmarked (c : Char) : Bool :=
  unmarkedRanges.any fun (low, high) => low ≤ c.toNat && c.toNat ≤ high

/-- A character inside quotes. -/
def Text.quotedChar (c : Char) : Text :=
  if c = '\x00' then ['\\', '0']
  else if c = '\t' then ['\\', 't']
  else if c = '\n' then ['\\', 'n']
  else if c = '\r' then ['\\', 'r']
  else if c = '"' then ['\\', '"']
  else if c = '\\' then ['\\', '\\']
  else if isUnmarked c then "\\u\x7b".toList ++ Nat.toDigits 16 c.toNat ++ "\x7d".toList
  else [c]

/-- A string in quotes. -/
def Text.quoted (s : Text) : Text := '"' :: s.flatMap quotedChar ++ ['"']

/-- A name between back quotes. -/
def Text.ticked (s : Text) : Text := '\x60' :: s ++ ['\x60']

/-! ### Problems -/

/-- Why a value could not be read. -/
inductive Problem where
  /-- A value of another kind stands where `expected` should. -/
  | wrongKind (found : Json) (expected : Text)
  /-- A value of the right kind is out of range. -/
  | outOfRange (found : Json) (expected : Text)
  /-- An API of this name does not exist. -/
  | unknownApi (name : Text)
  /-- An API is given by an object that has not exactly one key. -/
  | notSingleKey
  /-- A field without a default is missing. -/
  | missingField (name : Text)
  /-- An array has more items than there are fields. -/
  | tooManyItems (count : Nat)
  /-- An array has fewer items than there are fields. -/
  | tooFewItems (count : Nat) (expected : Text)
  /-- A preprocessor of this name does not exist. -/
  | unknownPreprocessor (name : Text)
  /-- A resource identifier is malformed. -/
  | malformedUri
  deriving Repr

/-- What kind of value was found, and which. -/
def Json.described : Json → Text
  | .null => "null"
  | .bool b => "boolean ".toList ++ Text.ticked (if b then "true" else "false")
  | .number (.integer i) => "integer ".toList ++ Text.ticked (Number.text (.integer i))
  | .number n => "floating point ".toList ++ Text.ticked n.text
  | .string s => "string ".toList ++ Text.quoted s
  | .array _ => "sequence"
  | .object _ => "map"

/-- The report of a problem. -/
def Problem.message : Problem → Text
  | .wrongKind found expected =>
    "invalid type: ".toList ++ found.described ++ ", expected ".toList ++ expected
  | .outOfRange found expected =>
    "invalid value: ".toList ++ found.described ++ ", expected ".toList ++ expected
  | .unknownApi name =>
    "unknown variant ".toList ++ Text.ticked name
      ++ ", expected \x60Composition API\x60 or \x60Options API\x60".toList
  | .notSingleKey => "invalid value: map, expected map with a single key"
  | .missingField name => "missing field ".toList ++ Text.ticked name
  | .tooManyItems count =>
    "invalid length ".toList ++ Json.digitsOf count ++ ", expected fewer elements in array".toList
  | .tooFewItems count expected =>
    "invalid length ".toList ++ Json.digitsOf count ++ ", expected ".toList ++ expected
  | .unknownPreprocessor name => "unknown preprocessor ".toList ++ Text.ticked name
  | .malformedUri => "unexpected character"

end ComponentFile
