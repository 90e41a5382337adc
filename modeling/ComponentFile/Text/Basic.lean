/-!
Documents are sequences of characters, measured in two units.

* `Text.bytes` is the length of a text in bytes of its UTF-8 form. Offsets are byte counts.
* `Text.units` is its length in UTF-16 code units. Columns are unit counts.

Both are sums over the characters, so they are additive over concatenation (`bytes_append`,
`units_append`). The searches of this module answer with the text on either side of what was
found (`splitAt?`), so that a caller never handles an index.
-/

namespace ComponentFile

/-- A text is a list of Unicode scalar values. -/
abbrev Text := List Char

instance : Coe String Text := ⟨String.toList⟩

namespace Text

/-! ### Measures -/

/-- The length of a text in UTF-8 bytes. -/
def bytes : Text → Nat
  | [] => 0
  | c :: cs => c.utf8Size + bytes cs

/-- The number of UTF-16 code units of a character: two beyond the basic plane. -/
def unitsOf (c : Char) : Nat := if c.toNat < 0x10000 then 1 else 2

/-- The length of a text in UTF-16 code units. -/
def units : Text → Nat
  | [] => 0
  | c :: cs => unitsOf c + units cs

@[simp] theorem bytes_nil : bytes [] = 0 := rfl

@[simp] theorem bytes_cons (c : Char) (cs : Text) : bytes (c :: cs) = c.utf8Size + bytes cs := rfl

@[simp] theorem units_nil : units [] = 0 := rfl

@[simp] theorem units_cons (c : Char) (cs : Text) : units (c :: cs) = unitsOf c + units cs := rfl

/-- Byte lengths add up over concatenation. -/
@[simp] theorem bytes_append (s t : Text) : bytes (s ++ t) = bytes s + bytes t := by
  induction s with
  | nil => simp
  | cons c cs ih => simp [ih, Nat.add_assoc]

/-- Unit lengths add up over concatenation. -/
@[simp] theorem units_append (s t : Text) : units (s ++ t) = units s + units t := by
  induction s with
  | nil => simp
  | cons c cs ih => simp [ih, Nat.add_assoc]

/-! ### Searching -/

/-- The text before the first occurrence of `needle`, and the text from there on. -/
def splitAt? (needle : Text) : Text → Option (Text × Text)
  | [] => if needle.isEmpty then some ([], []) else none
  | c :: cs =>
    if needle.isPrefixOf (c :: cs) then some ([], c :: cs)
    else (splitAt? needle cs).map fun (before, rest) => (c :: before, rest)

/-- Whether `needle` occurs in a text. -/
def contains (text needle : Text) : Bool := (splitAt? needle text).isSome

/-- The text with the first occurrence of `needle` replaced. -/
def replaceFirst (text needle replacement : Text) : Text :=
  match splitAt? needle text with
  | none => text
  | some (before, rest) => before ++ replacement ++ rest.drop needle.length

/-- The characters of a text whose byte offsets lie in `[start, stop)`. -/
def slice (text : Text) (start stop : Nat) : Text :=
  go 0 text
where
  /-- Walks the text, knowing the byte offset reached. -/
  go (offset : Nat) : Text → Text
    | [] => []
    | c :: cs =>
      if offset ≥ stop then []
      else if offset ≥ start then c :: go (offset + c.utf8Size) cs
      else go (offset + c.utf8Size) cs

/-! ### Lines -/

/-- The lines of a text, separated by line feeds; there is always at least one. -/
def lines : Text → List Text
  | [] => [[]]
  | c :: cs =>
    if c = '\n' then [] :: lines cs
    else match lines cs with
      | [] => [[c]]
      | l :: ls => (c :: l) :: ls

/-- Lines joined by a separator. -/
def join (separator : Text) : List Text → Text
  | [] => []
  | [l] => l
  | l :: ls => l ++ separator ++ join separator ls

end Text

end ComponentFile
