import ComponentFile.Text.Basic

/-!
JSON values.

Numbers are kept exactly: an integer that fits a machine word is an integer, every other number is
a decimal, digits times a power of ten. The members of an object are kept in increasing order of
their keys, one member a key: `Json.insertMember` is the only way the reader builds them.
-/

namespace ComponentFile

/-- A JSON number. -/
inductive Json.Number where
  /-- An integer between `-2^63` and `2^64 - 1`. -/
  | integer (value : Int)
  /-- `digits * 10 ^ exponent`, negated if `negative` holds. -/
  | decimal (negative : Bool) (digits : Nat) (exponent : Int)
  deriving DecidableEq, Repr

/-- A JSON value. -/
inductive Json where
  /-- The value `null`. -/
  | null
  /-- A truth value. -/
  | bool (value : Bool)
  /-- A number. -/
  | number (value : Json.Number)
  /-- A string. -/
  | string (value : Text)
  /-- An array. -/
  | array (items : List Json)
  /-- An object. -/
  | object (members : List (Text × Json))
  deriving Repr, Inhabited

namespace Json

/-- A natural number as a value. -/
def nat (n : Nat) : Json := .number (.integer n)

/-- A string given literally. -/
def str (s : String) : Json := .string s.toList

/-- An optional value; an absent one is `null`. -/
def ofOption {α : Type} (f : α → Json) : Option α → Json
  | none => .null
  | some a => f a

/-- An object given by its members. -/
def record (members : List (String × Json)) : Json :=
  .object (members.map fun (key, value) => (key.toList, value))

/-! ### Members -/

/-- The order of keys: by code points, a proper beginning first. -/
def keyLt : Text → Text → Bool
  | [], [] => false
  | [], _ :: _ => true
  | _ :: _, [] => false
  | a :: as, b :: bs => a.toNat < b.toNat || (a = b && keyLt as bs)

/-- Adds a member in key order; a member of the same key is replaced. -/
def insertMember (key : Text) (value : Json) : List (Text × Json) → List (Text × Json)
  | [] => [(key, value)]
  | (k, v) :: rest =>
    if key = k then (key, value) :: rest
    else if keyLt key k then (key, value) :: (k, v) :: rest
    else (k, v) :: insertMember key value rest

/-- The value of a key among members. -/
def lookup (key : Text) (members : List (Text × Json)) : Option Json :=
  (members.find? (·.1 = key)).map (·.2)

/-- The value of a key in an object. -/
def get? (json : Json) (key : Text) : Option Json :=
  match json with
  | .object members => lookup key members
  | _ => none

/-- The value as a string. -/
def asString? : Json → Option Text
  | .string s => some s
  | _ => none

/-- The value as a natural number. -/
def asNat? : Json → Option Nat
  | .number (.integer i) => if 0 ≤ i then some i.toNat else none
  | _ => none

/-- The value as a truth value. -/
def asBool? : Json → Option Bool
  | .bool b => some b
  | _ => none

/-- The items of an array. -/
def asArray? : Json → Option (List Json)
  | .array items => some items
  | _ => none

/-- Whether the value is `null`. -/
def isNull : Json → Bool
  | .null => true
  | _ => false

end Json

end ComponentFile
