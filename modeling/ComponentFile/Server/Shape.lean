import ComponentFile.Editor.Uri
import ComponentFile.Settings.Decode

/-!
The shapes of message parameters.

A `Shape` says which JSON values are accepted, and `Shape.check` names the first problem of a value
that is not. A record is accepted as an object or as an array of its fields in order; the members of
an object are visited in key order, and absent fields are looked for last.
-/

namespace ComponentFile

namespace Server

/-- What values are accepted. -/
inductive Shape where
  /-- Any value. -/
  | any
  /-- A string. -/
  | string
  /-- A number of 32 bits without sign. -/
  | unsigned
  /-- A number of 32 bits with sign. -/
  | signed
  /-- A resource identifier. -/
  | uri
  /-- `null`, or a value of the shape. -/
  | nullable (shape : Shape)
  /-- An array of values of the shape. -/
  | list (shape : Shape)
  /-- A record, called `name` in problems; each field has a key, whether it is required, and a
  shape. -/
  | record (name : Text) (fields : List (Text × Bool × Shape))

namespace Shape

/-- A number between two bounds. -/
def checkNumber (low high : Int) (expected : Text) : Json → Decoded Unit
  | .number (.integer i) =>
    if low ≤ i && i ≤ high then .ok () else .error (.outOfRange (.number (.integer i)) expected)
  | found => .error (.wrongKind found expected)

/-- The first required field that is absent from an object. -/
def checkPresent (members : List (Text × Json)) : List (Text × Bool × Shape) → Decoded Unit
  | [] => .ok ()
  | (key, required, _) :: fields =>
    if required && (Json.lookup key members).isNone then .error (.missingField key)
    else checkPresent members fields

mutual

/-- Whether a value is accepted, or what is wrong with it. -/
def check : Shape → Json → Decoded Unit
  | .any, _ => .ok ()
  | .string, json => (decodeString json).map fun _ => ()
  | .unsigned, json => checkNumber 0 4294967295 "u32" json
  | .signed, json => checkNumber (-2147483648) 2147483647 "i32" json
  | .uri, json => do
    if Uri.isValid (← decodeString json) then return () else throw .malformedUri
  | .nullable shape, json => if json.isNull then .ok () else check shape json
  | .list shape, json =>
    match json with
    | .array items => items.forM fun item => check shape item
    | found => .error (.wrongKind found "a sequence")
  | .record name fields, json =>
    match json with
    | .object members => do
      members.forM fun member => checkField fields member.1 member.2
      checkPresent members fields
    | .array items => checkItems fields items
    | found => .error (.wrongKind found name)

/-- Whether the value of a key is accepted by the field of that key; other keys are ignored. -/
def checkField : List (Text × Bool × Shape) → Text → Json → Decoded Unit
  | [], _, _ => .ok ()
  | (key, _, shape) :: fields, k, value =>
    if key = k then check shape value else checkField fields k value

/-- Whether items are accepted by the fields in order. -/
def checkItems : List (Text × Bool × Shape) → List Json → Decoded Unit
  | [], _ => .ok ()
  | (key, required, _) :: _, [] => if required then .error (.missingField key) else .ok ()
  | (_, _, shape) :: fields, item :: items => do
    check shape item
    checkItems fields items

end

end Shape

/-- A field of a record, which is an object or an array of the fields in order. -/
def field (json : Json) (index : Nat) (key : Text) : Json :=
  match json with
  | .object members => (Json.lookup key members).getD .null
  | .array items => items[index]?.getD .null
  | _ => .null

/-- A field that holds a number. -/
def numberField (json : Json) (index : Nat) (key : Text) : Nat :=
  (field json index key).asNat?.getD 0

/-- A field that holds a string. -/
def textField (json : Json) (index : Nat) (key : Text) : Text :=
  (field json index key).asString?.getD []

/-- A field that holds an array. -/
def listField (json : Json) (index : Nat) (key : Text) : List Json :=
  (field json index key).asArray?.getD []

end Server

end ComponentFile
