import ComponentFile.Settings.Basic
import ComponentFile.Settings.Problem

/-!
Reading settings and component lists from JSON values.

A record reads from an object, whose unknown keys are ignored, or from an array that gives its
fields in order (`decodeRecord`). The members of an object are visited in key order and the first
problem is the one reported. Fields of settings have defaults; the fields of a component have none.
-/

namespace ComponentFile

/-- The answer of a decoder. -/
abbrev Decoded := Except Problem

/-! ### Plain values -/

/-- A string. -/
def decodeString : Json → Decoded Text
  | .string s => .ok s
  | found => .error (.wrongKind found "a string")

/-- A truth value. -/
def decodeBool : Json → Decoded Bool
  | .bool b => .ok b
  | found => .error (.wrongKind found "a boolean")

/-- An array whose items are all read by `decode`. -/
def decodeList {α : Type} (decode : Json → Decoded α) : Json → Decoded (List α)
  | .array items => items.mapM decode
  | found => .error (.wrongKind found "a sequence")

/-! ### Records -/

/-- A field of a record that is being read: its key and how its value changes the record. -/
structure RecordField (σ : Type) where
  /-- The key of the field in an object. -/
  key : Text
  /-- The record with the field read from a value. -/
  set : σ → Json → Decoded σ

/-- The record with one member of an object read into it. -/
def setMember {σ : Type} (fields : List (RecordField σ)) (record : σ) (member : Text × Json) :
    Decoded σ :=
  match fields.find? (·.key = member.1) with
  | some field => field.set record member.2
  | none => .ok record

/-- The record with items read into its fields in order, and the number of items left over. -/
def setItems {σ : Type} : List (RecordField σ) → σ → List Json → Decoded (σ × Nat)
  | _, record, [] => .ok (record, 0)
  | [], record, items => .ok (record, items.length)
  | field :: fields, record, item :: items =>
    match field.set record item with
    | .ok record => setItems fields record items
    | .error problem => .error problem

/-- A record of fields with defaults, called `name` in problems. -/
def decodeRecord {σ : Type} (name : Text) (fields : List (RecordField σ)) (defaults : σ) :
    Json → Decoded σ
  | .object members => members.foldlM (setMember fields) defaults
  | .array items =>
    match setItems fields defaults items with
    | .ok (record, 0) => .ok record
    | .ok (_, _ + 1) => .error (.tooManyItems items.length)
    | .error problem => .error problem
  | found => .error (.wrongKind found name)

/-! ### Settings -/

/-- An API, given by its name or by an object whose only key is its name. -/
def ApiStyle.decode : Json → Decoded ApiStyle
  | .string name =>
    match ofName? name with
    | some api => .ok api
    | none => .error (.unknownApi name)
  | .object [(name, value)] =>
    match ofName? name with
    | none => .error (.unknownApi name)
    | some api => if value.isNull then .ok api else .error (.wrongKind value "unit")
  | .object _ => .error .notSingleKey
  | found => .error (.wrongKind found "string or map")

/-- A preprocessor; `null`, the empty name and `none` mean that there is none. -/
def decodePreprocessor {α : Type} (ofName? : Text → Option α) : Json → Decoded (Option α)
  | .null => .ok none
  | .string name =>
    if name = [] || name = "none".toList then .ok none
    else match ofName? name with
      | some preprocessor => .ok (some preprocessor)
      | none => .error (.unknownPreprocessor name)
  | found => .error (.wrongKind found "a string")

/-- The fields of preprocessors. -/
def Preprocessors.fields : List (RecordField Preprocessors) :=
  [⟨"script", fun p v =>
      return { p with script := ← decodePreprocessor ScriptPreprocessor.ofName? v }⟩,
    ⟨"template", fun p v =>
      return { p with template := ← decodePreprocessor TemplatePreprocessor.ofName? v }⟩,
    ⟨"style", fun p v =>
      return { p with style := ← decodePreprocessor StylePreprocessor.ofName? v }⟩]

/-- Preprocessors. -/
def Preprocessors.decode (json : Json) : Decoded Preprocessors :=
  decodeRecord "struct Preprocessors" fields {} json

/-- The fields of settings. -/
def Settings.fields : List (RecordField Settings) :=
  [⟨"api", fun s v => return { s with api := ← ApiStyle.decode v }⟩,
    ⟨"useScriptSetup", fun s v => return { s with useScriptSetup := ← decodeBool v }⟩,
    ⟨"preprocessors", fun s v => return { s with preprocessors := ← Preprocessors.decode v }⟩]

/-- Settings. -/
def Settings.decode (json : Json) : Decoded Settings :=
  decodeRecord "struct Settings" fields {} json

/-! ### Components -/

/-- A component. -/
def Component.decode : Json → Decoded Component
  | .object members => do
    let name ← (Json.lookup "name" members).mapM decodeString
    let source ← (Json.lookup "source" members).mapM decodeString
    match name, source with
    | some name, some source => return ⟨name, source⟩
    | none, _ => throw (.missingField "name")
    | some _, none => throw (.missingField "source")
  | .array items =>
    match items with
    | [] => .error (.tooFewItems 0 "struct ComponentDescriptor with 2 elements")
    | [name] => do
      let _ ← decodeString name
      throw (.tooFewItems 1 "struct ComponentDescriptor with 2 elements")
    | name :: source :: rest => do
      let name ← decodeString name
      let source ← decodeString source
      if rest.isEmpty then return ⟨name, source⟩ else throw (.tooManyItems items.length)
  | found => .error (.wrongKind found "struct ComponentDescriptor")

/-- A list of components. -/
def Component.decodeList (json : Json) : Decoded (List Component) :=
  ComponentFile.decodeList Component.decode json

/-! ### Configurations -/

/-- The fields of a configuration. -/
def Configuration.fields : List (RecordField Configuration) :=
  [⟨"sfc", fun c v => return { c with settings := ← Settings.decode v }⟩,
    ⟨"components", fun c v => return { c with components := ← Component.decodeList v }⟩]

/-- A configuration. -/
def Configuration.decode (json : Json) : Decoded Configuration :=
  decodeRecord "struct ServerConfig" fields {} json

/-- The configuration given at start-up; without one, or with a malformed one, the default. -/
def Configuration.ofOptions : Option Json → Configuration
  | none => {}
  | some json =>
    match decode json with
    | .ok configuration => configuration
    | .error _ => {}

end ComponentFile
