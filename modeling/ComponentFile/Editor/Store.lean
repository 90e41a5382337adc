import ComponentFile.Edit

/-!
The texts of the documents that a client has open, by identifier.
-/

namespace ComponentFile

/-- The open documents. -/
structure Store where
  /-- Each identifier with the text of its document. -/
  entries : List (Text × Text) := []
  deriving DecidableEq, Repr

namespace Store

/-- The text of an open document. -/
def get? (store : Store) (uri : Text) : Option Text :=
  (store.entries.find? (·.1 = uri)).map (·.2)

/-- Forgets a document. -/
def close (store : Store) (uri : Text) : Store :=
  ⟨store.entries.filter (·.1 ≠ uri)⟩

/-- Opens a document, or replaces its text. -/
def put (store : Store) (uri text : Text) : Store :=
  ⟨(uri, text) :: (store.close uri).entries⟩

/-- Applies changes in order to an open document; the answer is its new text. A document that is
not open stays so. -/
def change (store : Store) (uri : Text) (changes : List Change) : Store × Option Text :=
  match store.get? uri with
  | none => (store, none)
  | some text =>
    let text := changes.foldl (fun text change => change.apply text) text
    (store.put uri text, some text)

end Store

end ComponentFile
