import ComponentFile.Editor.CodeAction
import ComponentFile.Editor.Completion
import ComponentFile.Json.Basic
import ComponentFile.Server.Command

/-!
The JSON forms of what the server sends.
-/

namespace ComponentFile

namespace Wire

/-- A line and column. -/
def caret (c : Caret) : Json := .record [("line", .nat c.line), ("character", .nat c.column)]

/-- A replacement. -/
def replacement (r : Replacement) : Json :=
  .record
    [("range", .record [("start", caret r.start), ("end", caret r.stop)]),
      ("newText", .string r.text)]

/-- Replacements in one document. -/
def workspaceEdit (uri : Text) (replacements : List Replacement) : Json :=
  .record [("changes", .object [(uri, .array (replacements.map replacement))])]

/-- Insertions in one document. -/
def insertions (uri : Text) (edits : List Insertion) : Json :=
  workspaceEdit uri (edits.map .ofInsertion)

/-- A list; an empty one is `null`. -/
def nonEmpty {α : Type} (f : α → Json) (items : List α) : Json :=
  if items.isEmpty then .null else .array (items.map f)

/-- What is shown beside every snippet. -/
def snippetDetail : String := "SFC LSP"

/-- A snippet. -/
def snippet (s : Snippet) : Json :=
  .record
    [("label", .string s.label), ("kind", .nat 15), ("detail", .str snippetDetail),
      ("documentation",
        .record [("kind", .str "markdown"), ("value", .string s.documentation)]),
      ("insertText", .string s.insertText), ("insertTextFormat", .nat 2)]

/-- The answer to a request for completion. -/
def completion (snippets : List Snippet) : Json := nonEmpty snippet snippets

/-- A code action in a document. -/
def codeAction (uri : Text) (action : CodeAction) : Json :=
  .record
    [("title", .string action.title), ("kind", .str "quickfix"),
      ("edit", workspaceEdit uri [action.replacement])]

/-- The answer to a request for code actions. -/
def codeActions (uri : Text) (actions : List CodeAction) : Json := nonEmpty (codeAction uri) actions

/-- What the server can do. -/
def capabilities : Json :=
  .record
    [("textDocumentSync", .record [("openClose", .bool true), ("change", .nat 2)]),
      ("completionProvider",
        .record [("resolveProvider", .bool false), ("triggerCharacters", .array [.str "<"])]),
      ("codeActionProvider", .bool true),
      ("executeCommandProvider",
        .record [("commands", .array [.string Command.registerComponent])])]

/-- The answer to the request that opens a session. -/
def greeting : Json :=
  .record
    [("capabilities", capabilities),
      ("serverInfo", .record [("name", .str "sfc-lsp"), ("version", .str "0.1.0")])]

end Wire

end ComponentFile
