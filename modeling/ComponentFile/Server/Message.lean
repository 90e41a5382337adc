import ComponentFile.Edit
import ComponentFile.Server.Shape

/-!
Messages that a client sends, and how they are read.

Every known method is a request, which is answered, or a notification, which is not.
`Method.ofName?` knows all methods of the protocol; those of which the server makes no use are told
apart only by which of the two they are. `Request.read` and `Notification.read` turn parameters into
typed messages.
-/

namespace ComponentFile

namespace Server

/-! ### Methods -/

/-- A method that a client may ask for, and be answered. -/
inductive RequestMethod where
  /-- Opens the session. -/
  | opening
  /-- Ends the session. -/
  | shutdown
  /-- Asks for snippets. -/
  | completion
  /-- Asks for quick fixes. -/
  | codeAction
  /-- Runs a command. -/
  | executeCommand
  /-- Part of the protocol, but not on offer. -/
  | unsupported
  deriving DecidableEq, Repr

/-- A method by which a client tells the server something. -/
inductive NotificationMethod where
  /-- The client is ready. -/
  | ready
  /-- Ends the server. -/
  | exit
  /-- The configuration has changed. -/
  | didChangeConfiguration
  /-- A document was opened. -/
  | didOpen
  /-- A document was changed. -/
  | didChange
  /-- A document was closed. -/
  | didClose
  /-- Part of the protocol, but of no interest. -/
  | unused
  deriving DecidableEq, Repr

/-- A method of the protocol. -/
inductive Method where
  /-- A request. -/
  | request (method : RequestMethod)
  /-- A notification. -/
  | notification (method : NotificationMethod)
  deriving DecidableEq, Repr

/-- The methods that the server makes use of. -/
def usedMethods : List (String × Method) :=
  [("initialize", .request .opening), ("shutdown", .request .shutdown),
    ("textDocument/completion", .request .completion),
    ("textDocument/codeAction", .request .codeAction),
    ("workspace/executeCommand", .request .executeCommand),
    ("initialized", .notification .ready), ("exit", .notification .exit),
    ("workspace/didChangeConfiguration", .notification .didChangeConfiguration),
    ("textDocument/didOpen", .notification .didOpen),
    ("textDocument/didChange", .notification .didChange),
    ("textDocument/didClose", .notification .didClose)]

/-- The requests of the protocol that are not on offer. -/
def unsupportedRequests : List String :=
  ["textDocument/willSaveWaitUntil", "textDocument/declaration", "textDocument/definition",
    "textDocument/typeDefinition", "textDocument/implementation", "textDocument/references",
    "textDocument/prepareCallHierarchy", "callHierarchy/incomingCalls",
    "callHierarchy/outgoingCalls", "textDocument/prepareTypeHierarchy",
    "typeHierarchy/supertypes", "typeHierarchy/subtypes", "textDocument/documentHighlight",
    "textDocument/documentLink", "documentLink/resolve", "textDocument/hover",
    "textDocument/codeLens", "codeLens/resolve", "textDocument/foldingRange",
    "textDocument/selectionRange", "textDocument/documentSymbol",
    "textDocument/semanticTokens/full", "textDocument/semanticTokens/full/delta",
    "textDocument/semanticTokens/range", "textDocument/inlineValue", "textDocument/inlayHint",
    "inlayHint/resolve", "textDocument/moniker", "textDocument/linkedEditingRange",
    "completionItem/resolve", "textDocument/diagnostic", "workspace/diagnostic",
    "textDocument/signatureHelp", "codeAction/resolve", "textDocument/documentColor",
    "textDocument/colorPresentation", "textDocument/formatting", "textDocument/rangeFormatting",
    "textDocument/onTypeFormatting", "textDocument/rename", "textDocument/prepareRename",
    "workspace/symbol", "workspaceSymbol/resolve", "workspace/willCreateFiles",
    "workspace/willRenameFiles", "workspace/willDeleteFiles"]

/-- The notifications of the protocol that are of no interest. -/
def unusedNotifications : List String :=
  ["textDocument/willSave", "textDocument/didSave", "notebookDocument/didOpen",
    "notebookDocument/didChange", "notebookDocument/didSave", "notebookDocument/didClose",
    "workspace/didChangeWorkspaceFolders", "workspace/didCreateFiles",
    "workspace/didRenameFiles", "workspace/didDeleteFiles", "workspace/didChangeWatchedFiles"]

/-- The method of a name. -/
def Method.ofName? (name : Text) : Option Method :=
  let name := String.ofList name
  match usedMethods.lookup name with
  | some method => some method
  | none =>
    if unsupportedRequests.contains name then some (.request .unsupported)
    else if unusedNotifications.contains name then some (.notification .unused)
    else none

/-! ### Shapes of parameters -/

namespace Shape

/-- A line and column. -/
def caret : Shape :=
  .record "struct Position"
    [("line".toList, true, .unsigned), ("character".toList, true, .unsigned)]

/-- A range. -/
def range : Shape :=
  .record "struct Range" [("start".toList, true, caret), ("end".toList, true, caret)]

/-- The identifier of a document. -/
def document : Shape := .record "struct TextDocumentIdentifier" [("uri".toList, true, .uri)]

/-- The identifier of a document and its version. -/
def versionedDocument : Shape :=
  .record "struct VersionedTextDocumentIdentifier"
    [("uri".toList, true, .uri), ("version".toList, true, .signed)]

/-- A whole document. -/
def documentItem : Shape :=
  .record "struct TextDocumentItem"
    [("uri".toList, true, .uri), ("languageId".toList, true, .string),
      ("version".toList, true, .signed), ("text".toList, true, .string)]

/-- A change of a document. -/
def change : Shape :=
  .record "struct TextDocumentContentChangeEvent"
    [("range".toList, false, .nullable range), ("rangeLength".toList, false, .nullable .unsigned),
      ("text".toList, true, .string)]

/-- A remark on a range. -/
def diagnostic : Shape :=
  .record "struct Diagnostic" [("range".toList, true, range), ("message".toList, true, .string)]

/-- The remarks that code actions are asked for. -/
def codeActionContext : Shape :=
  .record "struct CodeActionContext"
    [("diagnostics".toList, true, .list diagnostic),
      ("only".toList, false, .nullable (.list .string))]

/-- The shape of the parameters of a request. -/
def ofRequest : RequestMethod → Shape
  | .opening =>
    .record "struct InitializeParams"
      [("processId".toList, false, .nullable .unsigned),
        ("capabilities".toList, true, .record "struct ClientCapabilities" [])]
  | .completion =>
    .record "struct CompletionParams"
      [("textDocument".toList, true, document), ("position".toList, true, caret)]
  | .codeAction =>
    .record "struct CodeActionParams"
      [("textDocument".toList, true, document), ("range".toList, true, range),
        ("context".toList, true, codeActionContext)]
  | .executeCommand =>
    .record "struct ExecuteCommandParams"
      [("command".toList, true, .string), ("arguments".toList, false, .list .any)]
  | .shutdown => .any
  | .unsupported => .any

/-- The shape of the parameters of a notification. -/
def ofNotification : NotificationMethod → Shape
  | .ready => .record "struct InitializedParams" []
  | .didChangeConfiguration =>
    .record "struct DidChangeConfigurationParams" [("settings".toList, true, .any)]
  | .didOpen =>
    .record "struct DidOpenTextDocumentParams" [("textDocument".toList, true, documentItem)]
  | .didChange =>
    .record "struct DidChangeTextDocumentParams"
      [("textDocument".toList, true, versionedDocument),
        ("contentChanges".toList, true, .list change)]
  | .didClose =>
    .record "struct DidCloseTextDocumentParams" [("textDocument".toList, true, document)]
  | .exit => .any
  | .unused => .any

end Shape

/-! ### Typed messages -/

/-- A request that is served. -/
inductive Request where
  /-- Opens the session, with the configuration that the client starts with. -/
  | opening (options : Option Json)
  /-- Ends the session. -/
  | shutdown
  /-- Asks for snippets at a caret of a document. -/
  | completion (uri : Text) (caret : Caret)
  /-- Asks for quick fixes on a line of a document. -/
  | codeAction (uri : Text) (line : Nat)
  /-- Runs a command. -/
  | executeCommand (command : Text) (arguments : List Json)
  /-- Asks for what is not on offer. -/
  | unsupported

/-- A notification that is heeded. -/
inductive Notification where
  /-- The client is ready. -/
  | ready
  /-- The configuration has changed. -/
  | didChangeConfiguration
  /-- A document was opened. -/
  | didOpen (uri text : Text)
  /-- A document was changed. -/
  | didChange (uri : Text) (changes : List Change)
  /-- A document was closed. -/
  | didClose (uri : Text)
  /-- Ends the server. -/
  | exit
  /-- Nothing of interest. -/
  | unused

/-- A line and column of the accepted shape. -/
def readCaret (json : Json) : Caret := ⟨numberField json 0 "line", numberField json 1 "character"⟩

/-- A change of the accepted shape. -/
def readChange (json : Json) : Change :=
  let range := field json 0 "range"
  { range := if range.isNull then none
      else some (readCaret (field range 0 "start"), readCaret (field range 1 "end"))
    text := textField json 2 "text" }

/-- The identifier in a document field of the accepted shape. -/
def readUri (json : Json) : Text := textField (field json 0 "textDocument") 0 "uri"

/-- A request whose parameters have the accepted shape. -/
def Request.build (params : Json) : RequestMethod → Request
  | .opening =>
    .opening ((params.get? "initializationOptions").filter (!·.isNull))
  | .shutdown => .shutdown
  | .completion => .completion (readUri params) (readCaret (field params 1 "position"))
  | .codeAction =>
    .codeAction (readUri params) (readCaret (field (field params 1 "range") 0 "start")).line
  | .executeCommand =>
    .executeCommand (textField params 0 "command") (listField params 1 "arguments")
  | .unsupported => .unsupported

/-- A notification whose parameters have the accepted shape. -/
def Notification.build (params : Json) : NotificationMethod → Notification
  | .ready => .ready
  | .exit => .exit
  | .didChangeConfiguration => .didChangeConfiguration
  | .didOpen => .didOpen (readUri params) (textField (field params 0 "textDocument") 3 "text")
  | .didChange =>
    .didChange (readUri params) ((listField params 1 "contentChanges").map readChange)
  | .didClose => .didClose (readUri params)
  | .unused => .unused

/-- What is wrong with parameters. -/
inductive ParamsError where
  /-- There are none. -/
  | missing
  /-- There should be none. -/
  | unexpected (params : Json)
  /-- They do not have the accepted shape. -/
  | malformed (problem : Problem)

/-- Parameters of the accepted shape. -/
def readParams (shape : Shape) : Option Json → Except ParamsError Json
  | none => .error .missing
  | some params =>
    match shape.check params with
    | .ok () => .ok params
    | .error problem => .error (.malformed problem)

/-- A request with its parameters. Only `shutdown` has none. -/
def Request.read (method : RequestMethod) (params : Option Json) : Except ParamsError Request :=
  match method, params with
  | .shutdown, none => .ok .shutdown
  | .shutdown, some params => .error (.unexpected params)
  | .unsupported, _ => .ok .unsupported
  | method, params => (readParams (.ofRequest method) params).map fun p => Request.build p method

/-- A notification with its parameters. -/
def Notification.read (method : NotificationMethod) (params : Option Json) :
    Except ParamsError Notification :=
  match method with
  | .exit => .ok .exit
  | .unused => .ok .unused
  | method => (readParams (.ofNotification method) params).map fun p => Notification.build p method

end Server

end ComponentFile
