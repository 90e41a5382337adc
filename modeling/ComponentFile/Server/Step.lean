import ComponentFile.Json.Writer
import ComponentFile.Server.Message
import ComponentFile.Server.Wire

/-!
What comes of one message: what the server sends on its own account, and the reply to a request.
-/

namespace ComponentFile

namespace Server

/-! ### What the server sends -/

/-- How much a message to the user matters. -/
inductive Severity where
  /-- Something failed. -/
  | error
  /-- Something is wrong. -/
  | warning
  /-- Something was done. -/
  | info
  deriving DecidableEq, Repr

/-- The number of a severity. -/
def Severity.number : Severity → Nat
  | .error => 1
  | .warning => 2
  | .info => 3

/-- What the server sends on its own account. -/
inductive Outgoing where
  /-- Asks for the configuration. -/
  | configuration
  /-- Writes into the client's log. -/
  | log (severity : Severity) (text : Text)
  /-- Shows something to the user. -/
  | message (severity : Severity) (text : Text)
  /-- Asks to edit a document. -/
  | applyEdit (uri : Text) (edits : List Insertion)
  deriving DecidableEq, Repr

/-- The name of the method by which something is sent. -/
def Outgoing.method : Outgoing → String
  | .configuration => "workspace/configuration"
  | .log _ _ => "window/logMessage"
  | .message _ _ => "window/showMessage"
  | .applyEdit _ _ => "workspace/applyEdit"

/-- The sections of the configuration that are asked for. -/
def sections : List String := ["sfcLsp.sfc", "sfcLsp.components"]

/-- The parameters of what is sent. -/
def Outgoing.params : Outgoing → Json
  | .configuration =>
    .record [("items", .array (sections.map fun s => .record [("section", .str s)]))]
  | .log severity text => .record [("type", .nat severity.number), ("message", .string text)]
  | .message severity text => .record [("type", .nat severity.number), ("message", .string text)]
  | .applyEdit uri edits => .record [("edit", Wire.insertions uri edits)]

/-- Whether the client has to answer. -/
def Outgoing.isRequest : Outgoing → Bool
  | .configuration => true
  | .applyEdit _ _ => true
  | _ => false

/-! ### Replies -/

/-- Why a request failed. -/
inductive Failure where
  /-- The session is not open yet. -/
  | notInitialized
  /-- The request does not fit the phase of the session or the method. -/
  | invalidRequest
  /-- There is no such method. -/
  | methodNotFound
  /-- The parameters cannot be read. -/
  | invalidParams (error : ParamsError)

/-- The number of a failure. -/
def Failure.code : Failure → Int
  | .notInitialized => -32002
  | .invalidRequest => -32600
  | .methodNotFound => -32601
  | .invalidParams _ => -32602

/-- The words for what is wrong with parameters. -/
def ParamsError.message : ParamsError → Text
  | .missing => "Missing params field"
  | .unexpected params => "Unexpected params: ".toList ++ params.render
  | .malformed problem => problem.message

/-- The words for a failure. -/
def Failure.message : Failure → Text
  | .notInitialized => "Server not initialized"
  | .invalidRequest => "Invalid request"
  | .methodNotFound => "Method not found"
  | .invalidParams error => error.message

/-- The reply to a request. -/
abbrev Reply := Except Failure Json

/-- What came of one message. -/
inductive Step where
  /-- What was sent on the way, and the reply. -/
  | handled (sent : List Outgoing) (reply : Option Reply)
  /-- The server has ended. -/
  | exited

/-- The JSON form of a failure. -/
def Failure.toJson (failure : Failure) : Json :=
  .record [("code", .number (.integer failure.code)), ("message", .string failure.message)]

end Server

end ComponentFile
