import ComponentFile.Editor.Detection
import ComponentFile.Editor.Store
import ComponentFile.Registration.Register
import ComponentFile.Server.Step

/-!
Sessions of the server.

A session is a phase of its life, the open documents and the configuration. `Session.receive` takes
one message and answers with the next session and a `Step`: what was sent to the client on the way,
and the reply if the message was a request. While a message is handled the client may be asked for
its configuration; its answer is an argument. So a message is handled to its end, that answer
included, before the next one.
-/

namespace ComponentFile

namespace Server

/-! ### Sessions -/

/-- The phase of a session. -/
inductive Phase where
  /-- Before the request that opens it. -/
  | fresh
  /-- Open. -/
  | running
  /-- After the request that ends it. -/
  | shutDown
  /-- Over. -/
  | exited
  deriving DecidableEq, Repr

/-- A session. -/
structure Session where
  /-- The phase. -/
  phase : Phase := .fresh
  /-- The open documents. -/
  documents : Store := {}
  /-- The configuration. -/
  configuration : Configuration := {}

namespace Session

/-! ### Configuration -/

/-- The value of one section in an answer of the client; `null` is none. -/
def section? (answer : List Json) (index : Nat) : Option Json :=
  answer[index]?.filter (!·.isNull)

/-- The settings after an answer, and what is logged. -/
def loadSettings (settings : Settings) (answer : List Json) : Settings × List Outgoing :=
  match (section? answer 0).map Settings.decode with
  | none => (settings, [])
  | some (.ok loaded) => (loaded, [])
  | some (.error problem) =>
    (settings, [.log .warning ("Invalid sfcLsp.sfc settings: ".toList ++ problem.message)])

/-- The components after an answer, and what is logged. -/
def loadComponents (components : List Component) (answer : List Json) :
    List Component × List Outgoing :=
  match (section? answer 1).map Component.decodeList with
  | none => (components, [])
  | some (.ok loaded) =>
    (loaded, [.log .info ("Loaded ".toList ++ Json.digitsOf loaded.length ++ " components".toList)])
  | some (.error problem) =>
    (components, [.log .warning ("Invalid sfcLsp.components list: ".toList ++ problem.message)])

/-- Asks for the configuration and takes what is valid of the answer, section by section. Anything
but an array is no answer. Nothing else is handled between the question and the answer. -/
def reload (session : Session) (answer : Json) : Session × List Outgoing :=
  let sections := answer.asArray?.getD []
  let (settings, first) := loadSettings session.configuration.settings sections
  let (components, second) := loadComponents session.configuration.components sections
  ({ session with configuration := ⟨settings, components⟩ }, .configuration :: first ++ second)

/-! ### Registration -/

/-- Asks the client to register a component in a document. -/
def registerIn (session : Session) (uri text : Text) (component : Component) : List Outgoing :=
  match Registration.register text component session.configuration.settings with
  | .ok [] => []
  | .ok edits => [.applyEdit uri edits]
  | .error error =>
    [.message .error ("Cannot register ".toList ++ component.name ++ ": ".toList ++ error.message)]

/-- Registers the component that was typed in changes of a document, if any. -/
def registerTyped (session : Session) (uri text : Text) (changes : List Change) : List Outgoing :=
  match Detection.detect? text (changes.filterMap Detection.TypedText.ofChange?)
    session.configuration.components with
  | some component => session.registerIn uri text component
  | none => []

/-- Runs a command. -/
def execute (session : Session) (command : Text) (arguments : List Json) : List Outgoing :=
  if command ≠ Command.registerComponent then []
  else match Command.componentArgument? arguments, Command.uriArgument? arguments with
    | some component, some uri =>
      match session.documents.get? uri with
      | some text => session.registerIn uri text component
      | none => []
    | _, _ => [.message .error Command.usage]

/-! ### Messages -/

/-- Serves a request in an open session. -/
def serve (session : Session) : Request → List Outgoing × Reply
  | .completion uri caret =>
    ([], .ok (Wire.completion (match session.documents.get? uri with
      | some text => complete text caret session.configuration
      | none => [])))
  | .codeAction uri line =>
    ([], .ok (Wire.codeActions uri (match session.documents.get? uri with
      | some text => codeActions text line (session.configuration.components.map (·.name))
      | none => [])))
  | .executeCommand command arguments => (session.execute command arguments, .ok .null)
  | .shutdown => ([], .ok .null)
  | .opening _ => ([], .error .invalidRequest)
  | .unsupported => ([], .error .methodNotFound)

/-- Heeds a notification in an open session. -/
def heed (session : Session) (answer : Json) : Notification → Session × List Outgoing
  | .ready =>
    let (session, sent) := session.reload answer
    (session, sent ++ [.log .info "SFC LSP initialized"])
  | .didChangeConfiguration => session.reload answer
  | .didOpen uri text => ({ session with documents := session.documents.put uri text }, [])
  | .didChange uri changes =>
    match session.documents.change uri changes with
    | (documents, some text) =>
      ({ session with documents }, session.registerTyped uri text changes)
    | (_, none) => (session, [])
  | .didClose uri => ({ session with documents := session.documents.close uri }, [])
  | .exit => (session, [])
  | .unused => (session, [])

/-! ### Phases -/

/-- A message as it arrives. -/
structure Incoming where
  /-- The name of the method. -/
  method : Text
  /-- The parameters. -/
  params : Option Json
  /-- Whether a reply is wanted. -/
  isRequest : Bool

/-- A step that sends nothing and replies to requests only. -/
def replying (incoming : Incoming) (reply : Reply) : Step :=
  .handled [] (if incoming.isRequest then some reply else none)

/-- How a message is refused outside an open session. -/
def refusal (phase : Phase) : Failure :=
  if phase = .fresh then .notInitialized else .invalidRequest

/-- A request in an open session. -/
def receiveRequest (session : Session) (method : RequestMethod) (incoming : Incoming) : Step :=
  if !incoming.isRequest then .handled [] none
  else match Request.read method incoming.params with
    | .error error => .handled [] (some (.error (.invalidParams error)))
    | .ok request =>
      let (sent, reply) := session.serve request
      .handled sent (some reply)

/-- A notification in an open session. -/
def receiveNotification (session : Session) (answer : Json) (method : NotificationMethod)
    (incoming : Incoming) : Session × Step :=
  if incoming.isRequest then (session, replying incoming (.error .invalidRequest))
  else match Notification.read method incoming.params with
    | .error _ => (session, .handled [] none)
    | .ok notification =>
      let (session, sent) := session.heed answer notification
      (session, .handled sent none)

/-- The request that opens a session. -/
def receiveOpening (session : Session) (incoming : Incoming) : Session × Step :=
  if session.phase ≠ .fresh then (session, replying incoming (.error .invalidRequest))
  else if !incoming.isRequest then (session, .handled [] none)
  else match Request.read .opening incoming.params with
    | .ok (.opening options) =>
      ({ session with phase := .running, configuration := .ofOptions options },
        .handled [] (some (.ok Wire.greeting)))
    | .ok _ => (session, .handled [] none)
    | .error error => (session, .handled [] (some (.error (.invalidParams error))))

/-- Whether a method is one of those that a server may ignore. -/
def isOptional (method : Text) : Bool := "$/".toList.isPrefixOf method

/-- Handles one message to its end; `answer` is what the client answers when asked for its
configuration on the way. The next message comes after that. -/
def receive (session : Session) (answer : Json) (incoming : Incoming) : Session × Step :=
  if session.phase = .exited then (session, .exited)
  else match Method.ofName? incoming.method with
    | none =>
      (session, if isOptional incoming.method then .handled [] none
        else replying incoming (.error .methodNotFound))
    | some (.notification .exit) => ({ session with phase := .exited }, .handled [] none)
    | some (.request .opening) => session.receiveOpening incoming
    | some method =>
      if session.phase ≠ .running then (session, replying incoming (.error (refusal session.phase)))
      else match method with
        | .request .shutdown =>
          ({ session with phase := .shutDown }, session.receiveRequest .shutdown incoming)
        | .request method => (session, session.receiveRequest method incoming)
        | .notification method => session.receiveNotification answer method incoming

end Session

end Server

end ComponentFile
