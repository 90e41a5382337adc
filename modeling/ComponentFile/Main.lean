import ComponentFile.Json.Reader
import ComponentFile.Server.Session

/-!
The server as a program: messages with a length header on standard input and output.

This module only frames messages and keeps the session; what a message does is decided by
`Server.Session.receive`.
-/

namespace ComponentFile

namespace Program

open Server

/-- The bytes that the header of a message announces. -/
def announcedLength? (line : String) : Option Nat :=
  let mark := "content-length:".toList
  let text := line.toList
  if mark.isPrefixOf (text.map Char.toLower) then
    (String.ofList (Text.trim (text.drop mark.length))).toNat?
  else none

/-- Reads header lines up to the empty one; answers with the announced length, and `none` at the end
of the input. -/
partial def readHeader (input : IO.FS.Stream) (length : Nat) : IO (Option Nat) := do
  let line ← input.getLine
  if line.isEmpty then return none
  if (Text.trim line.toList).isEmpty then return some length
  readHeader input ((announcedLength? line).getD length)

/-- Reads the given number of bytes. -/
partial def readBytes (input : IO.FS.Stream) (count : Nat) (read : ByteArray) : IO ByteArray := do
  if read.size ≥ count then return read
  let more ← input.read (count - read.size).toUSize
  if more.isEmpty then return read
  readBytes input count (read ++ more)

/-- Reads a message; `none` at the end of the input. -/
def readMessage (input : IO.FS.Stream) : IO (Option Json) := do
  match ← readHeader input 0 with
  | none => return none
  | some length =>
    let bytes ← readBytes input length ByteArray.empty
    return some ((((String.fromUTF8? bytes).map String.toList).bind Json.parse).getD .null)

/-- Writes a message. -/
def writeMessage (output : IO.FS.Stream) (json : Json) : IO Unit := do
  let body := String.ofList json.render
  output.putStr s!"Content-Length: {body.utf8ByteSize}\r\n\r\n{body}"
  output.flush

/-- A message of the protocol with the given members. -/
def envelope (members : List (String × Json)) : Json := .record (("jsonrpc", .str "2.0") :: members)

/-- Sends something on the server's own account; requests are numbered. -/
def send (output : IO.FS.Stream) (number : Nat) (outgoing : Outgoing) : IO Unit :=
  let id := if outgoing.isRequest then [("id", Json.nat number)] else []
  writeMessage output
    (envelope (id ++ [("method", .str outgoing.method), ("params", outgoing.params)]))

/-- Reads messages until the answer to a request of the server arrives. Answers with its result and
the messages that came before it. -/
partial def awaitAnswer (input : IO.FS.Stream) (number : Nat) (earlier : List Json) :
    IO (Json × List Json) := do
  match ← readMessage input with
  | none => return (.null, earlier)
  | some message =>
    let isAnswer := (message.get? "method").isNone
      && (message.get? "id").bind Json.asNat? = some number
    if isAnswer then return ((message.get? "result").getD .null, earlier)
    else awaitAnswer input number (earlier ++ [message])

/-- A message as the session takes it; answers of the client are no messages. -/
def incoming? (message : Json) : Option Session.Incoming :=
  ((message.get? "method").bind Json.asString?).map fun method =>
    ⟨method, message.get? "params", (message.get? "id").isSome⟩

/-- Replies to a request. -/
def reply (output : IO.FS.Stream) (message : Json) : Option Reply → IO Unit
  | none => return ()
  | some answer =>
    let body := match answer with
      | .ok result => ("result", result)
      | .error failure => ("error", failure.toJson)
    writeMessage output (envelope [("id", (message.get? "id").getD .null), body])

/-- Sends what a step sends; answers with the number for the next request. -/
def sendAll (output : IO.FS.Stream) (number : Nat) : List Outgoing → IO Nat
  | [] => return number
  | outgoing :: rest => do
    send output number outgoing
    sendAll output (if outgoing.isRequest then number + 1 else number) rest

/-- The next message: one that is waiting, or else one from the input. -/
def nextMessage (input : IO.FS.Stream) : List Json → IO (Option (Json × List Json))
  | message :: rest => return some (message, rest)
  | [] => return (← readMessage input).map (·, [])

/-- Handles messages until the session or the input ends. A message is handled to its end before the
next one: where it makes the session ask for the configuration, the client's answer is awaited, and
what arrives before the answer waits. -/
partial def loop (input output : IO.FS.Stream) (session : Session) (number : Nat)
    (waiting : List Json) : IO Unit := do
  match ← nextMessage input waiting with
  | none => return ()
  | some (message, waiting) =>
    match incoming? message with
    | none => loop input output session number waiting
    | some incoming =>
      match session.receive .null incoming with
      | (_, .exited) => return ()
      | (after, .handled sent answer) =>
        match sent with
        | .configuration :: _ =>
          send output number .configuration
          let (configuration, earlier) ← awaitAnswer input number []
          match session.receive configuration incoming with
          | (after, .handled sent answer) =>
            let number ← sendAll output (number + 1) sent.tail
            reply output message answer
            loop input output after number (waiting ++ earlier)
          | (_, .exited) => return ()
        | sent =>
          let number ← sendAll output number sent
          reply output message answer
          if after.phase = .exited then return ()
          loop input output after number waiting

end Program

end ComponentFile

/-- Runs the server on standard input and output. -/
def main : IO Unit := do
  ComponentFile.Program.loop (← IO.getStdin) (← IO.getStdout) {} 0 []
