import JinieServer.Json.Parser
import JinieServer.Json.Printer
import JinieServer.Protocol.Call
import JinieServer.Protocol.Reply

/-!
# Messages on the wire

A message is a JSON object behind a header that gives its length in bytes.
-/

namespace JinieServer.Protocol.Wire

/-- A message as it comes in. A request carries an id. -/
structure Incoming where
  id : Option Json
  message : Message

/-- Reads a message; an answer to one of the server's own requests has no method and is none. -/
def incoming? (text : String) : Option Incoming := do
  let value ← Json.parse? text
  match value.member? "method" with
  | some (.str method) =>
    let id := value.member? "id"
    return ⟨id, { method, params := value.member? "params", isRequest := id.isSome }⟩
  | _ => none

def envelope (members : List (String × Json)) : Json :=
  Json.ofMembers (("jsonrpc", .str "2.0") :: members)

def failureJson (failure : Failure) : Json :=
  Json.ofMembers [("code", .int failure.code), ("message", .str failure.message)]

def replyJson (id : Json) : Reply → Json
  | .result value => envelope [("id", id), ("result", value)]
  | .failure failure => envelope [("id", id), ("error", failureJson failure)]

def outgoingJson (message : Outgoing) : Json :=
  envelope (("method", .str message.method) :: ("params", message.params) ::
    (message.id?.map fun id => ("id", Json.int id)).toList)

/-- A value with its header. -/
def framed (value : Json) : String :=
  let text := value.render
  "Content-Length: " ++ toString text.utf8ByteSize ++ "\r\n\r\n" ++ text

def lengthHeader : List Char := "content-length:".toList

/-- The length that a header line gives, if it is the one that gives it. -/
def contentLength? (line : String) : Option Nat :=
  let chars := line.toList
  let name := chars.take lengthHeader.length
  let value := (chars.drop lengthHeader.length).filter fun c => !c.isWhitespace
  if name.map Char.toLower = lengthHeader ∧ value ≠ [] ∧ value.all Char.isDigit then
    some (Nat.ofDigitChars 10 value 0)
  else none

end JinieServer.Protocol.Wire
