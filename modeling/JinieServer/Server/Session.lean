import JinieServer.Protocol.Wire
import JinieServer.Server.Handle

/-!
# Sessions

Which messages reach the server in which phase. Before `initialize` and after `shutdown` requests
are refused and notifications dropped, cancellations apart; after `exit` nothing is handled at all.
-/

namespace JinieServer.Server

open JinieServer.Protocol

/-- Answers a message if it wants an answer. -/
def refuse (server : Server) (message : Message) (failure : Failure) : Outcome :=
  { server, reply := if message.isRequest then some (.failure failure) else none }

/-- Why a phase refuses ordinary requests. -/
def Phase.refusal : Phase → Option Failure
  | .fresh => some .notInitialized
  | .running => none
  | .shutDown => some .invalidRequest
  | .exited => some .invalidRequest

/-- Handles a message of a known method. A notification sent as a request is refused; a request
sent as a notification, and a notification with bad parameters, have no effect. -/
def deliver (world : World) (server : Server) (method : Method) (message : Message) :
    Outcome :=
  match method.isRequest, message.isRequest with
  | false, true => server.refuse message .invalidRequest
  | true, false => { server }
  | _, _ =>
    match call? method message.params with
    | none => server.refuse message .invalidParams
    | some call => server.handle world call

def Outcome.after (event : Log.Event) (outcome : Outcome) : Outcome :=
  { outcome with events := event :: outcome.events }

/-- The end comes whatever form the message has. -/
def receiveExit (server : Server) : Outcome :=
  { server := { server with phase := .exited }, events := [Event.stopping] }

def receiveConnect (world : World) (server : Server) (method : Method)
    (message : Message) : Outcome :=
  if server.phase = .fresh then server.deliver world method message
  else (server.refuse message .invalidRequest).after Event.connectedTwice

/-- A running server is shut down even by a request with bad parameters. -/
def receiveShutdown (world : World) (server : Server) (method : Method)
    (message : Message) : Outcome :=
  match server.phase.refusal with
  | some failure => server.refuse message failure
  | none =>
    ({ server with phase := .shutDown }.deliver world method message).after Event.shuttingDown

def receiveOther (world : World) (server : Server) (method : Method)
    (message : Message) : Outcome :=
  match server.phase.refusal with
  | some failure => server.refuse message failure
  | none => server.deliver world method message

/-- Messages that a client need not understand have names of their own, and are never answered
when they are unknown. -/
def receiveUnknown (server : Server) (message : Message) : Outcome :=
  if "$/".toList.isPrefixOf message.method.toList then { server }
  else server.refuse message .methodNotFound

/-- What a message does; nothing is handled after the exit. -/
def receive? (world : World) (server : Server) (message : Message) : Option Outcome :=
  if server.phase = .exited then none
  else
    some <|
      match method? message.method with
      | none => server.receiveUnknown message
      | some method =>
        if method.name = "exit" then server.receiveExit
        else if method.name = "initialize" then server.receiveConnect world method message
        else if method.name = "shutdown" then server.receiveShutdown world method message
        else if method.name = "$/cancelRequest" then server.deliver world method message
        else server.receiveOther world method message

/-- What goes out for a message with this id: all that was sent while it was handled, then the
answer. -/
def Outcome.written (id : Option Json) (outcome : Outcome) : List Json :=
  outcome.sent.map Wire.outgoingJson ++
    match id, outcome.reply with
    | some id, some reply => [Wire.replyJson id reply]
    | _, _ => []

/-- The state after a message. -/
def next (world : World) (server : Server) (message : Message) : Server :=
  match server.receive? world message with
  | some outcome => outcome.server
  | none => server

/-- All outcomes of a run, each message with the world it meets. -/
def run (server : Server) : List (World × Message) → List (Option Outcome)
  | [] => []
  | (world, message) :: rest =>
    server.receive? world message :: run (server.next world message) rest

end JinieServer.Server
