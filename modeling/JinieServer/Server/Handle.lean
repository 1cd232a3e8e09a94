import JinieServer.Protocol.Call
import JinieServer.Server.Events
import JinieServer.Server.State
import JinieServer.Settings.Layer

/-!
# Handling calls

Each call gives the next state, an answer if it is a request, the messages sent to the editor and
the events logged. Without a client nothing is sent.
-/

namespace JinieServer.Server

open JinieServer.Protocol

structure Outcome where
  server : Server
  reply : Option Reply := none
  sent : List Outgoing := []
  events : List Log.Event := []

/-- What reaches the client, if there is one. -/
def toClient (server : Server) (messages : List Outgoing) : List Outgoing :=
  if server.client.isSome then messages else []

/-! ## Starting up -/

/-- The layers that `initialize` brings: the workspace's file, then the client's options. -/
def connectLayers (world : World) (setup : ClientSetup) :
    List (Except SettingsError Layer) :=
  let workspace := match setup.rootUri.bind Url.folder? with
    | none => []
    | some folder => [Layer.load world (workspaceSettingsPath folder)]
  let options := match setup.options with
    | some options => [Layer.ofOptions options]
    | none => []
  workspace ++ options

def capabilities : Json :=
  .obj [
    ("capabilities", .obj [
      ("definitionProvider", .bool true),
      ("documentSymbolProvider", .bool true),
      ("textDocumentSync", .int 1)]),
    ("serverInfo", .obj [("name", .str Server.name), ("version", .str Server.version)])]

def connect (world : World) (server : Server) (setup : ClientSetup) : Outcome :=
  let layers := connectLayers world setup
  let settings := server.base.applyAll layers
  let warnings := Layer.failures layers
  { server :=
      { server with
        settings
        root := (setup.rootUri.bind Url.folder?).or server.root
        watches := setup.watches
        phase := .running }
    reply := some (.result capabilities)
    sent := server.toClient (warnings.map (.log .warning))
    events := warnings.map Event.skippedLayer ++ [Event.settingsLoaded settings] }

def initialized (server : Server) : Outcome :=
  let greeting := Outgoing.log .info "JinieLSP initialized!"
  match server.watches, server.client with
  | true, some client =>
    let pattern := server.watchPattern
    { server := { server with nextId := server.nextId + 1 }
      sent := [.registerWatcher server.nextId pattern, greeting]
      events := [
        match client with
        | .agrees => Event.watcherRegistered pattern
        | .refuses => Event.watcherRefused,
        Event.ready] }
  | _, _ => { server, sent := server.toClient [greeting], events := [Event.ready] }

/-! ## Documents -/

def didOpen (server : Server) (uri : Url) (text : String) : Outcome where
  server := { server with documents := server.documents.insert uri.text text }
  sent := server.toClient [.log .info ("Opened file: " ++ uri.text)]
  events := [Event.opened uri.text]

/-- The first change carries the whole text. -/
def didChange (server : Server) (uri : Url) (texts : List String) : Outcome where
  server :=
    match texts with
    | text :: _ => { server with documents := server.documents.insert uri.text text }
    | [] => server

def didClose (server : Server) (uri : Url) : Outcome where
  server := { server with documents := server.documents.erase uri.text }
  sent := server.toClient [.log .info ("Closed file: " ++ uri.text)]
  events := [Event.closed uri.text]

def filesChanged (server : Server) (changes : List FileChange) : Outcome where
  server := server
  sent := server.toClient
    (changes.map fun change => .log .info ("Definition file changed: " ++ change.uri.text))
  events := changes.map fun change => Event.fileChanged change.uri.text change.kind

/-! ## Requests -/

def outline (server : Server) (uri : Url) : Json :=
  match server.documents.get? uri.text with
  | none => .null
  | some text => .arr ((Source.symbols text.toList).map symbolJson)

def definition (files : FileSystem) (server : Server) (uri : Url) (position : Position) :
    Outcome :=
  match server.documents.get? uri.text with
  | none => { server, reply := some (.result .null) }
  | some text =>
    match Definition.verdict files server.settings uri text.toList position with
    | .error e =>
      { server
        reply := some (.failure (.internal e.message))
        sent := server.toClient [.log .error ("Definition lookup failed: " ++ e.message)]
        events := [Event.lookupFailed uri.text e.message] }
    | .ok verdict =>
      match verdict.resolution? uri with
      | none => { server, reply := some (.result .null), events := verdict.events position }
      | some resolution =>
        { server
          reply := some (.result resolution.location.toJson)
          sent := server.toClient (resolution.target?.toList.map .openFile)
          events := verdict.events position }

/-! ## All calls -/

/-- Handles a call that the server's phase allows. -/
def handle (world : World) (server : Server) : Call → Outcome
  | .connect setup => server.connect world setup
  | .initialized => server.initialized
  | .shutdown => { server := { server with phase := .shutDown }, reply := some (.result .null) }
  | .exit => { server := { server with phase := .exited } }
  | .didOpen uri text => server.didOpen uri text
  | .didChange uri texts => server.didChange uri texts
  | .didClose uri => server.didClose uri
  | .filesChanged changes => server.filesChanged changes
  | .outline uri => { server, reply := some (.result (server.outline uri)) }
  | .definition uri position => server.definition world.disk uri position
  | .unserved method =>
    { server
      reply := some (.failure .methodNotFound)
      events := [Event.unservedRequest method] }
  | .silent method => { server, events := [Event.unservedNotice method] }
  | .cancel id => { server, events := [Event.nothingToCancel id] }

end JinieServer.Server
