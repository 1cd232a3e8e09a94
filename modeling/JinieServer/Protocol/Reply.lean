import JinieServer.Definition.Lookup
import JinieServer.Json.Basic
import JinieServer.Source.Outline

/-!
# Replies and messages to the editor
-/

namespace JinieServer

def Position.toJson (p : Position) : Json :=
  .obj [("character", .int p.character.toNat), ("line", .int p.line.toNat)]

def Range.toJson (r : Range) : Json :=
  .obj [("end", r.stop.toJson), ("start", r.start.toJson)]

def Definition.Location.toJson (l : Definition.Location) : Json :=
  .obj [("range", l.range.toJson), ("uri", .str l.uri.text)]

def Definition.Target.toJson (t : Definition.Target) : Json :=
  .obj [("position", t.position.toJson), ("uri", .str t.uri)]

namespace Protocol

/-- The kind of symbol that stands for a function. -/
def functionKind : Int := 12

def symbolJson (symbol : Source.Symbol) : Json :=
  .obj [
    ("kind", .int functionKind), ("name", .str symbol.name), ("range", symbol.range.toJson),
    ("selectionRange", symbol.range.toJson)]

/-! ## Replies -/

inductive Failure where
  | notInitialized
  | invalidRequest
  | methodNotFound
  | invalidParams
  | internal (text : String)
deriving DecidableEq, Repr

def Failure.code : Failure → Int
  | .notInitialized => -32002
  | .invalidRequest => -32600
  | .methodNotFound => -32601
  | .invalidParams => -32602
  | .internal _ => -32603

def Failure.message : Failure → String
  | .notInitialized => "Server not initialized"
  | .invalidRequest => "Invalid request"
  | .methodNotFound => "Method not found"
  | .invalidParams => "Invalid params"
  | .internal text => text

inductive Reply where
  | result (value : Json)
  | failure (failure : Failure)

/-! ## Messages to the editor -/

/-- How grave a message in the editor's log is. -/
inductive Severity where
  | error
  | warning
  | info
deriving DecidableEq, Repr

def Severity.number : Severity → Int
  | .error => 1
  | .warning => 2
  | .info => 3

/-- Which files a watcher looks at: all that match, or those below a folder. -/
inductive WatchPattern where
  | everywhere (glob : String)
  | below (base : Url) (glob : String)
deriving DecidableEq, Repr

def WatchPattern.toJson : WatchPattern → Json
  | .everywhere glob => .str glob
  | .below base glob => .obj [("baseUri", .str base.text), ("pattern", .str glob)]

inductive Outgoing where
  | log (severity : Severity) (text : String)
  /-- Tells the editor to open another file. -/
  | openFile (target : Definition.Target)
  /-- Asks the editor to watch the definition files. -/
  | registerWatcher (id : Nat) (pattern : WatchPattern)
deriving DecidableEq, Repr

/-- The notification that opens another file shares its name with the request it follows. -/
def openFileMethod : String := "textDocument/definition"

def Outgoing.method : Outgoing → String
  | .log _ _ => "window/logMessage"
  | .openFile _ => openFileMethod
  | .registerWatcher _ _ => "client/registerCapability"

def Outgoing.params : Outgoing → Json
  | .log severity text => .obj [("message", .str text), ("type", .int severity.number)]
  | .openFile target => target.toJson
  | .registerWatcher _ pattern =>
    .obj [("registrations", .arr [.obj [
      ("id", .str "jinie-definition-files"),
      ("method", .str "workspace/didChangeWatchedFiles"),
      ("registerOptions",
        .obj [("watchers", .arr [.obj [("globPattern", pattern.toJson)]])])]])]

/-- The id of a message that wants an answer. -/
def Outgoing.id? : Outgoing → Option Nat
  | .registerWatcher id _ => some id
  | _ => none

end Protocol

end JinieServer
