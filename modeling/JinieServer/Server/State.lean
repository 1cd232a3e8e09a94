import JinieServer.Protocol.Reply
import JinieServer.Server.Documents
import JinieServer.Url.Workspace

/-!
# The state of the server
-/

namespace JinieServer

namespace Server

/-- Where the server stands in its life. -/
inductive Phase where
  | fresh
  | running
  | shutDown
  | exited
deriving DecidableEq, Repr

/-- How the client answers what the server asks of it. -/
inductive Client where
  | agrees
  | refuses
deriving DecidableEq, Repr

end Server

structure Server where
  client : Option Server.Client
  /-- The settings before the workspace and the client have their say. -/
  base : Settings
  settings : Settings
  /-- The workspace folder as bytes. -/
  root : Option (List UInt8) := none
  /-- Whether the client lets the server register watchers. -/
  watches : Bool := false
  documents : Documents := []
  phase : Server.Phase := .fresh
  /-- The id of the next request to the client. -/
  nextId : Nat := 0

namespace Server

def name : String := "JinieLSP"

def version : String := "0.1.0"

def start (client : Option Client) (base : Settings) : Server :=
  { client, base, settings := base }

/-- The pattern a watcher should have now. -/
def watchPattern (server : Server) : Protocol.WatchPattern :=
  match server.root with
  | some folder => .below (Url.ofFolder folder) server.settings.watchGlob
  | none => .everywhere server.settings.watchGlob

end Server

end JinieServer
