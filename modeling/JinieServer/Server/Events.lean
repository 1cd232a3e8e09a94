import JinieServer.Log.Event
import JinieServer.Protocol.Reply
import JinieServer.Text.Quoted

/-!
# What the server writes to its log
-/

namespace JinieServer

open Log Text

def Definition.Tier.label : Definition.Tier → String
  | .siblings => "SiblingFiles"
  | .shared => "SharedFolder"

/-- What a lookup that did not fail writes about its way. -/
def Definition.Verdict.events (position : Position) : Definition.Verdict → List Event
  | .noCall =>
    [⟨.debug, .lookup, "no invocation on requested line", [("line", toString position.line)]⟩]
  | .inDocument name line _ =>
    [⟨.debug, .lookup, "resolved in document",
      [("name", quoted name), ("line", toString line)]⟩]
  | .inFile name tier hit =>
    [⟨.debug, .folderSearch, "found declaration in definition file",
        [("name", quoted name), ("file", String.ofList (lossy hit.path)),
          ("line", toString hit.position.line)]⟩,
      ⟨.debug, .lookup, "resolved in definition file",
        [("name", quoted name), ("tier", tier.label), ("file", hit.target.uri)]⟩]
  | .nowhere name => [⟨.debug, .lookup, "no declaration found", [("name", quoted name)]⟩]

namespace Server.Event

def skippedLayer (text : String) : Event :=
  ⟨.warn, .server, text ++ "; keeping previous settings", []⟩

def settingsLoaded (settings : Settings) : Event :=
  ⟨.info, .server, "configuration loaded",
    [("extension", settings.extension), ("shared_folder", settings.sharedFolder)]⟩

/-- A pattern as the log shows it. -/
def patternText : Protocol.WatchPattern → String
  | .everywhere glob => "String(" ++ quoted glob ++ ")"
  | .below base glob =>
    "Relative(RelativePattern \x7b base_uri: Right(Url \x7b scheme: " ++
      quoted (String.ofList base.scheme) ++
      ", cannot_be_a_base: false, username: \"\", password: None, host: None, port: None, path: " ++
      quoted (String.ofList base.path.text) ++ ", query: None, fragment: None \x7d), pattern: " ++
      quoted glob ++ " \x7d)"

def watcherRegistered (pattern : Protocol.WatchPattern) : Event :=
  ⟨.debug, .server, "registered definition file watcher",
    [("glob_pattern", patternText pattern)]⟩

def watcherRefused : Event :=
  ⟨.warn, .server, "client refused file watcher registration", []⟩

def ready : Event := ⟨.info, .server, "JinieLSP initialized", []⟩

def opened (uri : String) : Event := ⟨.debug, .server, "opened", [("uri", uri)]⟩

def closed (uri : String) : Event := ⟨.debug, .server, "closed", [("uri", uri)]⟩

def changeLabel (kind : Int) : String :=
  if kind = 1 then "Created"
  else if kind = 2 then "Changed"
  else if kind = 3 then "Deleted"
  else "FileChangeType(" ++ toString kind ++ ")"

def fileChanged (uri : String) (kind : Int) : Event :=
  ⟨.info, .server, "definition file changed", [("uri", uri), ("kind", changeLabel kind)]⟩

def lookupFailed (uri text : String) : Event :=
  ⟨.error, .server, "definition lookup failed", [("uri", uri), ("error", text)]⟩

/-! ## What becomes of messages -/

def connectedTwice : Event :=
  ⟨.warn, .gate, "received duplicate `initialize` request, ignoring", []⟩

def shuttingDown : Event := ⟨.info, .gate, "shutdown request received, shutting down", []⟩

def stopping : Event := ⟨.info, .gate, "exit notification received, stopping", []⟩

def unservedRequest (method : String) : Event :=
  ⟨.error, .unserved, "Got a " ++ method ++ " request, but it is not implemented", []⟩

def unservedNotice (method : String) : Event :=
  ⟨.warn, .unserved, "Got a " ++ method ++ " notification, but it is not implemented", []⟩

def nothingToCancel (id : String) : Event :=
  ⟨.debug, .pending, "client asked to cancel request " ++ id ++
    ", but no such pending request exists, ignoring", []⟩

end Server.Event

end JinieServer
