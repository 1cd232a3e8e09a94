import JinieServer.Command.Usage
import JinieServer.Server.Session

/-!
# A run of the server from its options

The settings start from the defaults, with the user's file and then the file of the command line
on top. A file that cannot be used is reported and passed over.
-/

namespace JinieServer.Command

structure Environment where
  /-- The home folder, if there is one. -/
  home : Option String
  /-- The folder for settings, if one is named. -/
  configHome : Option String := none
  logFilter : Option String := none

/-- The user's file, and then the one that the command line names. Without a home folder there is
no user's file. -/
def settingsPaths (environment : Environment) (options : Options) : List (List UInt8) :=
  let user := environment.home.map fun home =>
    userSettingsPath home.toList (environment.configHome.map String.toList)
  (user.toList ++ (options.config.map String.toList).toList).map Text.utf8

def startLayers (world : World) (environment : Environment) (options : Options) :
    List (Except SettingsError Layer) :=
  (settingsPaths environment options).map (Layer.load world)

def startSettings (world : World) (environment : Environment) (options : Options) :
    Settings :=
  Settings.default.applyAll (startLayers world environment options)

def startEvents (world : World) (environment : Environment) (options : Options) :
    List Log.Event :=
  (Layer.failures (startLayers world environment options)).map
      (fun text => ⟨.warn, .startup, text ++ "; ignoring", []⟩) ++
    [⟨.info, .startup, "starting " ++ Server.name,
      [("version", Text.quoted Server.version), ("stdio", toString options.stdio)]⟩]

def logFilter (environment : Environment) (options : Options) : Log.Filter :=
  Log.choose (options.logLevel.map String.toList) (environment.logFilter.map String.toList)

/-- All that a run shows. -/
structure Transcript where
  replies : List Protocol.Reply
  sent : List Protocol.Outgoing
  log : List String

/-- A run over messages, in a world that stays as it is. -/
def transcript (world : World) (environment : Environment) (options : Options)
    (messages : List Protocol.Message) : Transcript :=
  let server := Server.start (some .agrees) (startSettings world environment options)
  let outcomes := (server.run (messages.map (world, ·))).filterMap id
  let events := startEvents world environment options ++ outcomes.flatMap (·.events)
  { replies := outcomes.filterMap (·.reply)
    sent := outcomes.flatMap (·.sent)
    log := (events.filter (·.isShown (logFilter environment options))).map Log.Event.line }

end JinieServer.Command
