import JinieServer.Command.Program
import JinieServer.Protocol.Wire
import JinieServer.Server.Reach

/-!
# The program

Messages come from standard input and go to standard output; the log goes to standard error.
-/

namespace JinieServer.Program

/-! ## Looking at the disk -/

def fileError : IO.Error → FileError
  | .noFileOrDirectory _ _ _ => .notFound
  | .inappropriateType _ code _ => if code = 21 then .isDirectory else .notDirectory
  | .invalidArgument _ code _ => if code = 36 then .nameTooLong else .linkLoop
  | e => .other (toString e)

def readText (place : List UInt8) : IO (Except FileError (List Char)) := do
  if place.contains 0 then return .error .nulInPath
  match Text.ofUtf8? place with
  | none => return .error .notFound
  | some path =>
    try
      let bytes ← IO.FS.readBinFile (String.ofList path)
      return match Text.ofUtf8? bytes.toList with
        | some text => .ok text
        | none => .error .notUtf8
    catch e => return .error (fileError e)

def isRegular (path : String) : IO Bool := do
  try
    let real ← IO.FS.realPath path
    return (← real.metadata).type == .file
  catch _ => return false

/-- The definition files of a folder, with their texts. Names come as texts here. -/
def lookAtFiles (folder : List Char) (extension : String) (names : List (List Char)) :
    IO (List (List UInt8 × Except FileError (List Char))) := do
  let named := names.filter ('.' :: extension.toList).isSuffixOf
  let mut seen := []
  for name in named do
    let path := Path.join folder name
    let place := Text.utf8 path
    if ← isRegular (String.ofList path) then seen := (place, ← readText place) :: seen
  return seen.reverse

def lookAtFolder (extension : String) (folder : List Char) : IO Snapshot := do
  try
    let real ← IO.FS.realPath (String.ofList folder)
    let names := (← real.readDir).toList.map (·.fileName.toList)
    let entries := names.map fun name => .ok (Text.utf8 name)
    return { folders := [(Text.utf8 folder, .ok entries)]
             files := ← lookAtFiles folder extension names }
  catch e => return { folders := [(Text.utf8 folder, .error (fileError e))] }

def lookAt (extension : String) (reach : Reach) : IO Snapshot := do
  let folders ← reach.folders.mapM (lookAtFolder extension)
  let texts ← reach.texts.mapM fun place => return (place, ← readText place)
  return folders.foldl Snapshot.append { files := texts }

/-- The program has a TOML reader of its own, which gives no reasons. -/
def worldOf (seen : Snapshot) : World := ⟨seen.fileSystem, fun _ => "TOML parse error"⟩

/-! ## Messages -/

/-- Reads the header lines of a message; none at the end of the input. -/
partial def readLength (input : IO.FS.Stream) (length : Option Nat) : IO (Option Nat) := do
  let line ← input.getLine
  if line.isEmpty then return none
  else if line.trimAscii.isEmpty then return some (length.getD 0)
  else readLength input ((Protocol.Wire.contentLength? line).or length)

partial def readBytes (input : IO.FS.Stream) (seen : ByteArray) (missing : Nat) : IO ByteArray := do
  if missing = 0 then return seen
  let bytes ← input.read (USize.ofNat missing)
  if bytes.isEmpty then return seen
  readBytes input (seen ++ bytes) (missing - bytes.size)

def write (value : Json) : IO Unit := do
  let output ← IO.getStdout
  output.putStr (Protocol.Wire.framed value)
  output.flush

def log (filter : Log.Filter) (events : List Log.Event) : IO Unit := do
  for event in events do
    if event.isShown filter then IO.eprintln event.line

def deliver (filter : Log.Filter) (server : Server) (incoming : Protocol.Wire.Incoming) :
    IO Server := do
  let seen ← lookAt server.settings.extension (server.reach incoming.message)
  match server.receive? (worldOf seen) incoming.message with
  | none => return server
  | some outcome =>
    log filter outcome.events
    for value in outcome.written incoming.id do write value
    return outcome.server

partial def serve (filter : Log.Filter) (server : Server) : IO Unit := do
  if server.phase = .exited then return
  let input ← IO.getStdin
  match ← readLength input none with
  | none => return
  | some length =>
    let text := String.fromUTF8? (← readBytes input .empty length)
    match text.bind Protocol.Wire.incoming? with
    | some incoming => serve filter (← deliver filter server incoming)
    | none => serve filter server

def start (options : Command.Options) : IO Unit := do
  let environment : Command.Environment := {
    home := ← IO.getEnv "HOME"
    configHome := ← IO.getEnv "XDG_CONFIG_HOME"
    logFilter := ← IO.getEnv "RUST_LOG" }
  let world := worldOf (← lookAt "" { texts := Command.settingsPaths environment options })
  let filter := Command.logFilter environment options
  log filter (Command.startEvents world environment options)
  serve filter (Server.start (some .agrees) (Command.startSettings world environment options))

end JinieServer.Program

def main (arguments : List String) : IO UInt32 := do
  match JinieServer.Command.options arguments with
  | .ok options =>
    JinieServer.Program.start options
    return 0
  | .error stop =>
    IO.print stop.output
    for text in stop.complaint?.toList do IO.eprintln text
    return stop.exitCode.toUInt32
