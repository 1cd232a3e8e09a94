import JinieServer.FileSystem
import JinieServer.Json.Decode
import JinieServer.Settings.Basic
import JinieServer.Toml.Document

/-!
# Reading a layer

A layer is read from a TOML file or from the options that an editor sends as JSON. Each setting
has two spellings, and may be given under one of them.
-/

namespace JinieServer

inductive SettingsError where
  | unreadable (path : List Char) (cause : FileError)
  | malformed (path : List Char) (complaint : String)
  | options (cause : DecodeError)
deriving Inhabited

def SettingsError.message : SettingsError → String
  | .unreadable path cause =>
    "failed to read config file " ++ String.ofList path ++ ": " ++ cause.message
  | .malformed path complaint =>
    "invalid config file " ++ String.ofList path ++ ": " ++ complaint
  | .options cause => "invalid initialization options: " ++ cause.message

/-- What a server meets outside of itself. -/
structure World where
  disk : FileSystem
  /-- What the TOML library says about a text that it refuses. -/
  refusal : List Char → String

namespace Layer

def isExtensionKey (key : String) : Bool :=
  key = "definition_extension" || key = "definitionExtension"

def isFolderKey (key : String) : Bool := key = "shared_folder" || key = "sharedFolder"

/-! ## From JSON -/

/-- What has been seen of an object: a setting given as null has been seen too. -/
structure Seen where
  extension : Option (Option String) := none
  sharedFolder : Option (Option String) := none

def Seen.add (seen : Seen) (member : String × Json) : Except DecodeError Seen :=
  let (key, value) := member
  if isExtensionKey key then do
    let extension ← Json.once "definition_extension" seen.extension value.asOptionalString
    return { seen with extension }
  else if isFolderKey key then do
    let sharedFolder ← Json.once "shared_folder" seen.sharedFolder value.asOptionalString
    return { seen with sharedFolder }
  else return seen

def Seen.layer (seen : Seen) : Layer := ⟨seen.extension.join, seen.sharedFolder.join⟩

def ofJson : Json → Except DecodeError Layer
  | .obj members => return (← members.foldlM Seen.add {}).layer
  | .arr [] => return {}
  | .arr [extension] => return ⟨← extension.asOptionalString, none⟩
  | .arr (first :: second :: rest) => do
    let extension ← first.asOptionalString
    let sharedFolder ← second.asOptionalString
    Json.noMore (first :: second :: rest) rest
    return { extension, sharedFolder }
  | other => .error (.invalidType other "struct PartialConfig")

/-- The layer of an editor's options. -/
def ofOptions (options : Json) : Except SettingsError Layer :=
  (ofJson options).mapError SettingsError.options

/-! ## From TOML -/

/-- The setting given by the entries of its two spellings. -/
def setting? : Toml.Entries → Option (Option String)
  | [] => some none
  | [(_, .text s)] => some (some s)
  | _ => none

def ofToml (text : List Char) : Except Toml.Fault Layer := do
  let entries ← Toml.parse text
  let named (isKey : String → Bool) : Toml.Entries := entries.filter fun (key, _) => isKey key
  let extension ← Toml.orMalformed (setting? (named isExtensionKey))
  let sharedFolder ← Toml.orMalformed (setting? (named isFolderKey))
  return { extension, sharedFolder }

def ofTomlFile (refusal : List Char → String) (path text : List Char) :
    Except SettingsError Layer :=
  (ofToml text).mapError fun fault => .malformed path (fault.text (refusal text))

/-- The layer in a file. A file that is not there is an empty layer. -/
def load (world : World) (path : List UInt8) : Except SettingsError Layer :=
  match world.disk.read path with
  | .ok text => ofTomlFile world.refusal (Text.lossy path) text
  | .error .notFound => .ok {}
  | .error cause => .error (.unreadable (Text.lossy path) cause)

/-- The texts of the layers that could not be read. -/
def failures (layers : List (Except SettingsError Layer)) : List String :=
  layers.filterMap fun layer =>
    match layer with
    | .ok _ => none
    | .error e => some e.message

end Layer

/-- Applies the layers that could be read, lowest first. -/
def Settings.applyAll (base : Settings) (layers : List (Except SettingsError Layer)) : Settings :=
  layers.foldl (fun settings layer =>
    match layer with
    | .ok layer => settings.apply layer
    | .error _ => settings) base

end JinieServer
