import JinieServer.FileSystem
import JinieServer.Path
import JinieServer.Source.Outline

/-!
# Searching a folder

The definition files of a folder are its files whose names end in the extension, in the order the
disk gives them. The first one that holds the declaration wins; one that cannot be read before
that ends the search.
-/

namespace JinieServer.Definition

open JinieServer.Text

inductive LookupError where
  | unsupportedUri (uri : String)
  | unreadableFolder (path : List Char) (cause : FileError)
  | unreadableEntry (path : List Char) (cause : FileError)
  | unreadableFile (path : List UInt8) (cause : FileError)
deriving DecidableEq, Repr, Inhabited

def LookupError.message : LookupError → String
  | .unsupportedUri uri => "document URI `" ++ uri ++ "` does not refer to a local file"
  | .unreadableFolder path cause =>
    "failed to read directory " ++ String.ofList path ++ ": " ++ cause.message
  | .unreadableEntry path cause =>
    "failed to read an entry of " ++ String.ofList path ++ ": " ++ cause.message
  | .unreadableFile path cause =>
    "failed to read definition file " ++ String.ofList (lossy path) ++ ": " ++ cause.message

/-- Where a declaration stands on disk. -/
structure Hit where
  path : List UInt8
  position : Position
deriving DecidableEq, Repr

/-- The names in a folder, unless one of them cannot be read. -/
def entryNames (folder : List Char) :
    List (Except FileError (List UInt8)) → Except LookupError (List (List UInt8))
  | [] => .ok []
  | .error cause :: _ => .error (.unreadableEntry folder cause)
  | .ok name :: rest => (entryNames folder rest).map (name :: ·)

/-- The path of a name in a folder. -/
def entryPath (folder : List Char) (name : List UInt8) : List UInt8 :=
  Path.joinBytes (utf8 folder) name

/-- A name that is no text is looked at as it is shown. -/
def isDefinitionFile (files : FileSystem) (folder : List Char) (extension : String)
    (name : List UInt8) : Bool :=
  files.isFile (entryPath folder name) && ('.' :: extension.toList).isSuffixOf (lossy name)

/-- The paths of the definition files directly in a folder. -/
def definitionFiles (files : FileSystem) (folder : List Char) (extension : String) :
    Except LookupError (List (List UInt8)) := do
  let entries ← (files.list (utf8 folder)).mapError (.unreadableFolder folder)
  let names ← entryNames folder entries
  return (names.filter (isDefinitionFile files folder extension)).map (entryPath folder)

/-- The first file that decides a search. -/
def firstHit (files : FileSystem) (name : List Char) :
    List (List UInt8) → Except LookupError (Option Hit)
  | [] => .ok none
  | path :: rest =>
    match files.read path with
    | .error cause => .error (.unreadableFile path cause)
    | .ok text =>
      match Source.declarationPosition? text name with
      | some position => .ok (some ⟨path, position⟩)
      | none => firstHit files name rest

def searchFolder (files : FileSystem) (folder name : List Char) (extension : String) :
    Except LookupError (Option Hit) := do
  firstHit files name (← definitionFiles files folder extension)

end JinieServer.Definition
