import JinieServer.Definition.Folder
import JinieServer.FileUri
import JinieServer.Settings.Basic
import JinieServer.Url.Basic

/-!
# Looking up a definition

The call on a line leads to the first line of the document that declares its name, else to the
definition files beside the document, else to those in the shared folder.
-/

namespace JinieServer.Definition

/-- The folders that are searched once the document itself declares nothing. -/
inductive Tier where
  | siblings
  | shared
deriving DecidableEq, Repr

def Tier.order : List Tier := [.siblings, .shared]

def Tier.folder (dir : List Char) (settings : Settings) : Tier → List Char
  | .siblings => dir
  | .shared => Path.join dir settings.sharedFolder.toList

/-- What a lookup that did not fail has found. -/
inductive Verdict where
  | noCall
  | inDocument (name : String) (line : UInt32) (range : Range)
  | inFile (name : String) (tier : Tier) (hit : Hit)
  | nowhere (name : String)
deriving DecidableEq, Repr

def searchTiers (files : FileSystem) (settings : Settings) (dir name : List Char) :
    List Tier → Except LookupError (Option (Tier × Hit))
  | [] => .ok none
  | tier :: rest =>
    match searchFolder files (tier.folder dir settings) name settings.extension with
    | .error e => .error e
    | .ok (some hit) => .ok (some (tier, hit))
    | .ok none => searchTiers files settings dir name rest

def verdict (files : FileSystem) (settings : Settings) (uri : Url) (text : List Char)
    (position : Position) : Except LookupError Verdict :=
  match Source.callAt? text position with
  | none => .ok .noCall
  | some call =>
    match Source.declarationLine? text call.name.toList with
    | some (index, line) => .ok (.inDocument call.name index (Source.lineRange index line))
    | none =>
      match FileUri.folder? uri.chars with
      | none => .error (.unsupportedUri uri.text)
      | some dir =>
        match searchTiers files settings dir call.name.toList Tier.order with
        | .error e => .error e
        | .ok none => .ok (.nowhere call.name)
        | .ok (some (tier, hit)) => .ok (.inFile call.name tier hit)

structure Location where
  uri : Url
  range : Range
deriving DecidableEq, Repr

/-- The file that an editor is told to open, and where in it. -/
structure Target where
  uri : String
  position : Position
deriving DecidableEq, Repr

inductive Resolution where
  /-- The declaration stands in the requesting document. -/
  | here (location : Location)
  /-- The declaration stands in another file: the location still names the requesting document. -/
  | elsewhere (location : Location) (target : Target)
deriving DecidableEq, Repr

def Resolution.location : Resolution → Location
  | .here location => location
  | .elsewhere location _ => location

def Resolution.target? : Resolution → Option Target
  | .here _ => none
  | .elsewhere _ target => some target

def Hit.target (hit : Hit) : Target := ⟨String.ofList (FileUri.ofBytes hit.path), hit.position⟩

def Verdict.resolution? (uri : Url) : Verdict → Option Resolution
  | .noCall => none
  | .inDocument _ _ range => some (.here ⟨uri, range⟩)
  | .inFile _ _ hit => some (.elsewhere ⟨uri, Range.at hit.position⟩ hit.target)
  | .nowhere _ => none

def findDefinition (files : FileSystem) (settings : Settings) (uri : Url) (text : List Char)
    (position : Position) : Except LookupError (Option Resolution) :=
  (verdict files settings uri text position).map (·.resolution? uri)

end JinieServer.Definition
