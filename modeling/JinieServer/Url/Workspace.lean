import JinieServer.Path
import JinieServer.Url.Parser

/-!
# Workspace folders

The folder that a URL names, as bytes, and the URL of a folder. A folder that is the root of a
drive ends with a slash.
-/

namespace JinieServer.Url

open JinieServer.Text

/-- The bytes of the folder that a URL names; a URL with a host names none. -/
def folder? (url : Url) : Option (List UInt8) :=
  let hostless : Bool := match url.authority with
    | none => true
    | some authority => authority.host.all (· = .domain "localhost".toList)
  match url.path with
  | .segments (first :: more) =>
    if hostless then
      let bytes := (first :: more).flatMap fun segment => Path.slash :: unescapeBytes segment
      let isDrive := match bytes.reverse with
        | mark :: letter :: _ :: _ =>
          (mark = 0x3a || mark = 0x7c) && letter < 0x80 && (Char.ofNat letter.toNat).isAlpha
        | _ => false
      some (if isDrive then bytes ++ [Path.slash] else bytes)
    else none
  | _ => none

def isSegmentChar (c : Char) : Bool := isPathChar c && c ≠ '/' && c ≠ '%' && c ≠ '\\'

/-- The URL of an absolute folder. -/
def ofFolder (folder : List UInt8) : Url :=
  let named := (folder.splitOn Path.slash).filter fun part => part ≠ [] && part ≠ [0x2e]
  let segments := if named.isEmpty then [[]] else named.map (escapeBytes isSegmentChar)
  ⟨fileScheme, some {}, .segments segments, none, none⟩

end JinieServer.Url
