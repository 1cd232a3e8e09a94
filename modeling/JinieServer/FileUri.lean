import JinieServer.Path
import JinieServer.Text.Basic
import JinieServer.Text.Percent

/-!
# File URIs and paths

An editor names a document by a `file://` URI. A drive path such as `c:/work` is written
`file:///c%3A/work`; the slash before the drive letter is no part of the path.
-/

namespace JinieServer.FileUri

open JinieServer.Text

def scheme : List Char := "file://".toList

/-- The drive letter of `X:rest`, and the rest. -/
def drive? : List Char → Option (Char × List Char)
  | letter :: ':' :: rest => if letter.isAlpha then some (letter, rest) else none
  | _ => none

/-- The path of a decoded URI body. -/
def bodyPath? : List Char → Option (List Char)
  | [] => none
  | '/' :: rest => if (drive? rest).isSome then some rest else some ('/' :: rest)
  | body => some body

/-- The path that a URI names, if it is a file URI and decodes to UTF-8. -/
def path? (uri : List Char) : Option (List Char) := do
  bodyPath? (← unescape? (← after? scheme uri))

/-- The folder that holds the document. -/
def folder? (uri : List Char) : Option (List Char) := (path? uri).bind Path.parent?

/-- The characters that a generated URI holds as they are. -/
def isPlain (c : Char) : Bool :=
  isAscii c && !isControl c && !(" \"#%<>?[\\]^`\x7b|\x7d:".toList.contains c)

def ofPath (path : List Char) : List Char :=
  match drive? path with
  | some (letter, rest) =>
    let slashed := rest.map fun c => if c = '\\' then '/' else c
    "file:///".toList ++ letter.toLower :: "%3A".toList ++ escape isPlain slashed
  | none =>
    if Path.isAbsolute path then "file://".toList ++ escape isPlain path
    else "file:///".toList ++ escape isPlain path

/-- The URI of a path on the disk. A path that is no text is written as it is shown. -/
def ofBytes (path : List UInt8) : List Char := ofPath (lossy path)

end JinieServer.FileUri
