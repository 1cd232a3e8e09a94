/-!
# What a lookup sees of the disk

Listing a folder, asking whether a path is a file, and reading a text are all that is asked of it.
Links are followed by all three. Paths and names are bytes, and need not be texts.
-/

namespace JinieServer

inductive FileError where
  | notFound
  | notDirectory
  | isDirectory
  | nameTooLong
  | linkLoop
  | notUtf8
  | nulInPath
  | other (text : String)
deriving DecidableEq, Repr, Inhabited

def FileError.message : FileError → String
  | .notFound => "No such file or directory (os error 2)"
  | .notDirectory => "Not a directory (os error 20)"
  | .isDirectory => "Is a directory (os error 21)"
  | .nameTooLong => "File name too long (os error 36)"
  | .linkLoop => "Too many levels of symbolic links (os error 40)"
  | .notUtf8 => "stream did not contain valid UTF-8"
  | .nulInPath => "file name contained an unexpected NUL byte"
  | .other text => text

structure FileSystem where
  /-- The names in a folder in the order the disk gives them; each may fail on its own. -/
  list : List UInt8 → Except FileError (List (Except FileError (List UInt8)))
  isFile : List UInt8 → Bool
  read : List UInt8 → Except FileError (List Char)

end JinieServer
