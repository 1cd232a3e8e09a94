import JinieServer.Text.Utf8

/-!
# Paths

Components are divided by `/`. A path is kept as it was written: nothing here removes a repeated
slash or a `.` in the middle. A path on the disk is any bytes; one that comes from a URI or from
the settings is a text.
-/

namespace JinieServer.Path

def isAbsolute (path : List Char) : Bool := path.head? = some '/'

/-- A folder with the slash that its names stand behind. -/
def withSlash {α : Type} [DecidableEq α] (slash : α) (dir : List α) : List α :=
  if dir.isEmpty || dir.getLast? = some slash then dir else dir ++ [slash]

/-- Puts `child` under `dir`. A child that starts with a slash stands for itself. -/
def joinWith {α : Type} [DecidableEq α] (slash : α) (dir child : List α) : List α :=
  if child.head? = some slash then child else withSlash slash dir ++ child

def join (dir child : List Char) : List Char := joinWith '/' dir child

def slash : UInt8 := 0x2f

def joinBytes (dir child : List UInt8) : List UInt8 := joinWith slash dir child

/-- Drops final pieces that name nothing: empty ones, and `.` unless it opens a relative path. -/
def dropBlank (absolute : Bool) : List (List Char) → List (List Char)
  | [] => []
  | piece :: earlier =>
    if piece = [] ∨ (piece = ['.'] ∧ (absolute ∨ earlier ≠ [])) then dropBlank absolute earlier
    else piece :: earlier

/-- The path without its last component; the root and the empty path have none. -/
def parent? (path : List Char) : Option (List Char) :=
  let absolute := isAbsolute path
  let body := if absolute then path.drop 1 else path
  match dropBlank absolute (body.splitOn '/').reverse with
  | [] => none
  | _ :: earlier =>
    let kept := ['/'].intercalate (dropBlank absolute earlier).reverse
    some (if absolute then '/' :: kept else kept)

/-- The components of an absolute path. -/
def components (path : List Char) : List (List Char) :=
  (path.splitOn '/').filter fun piece => piece ≠ [] && piece ≠ ['.']

end JinieServer.Path
