import JinieServer.FileSystem
import JinieServer.Path

/-!
# A disk held in memory

Every item stands under its full list of components, which are bytes; the root is always a folder.
A path is walked component by component, and each link on the way costs one of the links allowed.
-/

namespace JinieServer

namespace Disk

abbrev Place := List (List UInt8)

inductive Item where
  | file (bytes : List UInt8)
  | folder
  | link (target : List UInt8)
deriving DecidableEq, Repr

end Disk

structure Disk where
  items : List (Disk.Place × Disk.Item) := []
  /-- Where relative paths start. -/
  here : Disk.Place := []

namespace Disk

open JinieServer.Text

def item? (disk : Disk) (place : Place) : Option Item :=
  if place.isEmpty then some .folder
  else (disk.items.find? fun (other, _) => other = place).map (·.2)

def dot : List UInt8 := [0x2e]

def doubleDot : List UInt8 := [0x2e, 0x2e]

def isAbsolute (path : List UInt8) : Bool := path.head? = some Path.slash

/-- The steps of a path. A final slash asks for a folder, just as a final `.` does. -/
def steps (path : List UInt8) : List (List UInt8) :=
  (path.splitOn Path.slash).filter (· ≠ []) ++
    (if path.getLast? = some Path.slash then [dot] else [])

def nameLimit : Nat := 255

def pathLimit : Nat := 4095

def linkLimit : Nat := 40

def walk (disk : Disk) (links : Nat) (place : Place) (todo : List (List UInt8)) :
    Except FileError Place :=
  match todo with
  | [] => .ok place
  | step :: todo =>
    if disk.item? place ≠ some .folder then .error .notDirectory
    else if step = dot then walk disk links place todo
    else if step = doubleDot then walk disk links place.dropLast todo
    else if nameLimit < step.length then .error .nameTooLong
    else
      match disk.item? (place ++ [step]) with
      | none => .error .notFound
      | some (.link target) =>
        match links with
        | 0 => .error .linkLoop
        | links + 1 =>
          if target.isEmpty then .error .notFound
          else
            let start := if isAbsolute target then [] else place
            walk disk links start (steps target ++ todo)
      | some _ => walk disk links (place ++ [step]) todo
termination_by (links, todo.length)

/-- The place that a path leads to. -/
def resolve (disk : Disk) (path : List UInt8) : Except FileError Place :=
  if path.contains 0 then .error .nulInPath
  else if path.isEmpty then .error .notFound
  else if pathLimit < path.length then .error .nameTooLong
  else disk.walk linkLimit (if isAbsolute path then [] else disk.here) (steps path)

def entries (disk : Disk) (place : Place) : List (List UInt8) :=
  disk.items.filterMap fun (other, _) =>
    match other.getLast? with
    | some name => if other.dropLast = place then some name else none
    | none => none

def list (disk : Disk) (path : List UInt8) :
    Except FileError (List (Except FileError (List UInt8))) := do
  let place ← disk.resolve path
  if disk.item? place = some .folder then return (disk.entries place).map .ok
  else throw .notDirectory

def isFile (disk : Disk) (path : List UInt8) : Bool :=
  match disk.resolve path with
  | .ok place =>
    match disk.item? place with
    | some (.file _) => true
    | _ => false
  | .error _ => false

def read (disk : Disk) (path : List UInt8) : Except FileError (List Char) := do
  match disk.item? (← disk.resolve path) with
  | some (.file bytes) =>
    match ofUtf8? bytes with
    | some text => return text
    | none => throw .notUtf8
  | _ => throw .isDirectory

def fileSystem (disk : Disk) : FileSystem := ⟨disk.list, disk.isFile, disk.read⟩

/-! ## Changing the disk -/

def set (disk : Disk) (place : Place) (item : Item) : Disk :=
  if (disk.items.any fun (other, _) => other = place) then
    { disk with
      items := disk.items.map fun (other, old) => (other, if other = place then item else old) }
  else { disk with items := disk.items ++ [(place, item)] }

/-- Puts an item below `place`, with the folders that lead to it. Links on the way are followed. -/
def putAt (disk : Disk) (place : Place) : Place → Item → Disk
  | [], _ => disk
  | [name], item =>
    match item, disk.walk linkLimit place [name] with
    | .folder, .ok _ => disk
    | .file bytes, .ok target => disk.set target (.file bytes)
    | item, _ => disk.set (place ++ [name]) item
  | name :: more, item =>
    match disk.walk linkLimit place [name] with
    | .ok next => disk.putAt next more item
    | .error _ => (disk.set (place ++ [name]) .folder).putAt (place ++ [name]) more item

/-- The components of a path that is a text. -/
def placeOf (path : List Char) : Place := (Path.components path).map utf8

/-- Puts an item at a path relative to the current folder. -/
def put (disk : Disk) (path : List Char) (item : Item) : Disk :=
  disk.putAt disk.here (placeOf path) item

/-- Removes what stands at a path relative to the current folder, and all below it. -/
def remove (disk : Disk) (path : List Char) : Disk :=
  let place := disk.here ++ placeOf path
  { disk with items := disk.items.filter fun (other, _) => !place.isPrefixOf other }

/-- A disk with nothing on it but the current folder. -/
def atFolder (path : List Char) : Disk :=
  { (({} : Disk).putAt [] (placeOf path) .folder) with here := placeOf path }

end Disk

end JinieServer
