/-!
# Tables under construction

The tables of a document while its statements are read. A table that a header named, or that has
a value, cannot be named again; one that only stood on the way to another can be named once.
-/

namespace JinieServer.Toml

/-- How a table came to be. -/
inductive Origin where
  /-- Named by its own header. -/
  | header
  /-- On the way to a table that a header named. -/
  | implied
  /-- On the way to the value of a dotted key. -/
  | dotted
deriving DecidableEq, Repr

inductive Node where
  /-- A string. -/
  | text (s : String)
  /-- Any other value; its inside is closed. -/
  | closed
  | table (origin : Origin) (entries : List (String × Node))
  /-- An array of tables, the last of which is open, first in the list. -/
  | tables (last : List (String × Node)) (earlier : List (List (String × Node)))
deriving Inhabited

abbrev Entries := List (String × Node)

namespace Entries

def find? (entries : Entries) (key : String) : Option Node :=
  (List.find? (fun (other, _) => other = key) entries).map (·.2)

/-- Sets a key in place, or adds it at the end. -/
def set (entries : Entries) (key : String) (node : Node) : Entries :=
  match entries with
  | [] => [(key, node)]
  | (other, old) :: rest =>
    if other = key then (key, node) :: rest else (other, old) :: set rest key node

/-- Changes the open table that a header's path leads to. -/
def within (change : Entries → Option Entries) : (path : List String) → Entries → Option Entries
  | [], entries => change entries
  | key :: path, entries =>
    match entries.find? key with
    | some (.table origin inner) =>
      (within change path inner).map fun inner => entries.set key (.table origin inner)
    | some (.tables last earlier) =>
      (within change path last).map fun last => entries.set key (.tables last earlier)
    | _ => none

/-- Changes the table that a path leads to, making the tables on the way. A dotted key enters no
table that has a header of its own, and may end in none of an array. -/
def descend (dotted : Bool) (change : Entries → Option Entries) :
    (path : List String) → Entries → Option Entries
  | [], entries => change entries
  | key :: path, entries =>
    match entries.find? key with
    | none =>
      let origin := if dotted then Origin.dotted else .implied
      (descend dotted change path []).map fun inner => entries.set key (.table origin inner)
    | some (.table origin inner) =>
      if dotted && origin = .header then none
      else
        (descend dotted change path inner).map fun inner => entries.set key (.table origin inner)
    | some (.tables last earlier) =>
      if dotted && path.isEmpty then none
      else
        (descend dotted change path last).map fun last => entries.set key (.tables last earlier)
    | some _ => none

def openTable (path : List String) (key : String) : Entries → Option Entries :=
  descend false (fun entries =>
    match entries.find? key with
    | none => some (entries.set key (.table .header []))
    | some (.table .implied inner) => some (entries.set key (.table .header inner))
    | some _ => none) path

def openArray (path : List String) (key : String) : Entries → Option Entries :=
  descend false (fun entries =>
    match entries.find? key with
    | none => some (entries.set key (.tables [] []))
    | some (.tables last earlier) => some (entries.set key (.tables [] (last :: earlier)))
    | some _ => none) path

/-- Adds a value under a dotted key. -/
def assign (node : Node) (path : List String) (key : String) : Entries → Option Entries :=
  descend true (fun entries =>
    match entries.find? key with
    | none => some (entries.set key node)
    | some _ => none) path

end Entries

end JinieServer.Toml
