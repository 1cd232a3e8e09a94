import JinieServer.Decimal.Binary

/-!
# JSON values

Integers are kept apart from numbers written with a point or an exponent, which are floats. The
members of an object that was read stand in order of their names, each name once.
-/

namespace JinieServer

inductive Json where
  | null
  | bool (b : Bool)
  | int (n : Int)
  | real (negative : Bool) (size : Decimal.Binary)
  | str (s : String)
  | arr (items : List Json)
  | obj (members : List (String × Json))
deriving Inhabited

namespace Json

/-- Puts a member in its place; a later member replaces an earlier one of the same name. -/
def insertMember (name : String) (value : Json) : List (String × Json) → List (String × Json)
  | [] => [(name, value)]
  | (other, old) :: rest =>
    if name < other then (name, value) :: (other, old) :: rest
    else if name = other then (name, value) :: rest
    else (other, old) :: insertMember name value rest

/-- An object with its members in order. -/
def ofMembers (members : List (String × Json)) : Json :=
  .obj (members.foldl (fun sorted (name, value) => insertMember name value sorted) [])

def member? (name : String) : Json → Option Json
  | .obj members => (members.find? fun (other, _) => other = name).map (·.2)
  | _ => none

end Json

end JinieServer
