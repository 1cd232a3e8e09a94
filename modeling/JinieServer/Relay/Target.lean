import JinieServer.Json.Decode
import JinieServer.Protocol.Reply

/-!
# Reading a target

A target comes as an object with a `uri` and a `position`, or as an array of the two. A position
comes as an object with a `line` and a `character`, or as an array of the two.
-/

namespace JinieServer.Relay

open JinieServer.Definition

/-- A member of a two-field record: the first value goes to the first name, the second to the
second, and other members are passed over. -/
def addMember {α β : Type} (first second : String) (asFirst : Json → Except DecodeError α)
    (asSecond : Json → Except DecodeError β) (seen : Option α × Option β)
    (member : String × Json) : Except DecodeError (Option α × Option β) := do
  let (name, value) := member
  if name = first then return (← Json.once first seen.1 (asFirst value), seen.2)
  else if name = second then return (seen.1, ← Json.once second seen.2 (asSecond value))
  else return seen

/-- A record of two fields from an object, or from an array of the two. -/
def readPair {α β : Type} (label first second : String) (asFirst : Json → Except DecodeError α)
    (asSecond : Json → Except DecodeError β) : Json → Except DecodeError (α × β)
  | .obj members => do
    let seen ← members.foldlM (addMember first second asFirst asSecond) (none, none)
    return (← Json.required first seen.1, ← Json.required second seen.2)
  | .arr [] => .error (.invalidLength 0 (label ++ " with 2 elements"))
  | .arr [one] => do
    let _ ← asFirst one
    .error (.invalidLength 1 (label ++ " with 2 elements"))
  | .arr (one :: two :: rest) => do
    let a ← asFirst one
    let b ← asSecond two
    Json.noMore (one :: two :: rest) rest
    return (a, b)
  | other => .error (.invalidType other label)

def positionOf (value : Json) : Except DecodeError Position := do
  let (line, character) ←
    readPair "struct Position" "line" "character" Json.asWord Json.asWord value
  return ⟨line, character⟩

def targetOf (value : Json) : Except DecodeError Target := do
  let (uri, position) ←
    readPair "struct GotoOtherFileParams" "uri" "position" Json.asString positionOf value
  return ⟨uri, position⟩

end JinieServer.Relay
