import JinieServer.Json.Basic
import JinieServer.Url.Parser

/-!
# Shapes of message parameters

Which JSON values a method takes. A record is an object with the fields named, others being
ignored, or an array of the fields in order unless the record is flat. One of several words is
given by its name alone, or as an object whose only member has that name and is null.
-/

namespace JinieServer.Protocol

/-- When a field may be missing: never, only from an object, or from the end of an array too. -/
inductive Presence where
  | required
  | optional
  | defaulted
deriving DecidableEq, Repr

inductive Shape where
  | anything
  | bool
  | string
  /-- An integer from the first number to the second. -/
  | integer (low high : Int)
  /-- Any number, whole or not. -/
  | number
  | url
  | oneOf (texts : List String)
  | orNull (shape : Shape)
  | either (first second : Shape)
  | listOf (shape : Shape)
  /-- An array with this many items. -/
  | exactly (count : Nat) (shape : Shape)
  /-- An object whose names and values have the shapes given. -/
  | mapOf (name value : Shape)
  | record (flat : Bool) (fields : List (String × Presence × Shape))
  /-- A flat record whose other members have a shape too. -/
  | openRecord (fields : List (String × Presence × Shape)) (others : Shape)

/-- The fields of an array may end only where the rest has defaults. -/
def allDefaulted (fields : List (String × Presence × Shape)) : Bool :=
  fields.all fun (_, presence, _) => presence = .defaulted

mutual

def Shape.accepts : Shape → Json → Bool
  | .anything, _ => true
  | .bool, .bool _ => true
  | .string, .str _ => true
  | .integer low high, .int n => low ≤ n && n ≤ high
  | .number, .int _ => true
  | .number, .real _ _ => true
  | .url, .str s => (Url.parse? s.toList).isSome
  | .oneOf texts, .str s => texts.contains s
  | .oneOf texts, .obj [(name, .null)] => texts.contains name
  | .orNull shape, value =>
    match value with
    | .null => true
    | value => shape.accepts value
  | .either first second, value => first.accepts value || second.accepts value
  | .listOf shape, .arr items => items.all fun item => shape.accepts item
  | .exactly count shape, .arr items =>
    items.length = count && items.all fun item => shape.accepts item
  | .mapOf name value, .obj members =>
    members.all fun (key, item) => name.accepts (.str key) && value.accepts item
  | .openRecord fields others, .obj members =>
    acceptsMembers fields members &&
      members.all fun (key, item) =>
        (fields.any fun (name, _) => name = key) || others.accepts item
  | .record _ fields, .obj members => acceptsMembers fields members
  | .record false fields, .arr items => acceptsItems fields items
  | _, _ => false

/-- Every field that is there fits, and every field that has to be there is. -/
def acceptsMembers : List (String × Presence × Shape) → List (String × Json) → Bool
  | [], _ => true
  | (name, presence, shape) :: fields, members =>
    (match Json.member? name (.obj members) with
      | some value => shape.accepts value
      | none => presence ≠ .required) && acceptsMembers fields members

def acceptsItems : List (String × Presence × Shape) → List Json → Bool
  | [], items => items.isEmpty
  | (name, presence, shape) :: fields, items =>
    match items with
    | [] => allDefaulted ((name, presence, shape) :: fields)
    | item :: items => shape.accepts item && acceptsItems fields items

end

/-! ## Common shapes -/

namespace Shape

def word : Shape := .integer 0 4294967295

def signedWord : Shape := .integer (-2147483648) 2147483647

def need (name : String) (shape : Shape) : String × Presence × Shape := (name, .required, shape)

/-- A field that may be missing or null. -/
def may (name : String) (shape : Shape) : String × Presence × Shape :=
  (name, .optional, .orNull shape)

/-- A field that may be missing or null, from the end of an array too. -/
def mayEnd (name : String) (shape : Shape) : String × Presence × Shape :=
  (name, .defaulted, .orNull shape)

def object (fields : List (String × Presence × Shape)) : Shape := .record false fields

def flat (fields : List (String × Presence × Shape)) : Shape := .record true fields

def flags (names : List String) : Shape := object (names.map fun name => may name .bool)

def strings : Shape := .listOf .string

def position : Shape := object [need "line" word, need "character" word]

def range : Shape := object [need "start" position, need "end" position]

def location : Shape := object [need "uri" .url, need "range" range]

def document : Shape := object [need "uri" .url]

def token : Shape := .either signedWord .string

/-- The token by which a client asks for progress. -/
def progress : List (String × Presence × Shape) := [may "workDoneToken" token]

/-- The tokens by which a client asks for progress and partial results. -/
def tokens : List (String × Presence × Shape) := progress ++ [may "partialResultToken" token]

def atDocument : List (String × Presence × Shape) := [need "textDocument" document]

def atPosition : List (String × Presence × Shape) := atDocument ++ [need "position" position]

def atRange : List (String × Presence × Shape) := atDocument ++ [need "range" range]

end Shape

end JinieServer.Protocol
