import JinieServer.Decimal.Shortest
import JinieServer.Json.Basic
import JinieServer.Text.Quoted

/-!
# Decoding JSON values

What is wrong with a value that was expected to have another form, and readers for the plain
forms. A record is read from an object, or from an array of its fields in order.
-/

namespace JinieServer

inductive DecodeError where
  | invalidType (found : Json) (expected : String)
  | invalidValue (found : Json) (expected : String)
  | invalidLength (length : Nat) (expected : String)
  | missingField (name : String)
  | duplicateField (name : String)
deriving Inhabited

def Json.described : Json → String
  | .null => "null"
  | .bool b => "boolean `" ++ (if b then "true" else "false") ++ "`"
  | .int n => "integer `" ++ toString n ++ "`"
  | .real negative size => "floating point `" ++ Decimal.floatText negative size ++ "`"
  | .str s => "string " ++ Text.quoted s
  | .arr _ => "sequence"
  | .obj _ => "map"

def DecodeError.message : DecodeError → String
  | .invalidType found expected => "invalid type: " ++ found.described ++ ", expected " ++ expected
  | .invalidValue found expected =>
    "invalid value: " ++ found.described ++ ", expected " ++ expected
  | .invalidLength length expected =>
    "invalid length " ++ toString length ++ ", expected " ++ expected
  | .missingField name => "missing field `" ++ name ++ "`"
  | .duplicateField name => "duplicate field `" ++ name ++ "`"

namespace Json

def asString : Json → Except DecodeError String
  | .str s => .ok s
  | other => .error (.invalidType other "a string")

/-- A string, or null for none. -/
def asOptionalString : Json → Except DecodeError (Option String)
  | .null => .ok none
  | other => other.asString.map some

def asWord : Json → Except DecodeError UInt32
  | .int n =>
    if 0 ≤ n ∧ n < 4294967296 then .ok (UInt32.ofNat n.toNat)
    else .error (.invalidValue (.int n) "u32")
  | other => .error (.invalidType other "u32")

/-- Refuses an array that goes on after the last field. -/
def noMore (items rest : List Json) : Except DecodeError Unit :=
  if rest.isEmpty then .ok () else .error (.invalidLength items.length "fewer elements in array")

/-- A field that has to be there. -/
def required {α : Type} (name : String) : Option α → Except DecodeError α
  | some value => .ok value
  | none => .error (.missingField name)

/-- Sets a field that has not been seen before. -/
def once {α : Type} (name : String) (seen : Option α) (value : Except DecodeError α) :
    Except DecodeError (Option α) :=
  match seen with
  | some _ => .error (.duplicateField name)
  | none => value.map some

end Json

end JinieServer
