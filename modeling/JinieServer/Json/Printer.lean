import JinieServer.Decimal.Shortest
import JinieServer.Json.Basic
import JinieServer.Text.Percent

/-!
# Writing JSON

The text holds no blanks between tokens, and no character below the blank.
-/

namespace JinieServer.Json

open JinieServer.Text

def fourHex (n : Nat) : List Char :=
  [hexDigit (n / 4096 % 16), hexDigit (n / 256 % 16), hexDigit (n / 16 % 16), hexDigit (n % 16)]

def writtenChar (c : Char) : List Char :=
  match c with
  | '"' => ['\\', '"']
  | '\\' => ['\\', '\\']
  | '\n' => ['\\', 'n']
  | '\r' => ['\\', 'r']
  | '\t' => ['\\', 't']
  | c => if isControl c then '\\' :: 'u' :: fourHex c.toNat else [c]

def writtenString (s : String) : String :=
  String.ofList ('"' :: s.toList.flatMap writtenChar ++ ['"'])

mutual

def render : Json → String
  | .null => "null"
  | .bool b => if b then "true" else "false"
  | .int n => toString n
  | .real negative size => Decimal.floatText negative size
  | .str s => writtenString s
  | .arr items => "[" ++ renderItems items ++ "]"
  | .obj members => "\x7b" ++ renderMembers members ++ "\x7d"

def renderItems : List Json → String
  | [] => ""
  | [item] => render item
  | item :: rest => render item ++ "," ++ renderItems rest

def renderMembers : List (String × Json) → String
  | [] => ""
  | [(name, value)] => writtenString name ++ ":" ++ render value
  | (name, value) :: rest => writtenString name ++ ":" ++ render value ++ "," ++ renderMembers rest

end

end JinieServer.Json
