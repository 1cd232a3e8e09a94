import JinieServer.Toml.Statement
import JinieServer.Toml.Tree

/-!
# TOML documents

The statements of a document are carried out one by one. Values other than strings are checked and
forgotten. The first statement that cannot be carried out is the fault of the document.
-/

namespace JinieServer.Toml

inductive Fault where
  | malformed
  /-- A key has too many words. -/
  | longKey
deriving DecidableEq, Repr, Inhabited

/-- The text of a fault, given what the library says about a malformed document. -/
def Fault.text (refusal : String) : Fault → String
  | .malformed => refusal
  | .longKey => "recursion limit\n"

/-- Takes a missing result for a malformed document. -/
def orMalformed {α : Type} : Option α → Except Fault α
  | some a => .ok a
  | none => .error .malformed

/-! ## Keys -/

def isBareKeyChar (c : Char) : Bool := c.isAlphanum || c = '-' || c = '_'

/-- The name that a word of a key stands for. -/
def name? (word : Word) : Option String :=
  if word.head?.any isQuote then quotedText? string? word
  else if word.all isBareKeyChar then some (String.ofList word)
  else none

/-- The names on the way to the last one, and the last one. -/
def names (key : Key) : Except Fault (List String × String) := do
  let all ← orMalformed (key.mapM name?)
  match all.getLast? with
  | some last => return (all.dropLast, last)
  | none => throw .malformed

/-- How many names may stand before the last one. -/
def pathLimit : Nat := 80

/-- Makes a change that a key leads to. -/
def along (change : List String → String → Entries → Option Entries) (path : List String)
    (key : String) (entries : Entries) : Except Fault Entries :=
  if pathLimit ≤ path.length then .error .longKey else orMalformed (change path key entries)

/-! ## Values -/

def wordNode (word : Word) : Except Fault Node :=
  if word.head?.any isQuote then (orMalformed (quotedText? longString? word)).map .text
  else if isScalar word then .ok .closed
  else .error .malformed

mutual

def node : Value → Except Fault Node
  | .word word => wordNode word
  | .array items => do
    checkItems items
    return .closed
  | .inline members => do
    let _ ← addMembers [] members
    return .closed

def checkItems : List Value → Except Fault Unit
  | [] => .ok ()
  | item :: rest => do
    let _ ← node item
    checkItems rest

def addMembers (entries : Entries) : List (Key × Value) → Except Fault Entries
  | [] => .ok entries
  | (key, value) :: rest => do
    let (path, key) ← names key
    let node ← node value
    addMembers (← along (Entries.assign node) path key entries) rest

end

/-! ## Statements -/

/-- The tables of the document so far and the path of the open one. -/
structure Progress where
  root : Entries := []
  current : List String := []

def carryOut (progress : Progress) : Statement → Except Fault Progress
  | .table key => do
    let (path, key) ← names key
    return ⟨← along Entries.openTable path key progress.root, path ++ [key]⟩
  | .nextTable key => do
    let (path, key) ← names key
    return ⟨← along Entries.openArray path key progress.root, path ++ [key]⟩
  | .assign key value => do
    let (path, key) ← names key
    let node ← node value
    let change (path : List String) (key : String) (root : Entries) : Option Entries :=
      root.within (Entries.assign node path key) progress.current
    return { progress with root := ← along change path key progress.root }

/-- The top table of a document. -/
def parse (text : List Char) : Except Fault Entries := do
  let statements ← orMalformed (statements? text)
  return (← statements.foldlM carryOut {}).root

end JinieServer.Toml
