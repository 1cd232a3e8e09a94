import JinieServer.Source.Scan
import JinieServer.Text.Basic

/-!
# Symbols, calls and declarations of a text

The outline recognises declarations by pattern; a lookup searches for the literal declaration
text of one name, in the lines of a document or in the undivided text of a file.
-/

namespace JinieServer.Source

open JinieServer.Text

/-- A name and its span on a line. -/
structure Symbol where
  name : String
  range : Range
deriving DecidableEq, Repr

def column (s : List Char) : UInt32 := UInt32.ofNat (utf16Length s)

/-- The span of a name: the first place on the line where its text stands. -/
def nameRange (line : List Char) (index : UInt32) (name : List Char) : Range :=
  let start := column ((before? name line).getD [])
  ⟨⟨index, start⟩, ⟨index, start + column name⟩⟩

/-- The span of a whole line. -/
def lineRange (index : UInt32) (line : List Char) : Range :=
  ⟨⟨index, 0⟩, ⟨index, column line⟩⟩

/-! ## The outline -/

def lineSymbols (line : List Char) (index : UInt32) : List Symbol :=
  (declaredNames line).map fun name => ⟨String.ofList name, nameRange line index name⟩

/-- One symbol per declaration, line by line and left to right. -/
def symbols (text : List Char) : List Symbol :=
  (lines text).zipIdx.flatMap fun (line, i) => lineSymbols line (UInt32.ofNat i)

/-- The first call on the line of a position, wherever its column is. -/
def callAt? (text : List Char) (position : Position) : Option Symbol := do
  let line ← (lines text)[position.line.toNat]?
  let name ← calledName? line
  return ⟨String.ofList name, nameRange line position.line name⟩

/-! ## The declaration of one name -/

/-- The first line that holds the declaration text of `name`, with its index. -/
def declarationLine? (text name : List Char) : Option (UInt32 × List Char) :=
  ((lines text).zipIdx.find? fun (line, _) => occursIn (declarationText name) line).map
    fun (line, i) => (UInt32.ofNat i, line)

/-- The part of a text behind its last line feed. -/
def lastLine (text : List Char) : List Char :=
  (text.reverse.takeWhile (· ≠ '\n')).reverse

/-- Where the declaration text of `name` first stands in the undivided text. -/
def declarationPosition? (text name : List Char) : Option Position :=
  (before? (declarationText name) text).map fun before =>
    ⟨UInt32.ofNat (before.count '\n'), column (lastLine before)⟩

end JinieServer.Source
