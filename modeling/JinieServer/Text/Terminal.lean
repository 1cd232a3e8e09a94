import JinieServer.Text.Percent
import JinieServer.Text.Quoted

/-!
# Text for a terminal

A terminal takes some characters as commands to itself. One way out is to remove them together
with what belongs to them, the other to write them as escapes.
-/

namespace JinieServer.Text

/-! ## Removing commands -/

/-- Where in a command a text stands. -/
inductive TerminalMode where
  | ground
  | escape
  | escapeIntermediate
  | control
  | deviceStart
  | deviceParameter
  | deviceIntermediate
  /-- A text that only its own end mark closes. -/
  | body
  | systemCommand
deriving DecidableEq, Repr

/-- Blanks that show even inside a short command, which they end. -/
def isBreak (c : Char) : Bool := c = '\t' || c = '\n' || c = '\x0c' || c = '\r'

def isBetween (low high : Nat) (c : Char) : Bool := low ≤ c.toNat && c.toNat ≤ high

/-- A byte of the character is the end mark of a text. -/
def holdsEndMark (c : Char) : Bool := (String.utf8EncodeChar c).contains 0x9c

namespace TerminalMode

/-- What a character behind the escape character begins or ends. -/
def afterEscape (c : Char) : TerminalMode :=
  if isBetween 0x20 0x2f c then .escapeIntermediate
  else if c = '[' then .control
  else if c = ']' then .systemCommand
  else if c = 'P' then .deviceStart
  else if c = 'X' || c = '^' || c = '_' then .body
  else if isBetween 0x30 0x7e c then .ground
  else .escape

/-- The mode after a character that shows nothing and is no break. -/
def next (mode : TerminalMode) (c : Char) : TerminalMode :=
  match mode with
  | .ground => .ground
  | .escape => afterEscape c
  | .escapeIntermediate => if isBetween 0x30 0x7e c then .ground else mode
  | .control => if isBetween 0x40 0x7e c then .ground else mode
  | .deviceStart =>
    if isBetween 0x20 0x2f c then .deviceIntermediate
    else if isBetween 0x30 0x3f c then .deviceParameter
    else if isBetween 0x40 0x7e c then .body
    else mode
  | .deviceParameter =>
    if isBetween 0x20 0x2f c then .deviceIntermediate
    else if isBetween 0x3c 0x7e c then .body
    else mode
  | .deviceIntermediate => if isBetween 0x30 0x7e c then .body else mode
  | .body => if holdsEndMark c then .ground else mode
  | .systemCommand => if c = '\x07' then .ground else mode

/-- Whether breaks show in this mode. -/
def showsBreaks : TerminalMode → Bool
  | .ground | .escape | .escapeIntermediate | .control => true
  | _ => false

/-- The next mode, and whether the character shows. -/
def step (mode : TerminalMode) (c : Char) : TerminalMode × Bool :=
  if c = '\x1b' then (.escape, false)
  else if c = '\x18' || c = '\x1a' then (.ground, false)
  else if isBreak c && mode.showsBreaks then (.ground, true)
  else if mode = .ground && !isControl c then (.ground, true)
  else (mode.next c, false)

end TerminalMode

def withoutCommandsFrom (mode : TerminalMode) : List Char → List Char
  | [] => []
  | c :: rest =>
    let (next, shows) := mode.step c
    if shows then c :: withoutCommandsFrom next rest else withoutCommandsFrom next rest

/-- What a terminal would show of a text. -/
def withoutCommands (s : String) : String :=
  String.ofList (withoutCommandsFrom .ground s.toList)

/-! ## Escaping commands -/

/-- The characters that a terminal could act on are shown by their numbers. -/
def inertChar (c : Char) : List Char :=
  match c with
  | '\x07' => "\\x07".toList
  | '\x08' => "\\x08".toList
  | '\x0c' => "\\x0c".toList
  | '\x1b' => "\\x1b".toList
  | '\x7f' => "\\x7f".toList
  | c =>
    if isBetween 0x80 0x9f c then '\\' :: 'u' :: '\x7b' :: lowerHex c.toNat ++ ['\x7d'] else [c]

def inert (s : String) : String := String.ofList (s.toList.flatMap inertChar)

end JinieServer.Text
