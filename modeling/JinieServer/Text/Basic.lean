/-!
# Searching a text, and its lines, columns and positions

A line ends at a line feed, and a carriage return directly before the feed belongs to the ending.
A final piece without a feed keeps its carriage return; an empty final piece is no line.

Lines and columns count from zero, columns in UTF-16 units: a character outside the basic plane
counts twice.
-/

namespace JinieServer.Text

/-! ## Finding a text in a text -/

/-- What stands before the first occurrence of `needle`. -/
def before? (needle : List Char) : List Char → Option (List Char)
  | [] => if needle.isEmpty then some [] else none
  | c :: rest =>
    if needle.isPrefixOf (c :: rest) then some []
    else (before? needle rest).map (c :: ·)

def occursIn (needle hay : List Char) : Bool := (before? needle hay).isSome

/-- What follows `start`, if the text starts with it. -/
def after? (start text : List Char) : Option (List Char) :=
  if start.isPrefixOf text then some (text.drop start.length) else none

theorem append_of_after? {start text rest : List Char} (h : after? start text = some rest) :
    text = start ++ rest := by
  unfold after? at h
  split at h
  case isTrue hstart =>
    obtain ⟨more, rfl⟩ := List.isPrefixOf_iff_prefix.mp hstart
    simpa using h
  case isFalse => simp at h

@[simp] theorem after?_append (start rest : List Char) :
    after? start (start ++ rest) = some rest := by
  simp [after?]

/-! ## Lines -/

/-- The text of a line that was read backwards, without the return that stood before its feed. -/
def closeLine : List Char → List Char
  | '\r' :: rest => rest.reverse
  | current => current.reverse

/-- The lines that follow when `current` (backwards) has been read of the first one. -/
def linesFrom (current : List Char) : List Char → List (List Char)
  | [] => if current.isEmpty then [] else [current.reverse]
  | c :: rest =>
    if c = '\n' then closeLine current :: linesFrom [] rest
    else linesFrom (c :: current) rest

def lines (text : List Char) : List (List Char) := linesFrom [] text

/-! ## Columns -/

def utf16Width (c : Char) : Nat := if c.toNat < 0x10000 then 1 else 2

def utf16Length : List Char → Nat
  | [] => 0
  | c :: rest => utf16Width c + utf16Length rest

@[simp] theorem utf16Length_append (s t : List Char) :
    utf16Length (s ++ t) = utf16Length s + utf16Length t := by
  induction s with
  | nil => simp [utf16Length]
  | cons c s ih => simp [utf16Length, ih, Nat.add_assoc]

end JinieServer.Text

/-! ## Positions -/

namespace JinieServer

structure Position where
  line : UInt32
  character : UInt32
deriving DecidableEq, Repr, Inhabited

structure Range where
  start : Position
  stop : Position
deriving DecidableEq, Repr, Inhabited

/-- The range that holds nothing and stands at `p`. -/
def Range.at (p : Position) : Range := ⟨p, p⟩

end JinieServer
