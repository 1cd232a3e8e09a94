import JinieServer.Text.Alphanumeric
import JinieServer.Text.Percent

/-!
# Patterns

A pattern is a regular expression that a field's text can be compared with. Here it is only
checked: whether its groups and sets close, every repetition has something to repeat, and every
escape is known. A pattern matches whole characters, so where its flags turn to bytes, no part may
match half a character. An edge of a word can only be told between bytes.
-/

namespace JinieServer.Log.Pattern

open JinieServer.Text

structure Flags where
  /-- Whether the parts are characters, or else bytes. -/
  wide : Bool := true
  /-- Whether blanks and comments between the parts are skipped. -/
  loose : Bool := false
deriving DecidableEq, Repr

/-- Drops the characters of `idle`, blanks, and comments up to the end of their lines. -/
def pastBlanks (idle : Char → Bool) (inComment : Bool) : List Char → List Char
  | [] => []
  | c :: rest =>
    if inComment then pastBlanks idle (c ≠ '\n') rest
    else if isBlank c || idle c then pastBlanks idle false rest
    else if c = '#' then pastBlanks idle true rest
    else c :: rest

def Flags.skip (flags : Flags) (text : List Char) : List Char :=
  if flags.loose then pastBlanks (fun _ => false) false text else text

def Flags.skipHyphens (flags : Flags) (text : List Char) : List Char :=
  if flags.loose then pastBlanks (· = '-') false text else text.dropWhile (· = '-')

/-! ## Escapes -/

inductive Part where
  /-- One character, which an escape may have given as a byte. -/
  | one (c : Char) (isByte : Bool)
  /-- One character of a set, which may hold ASCII alone. -/
  | oneOf (narrow : Bool)
  | edge
  | wordEdge
deriving DecidableEq, Repr

def Part.fits (flags : Flags) : Part → Bool
  | .one c isByte => flags.wide || !isByte || isAscii c
  | .oneOf narrow => flags.wide || narrow
  | .edge => true
  | .wordEdge => !flags.wide

/-- Whether a part may stand in a set. -/
def Part.fitsSet (flags : Flags) : Part → Bool
  | .one c _ => flags.wide || isAscii c
  | .oneOf narrow => flags.wide || narrow
  | .edge => false
  | .wordEdge => false

/-- The value of so many hexadecimal digits, and what follows them. -/
def hex? (flags : Flags) : (count value : Nat) → List Char → Option (Nat × List Char)
  | 0, value, text => some (value, text)
  | count + 1, value, text =>
    match flags.skip text with
    | [] => none
    | c :: rest => (hexValue? c).bind fun digit => hex? flags count (value * 16 + digit) rest

def hexChar? (flags : Flags) (count : Nat) (text : List Char) : Option (Part × List Char) :=
  (hex? flags count 0 text).bind fun (value, rest) =>
    if value.isValidChar then some (.one (Char.ofNat value) (count = 2), rest) else none

/-- The letters that name a category of characters: letters, marks, numbers and so on. -/
def isCategory (c : Char) : Bool := "lmnpszc".toList.contains c.toLower

def category? (flags : Flags) (text : List Char) : Option (Part × List Char) :=
  match flags.skip text with
  | [] => none
  | c :: rest => if isCategory c then some (.oneOf false, rest) else none

/-- The characters that letters stand for. -/
def controls : List (Char × Nat) :=
  [('a', 7), ('t', 9), ('n', 10), ('v', 11), ('f', 12), ('r', 13)]

/-- What follows a backslash. -/
def escape? (flags : Flags) : List Char → Option (Part × List Char)
  | [] => none
  | c :: rest =>
    if c = 'x' then hexChar? flags 2 rest
    else if c = 'u' then hexChar? flags 4 rest
    else if c = 'U' then hexChar? flags 8 rest
    else if c = 'p' || c = 'P' then category? flags rest
    else if c = 'd' || c = 's' || c = 'w' then some (.oneOf true, rest)
    else if c = 'D' || c = 'S' || c = 'W' then some (.oneOf false, rest)
    else if c = 'A' || c = 'z' then some (.edge, rest)
    else if c = 'b' || c = 'B' || c = '<' || c = '>' then some (.wordEdge, rest)
    else
      match controls.find? (·.1 = c) with
      | some (_, code) => some (.one (Char.ofNat code) false, rest)
      | none => if isAscii c && !c.isAlphanum then some (.one c false, rest) else none

/-! ## Sets -/

def setItem? (flags : Flags) : List Char → Option (Part × List Char)
  | [] => none
  | '\\' :: rest => escape? flags rest
  | c :: rest => some (.one c false, rest)

/-- One member of a set, or the range between two characters. -/
def setRange? (flags : Flags) (text : List Char) : Option (List Char) := do
  let (first, rest) ← setItem? flags text
  let rest := flags.skip rest
  let alone := if first.fitsSet flags then some rest else none
  match rest with
  | '-' :: more =>
    match flags.skip more with
    | ']' :: _ => alone
    | '-' :: _ => alone
    | more =>
      let (last, rest) ← setItem? flags more
      match first, last with
      | .one a _, .one b _ =>
        if a.toNat ≤ b.toNat && first.fitsSet flags && last.fitsSet flags then some rest else none
      | _, _ => none
  | _ => alone

/-- What follows the bracket that opens a set. A negated set of bytes would match half a character.
Hyphens in front stand for themselves, and so does a bracket without any. -/
def setStart? (flags : Flags) (text : List Char) : Option (List Char) :=
  let inner : List Char → List Char
    | ']' :: rest => flags.skip rest
    | '-' :: rest => flags.skipHyphens rest
    | text => text
  match flags.skip text with
  | '^' :: rest => if flags.wide then some (inner (flags.skip rest)) else none
  | text => some (inner text)

def setNames : List String :=
  ["alnum", "alpha", "ascii", "blank", "cntrl", "digit", "graph", "lower", "print", "punct",
    "space", "upper", "word", "xdigit"]

/-- A set by its name, as in `[:alpha:]`, after the first bracket; whether it is negated. -/
def namedSet? : List Char → Option (Bool × List Char)
  | ':' :: rest =>
    let negated := rest.head? = some '^'
    let rest := if negated then rest.drop 1 else rest
    let name := rest.takeWhile (· ≠ ':')
    match rest.drop name.length with
    | ':' :: ']' :: more =>
      if setNames.contains (String.ofList name) then some (negated, more) else none
    | _ => none
  | _ => none

/-- What follows a set when `depth` of its brackets are open. -/
def setEnd? (flags : Flags) : (fuel depth : Nat) → List Char → Option (List Char)
  | 0, _, _ => none
  | fuel + 1, depth, text =>
    match flags.skip text with
    | [] => none
    | '[' :: rest =>
      match namedSet? rest with
      | some (negated, rest) =>
        if negated && !flags.wide then none else setEnd? flags fuel depth rest
      | none => (setStart? flags rest).bind (setEnd? flags fuel (depth + 1))
    | ']' :: rest => if depth ≤ 1 then some rest else setEnd? flags fuel (depth - 1) rest
    | '&' :: '&' :: rest => setEnd? flags fuel depth rest
    | '-' :: '-' :: rest => setEnd? flags fuel depth rest
    | '~' :: '~' :: rest => setEnd? flags fuel depth rest
    | text => (setRange? flags text).bind (setEnd? flags fuel depth)

/-- What follows a set, after its first bracket. -/
def set? (flags : Flags) (text : List Char) : Option (List Char) :=
  (setStart? flags text).bind (setEnd? flags (text.length + 1) 1)

/-! ## Groups -/

/-- What has been read of a pattern. -/
structure Reading where
  flags : Flags := {}
  /-- The flags around each open group, the innermost first. -/
  around : List Flags := []
  names : List (List Char) := []
  /-- Whether there is something to repeat. -/
  repeatable : Bool := false
deriving DecidableEq, Repr

/-- Sets each flag before a hyphen, and clears each one after it. -/
def Flags.set (flags : Flags) (letters : List Char) : Flags :=
  let on := letters.takeWhile (· ≠ '-')
  let value (letter : Char) (old : Bool) : Bool :=
    if letters.contains letter then on.contains letter else old
  { wide := value 'u' flags.wide, loose := value 'x' flags.loose }

/-- Flags are known letters, each once, and at most one hyphen before some of them. -/
def areFlags (letters : List Char) : Bool :=
  letters.all ("imsUuRx-".toList.contains ·) && letters.eraseDups.length = letters.length &&
    letters.getLast? != some '-'

def opened (reading : Reading) : Reading :=
  { reading with around := reading.flags :: reading.around, repeatable := false }

def opensName (c : Char) : Bool := c = '_' || (isAlphanumeric c && !c.isDigit)

def isNameChar (c : Char) : Bool := "_.[]".toList.contains c || isAlphanumeric c

/-- A group with a name of its own. -/
def namedGroup? (reading : Reading) (text : List Char) : Option (Reading × List Char) :=
  let name := text.takeWhile (· ≠ '>')
  match name, text.drop name.length with
  | c :: more, _ :: rest =>
    if opensName c && more.all isNameChar && !reading.names.contains name then
      some (opened { reading with names := name :: reading.names }, rest)
    else none
  | _, _ => none

/-- Flags for a group of their own, or for what follows in this one. -/
def flagGroup? (reading : Reading) (text : List Char) : Option (Reading × List Char) :=
  let letters := text.takeWhile fun c => c ≠ ':' && c ≠ ')'
  if !areFlags letters then none
  else
    let flags := reading.flags.set letters
    match text.drop letters.length with
    | ':' :: rest => some ({ opened reading with flags }, rest)
    | ')' :: rest =>
      if letters.isEmpty then none else some ({ reading with flags, repeatable := false }, rest)
    | _ => none

def group? (reading : Reading) (text : List Char) : Option (Reading × List Char) :=
  match reading.flags.skip text with
  | '?' :: 'P' :: '<' :: rest => namedGroup? reading rest
  | '?' :: '<' :: rest => namedGroup? reading rest
  | '?' :: rest => flagGroup? reading rest
  | rest => some (opened reading, rest)

/-! ## The whole pattern -/

/-- Reads one part that starts with `c`. -/
def part? (reading : Reading) (c : Char) (rest : List Char) : Option (Reading × List Char) :=
  let done : Reading := { reading with repeatable := true }
  match c with
  | '(' => group? reading rest
  | ')' =>
    match reading.around with
    | [] => none
    | flags :: around => some ({ done with flags, around }, rest)
  | '|' => some ({ reading with repeatable := false }, rest)
  | '[' => (set? reading.flags rest).map fun rest => (done, rest)
  | '?' => if reading.repeatable then some (done, rest) else none
  | '*' => if reading.repeatable then some (done, rest) else none
  | '+' => if reading.repeatable then some (done, rest) else none
  -- A count needs a closing brace, and no field has one.
  | '\x7b' => none
  | '.' => if reading.flags.wide then some (done, rest) else none
  | '\\' =>
    (escape? reading.flags rest).bind fun (part, rest) =>
      if part.fits reading.flags then some (done, rest) else none
  | _ => some (done, rest)

def readable : (fuel : Nat) → Reading → List Char → Bool
  | 0, _, _ => false
  | fuel + 1, reading, text =>
    match reading.flags.skip text with
    | [] => reading.around.isEmpty
    | c :: rest =>
      match part? reading c rest with
      | some (reading, rest) => readable fuel reading rest
      | none => false

/-- Each part takes a character, so there are no more parts than characters. -/
def isPattern (text : List Char) : Bool := readable (text.length + 1) {} text

end JinieServer.Log.Pattern
