import JinieServer.Text.Basic
import JinieServer.Toml.Quoted
import JinieServer.Toml.Scalar

/-!
# TOML statements

A document is divided into headers and assignments by its brackets, commas, equals signs and line
ends alone. What the keys and values say is looked at later.
-/

namespace JinieServer.Toml

open JinieServer.Text

/-- A key or a value as it is written: a bare word, or a string with its quotes. -/
abbrev Word := List Char

/-- The words between the dots of a key. -/
abbrev Key := List Word

inductive Value where
  | word (word : Word)
  | array (items : List Value)
  | inline (members : List (Key × Value))

inductive Statement where
  | table (key : Key)
  /-- One more table of an array. -/
  | nextTable (key : Key)
  | assign (key : Key) (value : Value)

/-! ## Blanks, comments and line ends -/

def skipComment : List Char → List Char
  | '#' :: rest => rest.dropWhile isPlain
  | text => text

/-- What follows the end of a line that has nothing more on it; the text may end there too. -/
def lineEnd? (text : List Char) : Option (List Char) :=
  match skipComment (skipBlanks text) with
  | [] => some []
  | rest => newline? rest

/-- Skips blanks, comments and line ends. -/
def skipSpaceIn : (fuel : Nat) → List Char → List Char
  | 0, text => text
  | fuel + 1, text =>
    let rest := skipComment (skipBlanks text)
    match newline? rest with
    | some rest => skipSpaceIn fuel rest
    | none => rest

def skipSpace (text : List Char) : List Char := skipSpaceIn text.length text

/-! ## Words -/

/-- The end of a string of one line, from behind its opening quote. -/
def basicEnd? : List Char → Option (Word × List Char)
  | [] => none
  | '"' :: rest => some (['"'], rest)
  | '\n' :: _ => none
  | '\\' :: '\\' :: rest => (basicEnd? rest).map fun (word, rest) => ('\\' :: '\\' :: word, rest)
  | '\\' :: '"' :: rest => (basicEnd? rest).map fun (word, rest) => ('\\' :: '"' :: word, rest)
  | c :: rest => (basicEnd? rest).map fun (word, rest) => (c :: word, rest)

def literalEnd? : List Char → Option (Word × List Char)
  | [] => none
  | '\'' :: rest => some (['\''], rest)
  | '\n' :: _ => none
  | c :: rest => (literalEnd? rest).map fun (word, rest) => (c :: word, rest)

/-- Three quotes end a string of several lines, and take up to two more with them. -/
def finalQuotes (quote : Char) (rest : List Char) : Word × List Char :=
  let extra := (rest.takeWhile (· = quote)).take 2
  (List.replicate 3 quote ++ extra, rest.drop extra.length)

def longBasicEnd? : List Char → Option (Word × List Char)
  | [] => none
  | '"' :: '"' :: '"' :: rest => some (finalQuotes '"' rest)
  | '\\' :: '\\' :: rest =>
    (longBasicEnd? rest).map fun (word, rest) => ('\\' :: '\\' :: word, rest)
  | '\\' :: '"' :: rest => (longBasicEnd? rest).map fun (word, rest) => ('\\' :: '"' :: word, rest)
  | c :: rest => (longBasicEnd? rest).map fun (word, rest) => (c :: word, rest)

def longLiteralEnd? : List Char → Option (Word × List Char)
  | [] => none
  | '\'' :: '\'' :: '\'' :: rest => some (finalQuotes '\'' rest)
  | c :: rest => (longLiteralEnd? rest).map fun (word, rest) => (c :: word, rest)

def stringWord? (text : List Char) : Option (Word × List Char) :=
  let opened (quotes : Word) (ending : Option (Word × List Char)) : Option (Word × List Char) :=
    ending.map fun (word, rest) => (quotes ++ word, rest)
  match text with
  | '"' :: '"' :: '"' :: rest => opened ['"', '"', '"'] (longBasicEnd? rest)
  | '\'' :: '\'' :: '\'' :: rest => opened ['\'', '\'', '\''] (longLiteralEnd? rest)
  | '"' :: rest => opened ['"'] (basicEnd? rest)
  | '\'' :: rest => opened ['\''] (literalEnd? rest)
  | _ => none

/-- A character that ends no bare word of a value. -/
def isWordChar (c : Char) : Bool :=
  !(isBlank c || "=,[]\x7b\x7d#\r\n".toList.contains c)

/-- A bare word that is not empty. A date may be followed by one blank and a time. -/
def bareWord? (text : List Char) : Option (Word × List Char) :=
  let word := text.takeWhile isWordChar
  let rest := text.dropWhile isWordChar
  match word, rest with
  | [], _ => none
  | word, ' ' :: digit :: more =>
    if isDate word && digit.isDigit then
      let spaced := word ++ ' ' :: (digit :: more).takeWhile isWordChar
      some (spaced, text.drop spaced.length)
    else some (word, rest)
  | word, rest => some (word, rest)

/-! ## Keys -/

def keyWord? (text : List Char) : Option (Word × List Char) :=
  if text.head?.any isQuote then stringWord? text
  else
    match text.takeWhile (fun c => isWordChar c && c ≠ '.') with
    | [] => none
    | word => some (word, text.drop word.length)

/-- A key with the blanks around its words. -/
def keyIn? : (fuel : Nat) → List Char → Option (Key × List Char)
  | 0, _ => none
  | fuel + 1, text =>
    match keyWord? (skipBlanks text) with
    | none => none
    | some (first, rest) =>
      match skipBlanks rest with
      | '.' :: rest => (keyIn? fuel rest).map fun (key, rest) => (first :: key, rest)
      | rest => some ([first], rest)

def key? (text : List Char) : Option (Key × List Char) := keyIn? (text.length + 1) text

/-! ## Values -/

mutual

/-- A value that may hold `depth` levels of arrays and inline tables. -/
def value? : (depth fuel : Nat) → List Char → Option (Value × List Char)
  | _, 0, _ => none
  | depth, fuel + 1, text =>
    match text, depth with
    | '"' :: _, _ => (stringWord? text).map fun (word, rest) => (.word word, rest)
    | '\'' :: _, _ => (stringWord? text).map fun (word, rest) => (.word word, rest)
    | '[' :: _, 0 => none
    | '\x7b' :: _, 0 => none
    | '[' :: rest, depth + 1 =>
      (items? depth fuel rest).map fun (items, rest) => (.array items, rest)
    | '\x7b' :: rest, depth + 1 =>
      (members? depth fuel rest).map fun (members, rest) => (.inline members, rest)
    | text, _ => (bareWord? text).map fun (word, rest) => (.word word, rest)

/-- The items of an array up to its closing bracket. -/
def items? : (depth fuel : Nat) → List Char → Option (List Value × List Char)
  | _, 0, _ => none
  | depth, fuel + 1, text =>
    match skipSpace text with
    | ']' :: rest => some ([], rest)
    | text =>
      match value? depth fuel text with
      | none => none
      | some (item, rest) =>
        match skipSpace rest with
        | ',' :: rest => (items? depth fuel rest).map fun (items, rest) => (item :: items, rest)
        | ']' :: rest => some ([item], rest)
        | _ => none

/-- The assignments of an inline table up to its closing brace. Lines may end between all parts,
but not inside a key. -/
def members? : (depth fuel : Nat) → List Char → Option (List (Key × Value) × List Char)
  | _, 0, _ => none
  | depth, fuel + 1, text =>
    match skipSpace text with
    | '\x7d' :: rest => some ([], rest)
    | text =>
      match key? text with
      | none => none
      | some (key, rest) =>
        match skipSpace rest with
        | '=' :: rest =>
          match value? depth fuel (skipSpace rest) with
          | none => none
          | some (value, rest) =>
            match skipSpace rest with
            | ',' :: rest =>
              (members? depth fuel rest).map fun (members, rest) =>
                ((key, value) :: members, rest)
            | '\x7d' :: rest => some ([(key, value)], rest)
            | _ => none
        | _ => none

end

/-! ## Documents -/

def depthLimit : Nat := 80

/-- Reads one statement up to the end of its line. -/
def statement? (text : List Char) : Option (Statement × List Char) :=
  match text with
  | '[' :: '[' :: rest => do
    let (key, rest) ← key? rest
    return (.nextTable key, ← lineEnd? (← after? [']', ']'] rest))
  | '[' :: rest => do
    let (key, rest) ← key? rest
    return (.table key, ← lineEnd? (← after? [']'] rest))
  | text => do
    let (key, rest) ← key? text
    let rest ← after? ['='] rest
    let (value, rest) ← value? depthLimit (2 * rest.length + 2) (skipBlanks rest)
    return (.assign key value, ← lineEnd? rest)

def statementsIn? : (fuel : Nat) → List Char → Option (List Statement)
  | 0, _ => none
  | fuel + 1, text =>
    match skipSpace text with
    | [] => some []
    | text => do
      let (statement, rest) ← statement? text
      return statement :: (← statementsIn? fuel rest)

/-- A mark that some editors put at the start of a file. -/
def dropByteOrderMark : List Char → List Char
  | '\ufeff' :: rest => rest
  | text => text

def statements? (text : List Char) : Option (List Statement) :=
  let text := dropByteOrderMark text
  statementsIn? (text.length + 1) text

end JinieServer.Toml
