import JinieServer.Text.Percent

/-!
# TOML strings

Strings of one line and of several lines, each with escapes or without. Each reader returns what it
read and the rest of the text.
-/

namespace JinieServer.Toml

open JinieServer.Text

/-! ## Blanks and line ends -/

def isBlank (c : Char) : Bool := c = ' ' || c = '\t'

def skipBlanks (text : List Char) : List Char := text.dropWhile isBlank

/-- A character that may stand in a comment or, quotes and backslashes apart, in a string. -/
def isPlain (c : Char) : Bool := c = '\t' || !isControl c

def newline? : List Char → Option (List Char)
  | '\n' :: rest => some rest
  | '\r' :: '\n' :: rest => some rest
  | _ => none

/-! ## Strings -/

/-- A character from its hexadecimal code; surrogates are no characters. -/
def codePoint? (digits : List Char) : Option Char := do
  let code ← digits.foldlM (fun n c => (hexValue? c).map (n * 16 + ·)) 0
  if code.isValidChar then some (Char.ofNat code) else none

def coded? (count : Nat) (text : List Char) : Option (Char × List Char) :=
  if text.length < count then none
  else (codePoint? (text.take count)).map fun c => (c, text.drop count)

/-- The character of an escape, read behind its backslash. -/
def escape? : List Char → Option (Char × List Char)
  | 'b' :: rest => some ('\x08', rest)
  | 't' :: rest => some ('\t', rest)
  | 'n' :: rest => some ('\n', rest)
  | 'f' :: rest => some ('\x0c', rest)
  | 'r' :: rest => some ('\r', rest)
  | 'e' :: rest => some ('\x1b', rest)
  | '"' :: rest => some ('"', rest)
  | '\\' :: rest => some ('\\', rest)
  | 'x' :: rest => coded? 2 rest
  | 'u' :: rest => coded? 4 rest
  | 'U' :: rest => coded? 8 rest
  | _ => none

def basicBody? : (fuel : Nat) → (read : List Char) → List Char → Option (List Char × List Char)
  | 0, _, _ => none
  | _ + 1, _, [] => none
  | _ + 1, read, '"' :: rest => some (read.reverse, rest)
  | fuel + 1, read, '\\' :: rest =>
    match escape? rest with
    | some (c, rest) => basicBody? fuel (c :: read) rest
    | none => none
  | fuel + 1, read, c :: rest => if isPlain c then basicBody? fuel (c :: read) rest else none

def literalBody? (text : List Char) : Option (List Char × List Char) :=
  let body := text.takeWhile fun c => isPlain c && c ≠ '\''
  match text.dropWhile fun c => isPlain c && c ≠ '\'' with
  | '\'' :: rest => some (body, rest)
  | _ => none

/-- The quotes that end a string of several lines: three, with up to two more that belong to it. -/
def closing? (quote : Char) (text : List Char) : Option (List Char × List Char) :=
  let run := (text.takeWhile (· = quote)).length
  if run < 3 then none
  else
    let extra := min (run - 3) 2
    some (List.replicate extra quote, text.drop (extra + 3))

/-- Drops blanks and line ends. -/
def dropLines : List Char → List Char
  | ' ' :: rest => dropLines rest
  | '\t' :: rest => dropLines rest
  | '\n' :: rest => dropLines rest
  | '\r' :: '\n' :: rest => dropLines rest
  | text => text

/-- Behind a backslash at the end of a line: the rest of the text from its next word on. -/
def joinedLine? (text : List Char) : Option (List Char) :=
  (newline? (skipBlanks text)).map dropLines

def longBasicBody? : (fuel : Nat) → (read : List Char) → List Char → Option (List Char × List Char)
  | 0, _, _ => none
  | fuel + 1, read, text =>
    match closing? '"' text with
    | some (extra, rest) => some (read.reverse ++ extra, rest)
    | none =>
      match text with
      | [] => none
      | '\\' :: rest =>
        match joinedLine? rest with
        | some rest => longBasicBody? fuel read rest
        | none =>
          match escape? rest with
          | some (c, rest) => longBasicBody? fuel (c :: read) rest
          | none => none
      | '\r' :: '\n' :: rest => longBasicBody? fuel ('\n' :: '\r' :: read) rest
      | c :: rest => if isPlain c || c = '\n' then longBasicBody? fuel (c :: read) rest else none

def longLiteralBody? :
    (fuel : Nat) → (read : List Char) → List Char → Option (List Char × List Char)
  | 0, _, _ => none
  | fuel + 1, read, text =>
    match closing? '\'' text with
    | some (extra, rest) => some (read.reverse ++ extra, rest)
    | none =>
      match text with
      | [] => none
      | '\r' :: '\n' :: rest => longLiteralBody? fuel ('\n' :: '\r' :: read) rest
      | c :: rest => if isPlain c || c = '\n' then longLiteralBody? fuel (c :: read) rest else none

/-- The line end that directly follows the opening quotes is no part of the string. -/
def dropFirstNewline (text : List Char) : List Char := (newline? text).getD text

/-- A string of one line. -/
def string? : List Char → Option (List Char × List Char)
  | '"' :: rest => basicBody? (rest.length + 1) [] rest
  | '\'' :: rest => literalBody? rest
  | _ => none

def longString? (text : List Char) : Option (List Char × List Char) :=
  match text with
  | '"' :: '"' :: '"' :: rest => longBasicBody? (rest.length + 1) [] (dropFirstNewline rest)
  | '\'' :: '\'' :: '\'' :: rest => longLiteralBody? (rest.length + 1) [] (dropFirstNewline rest)
  | text => string? text

def isQuote (c : Char) : Bool := c = '"' || c = '\''

/-- The text of a whole string with its quotes. -/
def quotedText? (read : List Char → Option (List Char × List Char)) (raw : List Char) :
    Option String :=
  match read raw with
  | some (text, []) => some (String.ofList text)
  | _ => none

end JinieServer.Toml
