import JinieServer.Json.Basic
import JinieServer.Text.Basic
import JinieServer.Text.Percent

/-!
# Reading JSON

Each reader returns what it read and the rest of the text. A number without point and exponent is
an integer if it fits into 64 bits, signed or not.
-/

namespace JinieServer.Json

open JinieServer.Text

def isBlank (c : Char) : Bool := c = ' ' || c = '\t' || c = '\n' || c = '\r'

def skipBlanks (text : List Char) : List Char := text.dropWhile isBlank

/-! ## Strings -/

def hexQuad? : List Char → Option (Nat × List Char)
  | a :: b :: c :: d :: rest => do
    let a ← hexValue? a
    let b ← hexValue? b
    let c ← hexValue? c
    let d ← hexValue? d
    return (((a * 16 + b) * 16 + c) * 16 + d, rest)
  | _ => none

def shortEscape? : Char → Option Char
  | '"' => some '"'
  | '\\' => some '\\'
  | '/' => some '/'
  | 'b' => some '\x08'
  | 'f' => some '\x0c'
  | 'n' => some '\n'
  | 'r' => some '\r'
  | 't' => some '\t'
  | _ => none

/-- The character of a `\u` escape whose digits come first; a high surrogate needs its low one. -/
def unicodeEscape? (text : List Char) : Option (Char × List Char) := do
  let (unit, rest) ← hexQuad? text
  if 0xd800 ≤ unit ∧ unit < 0xdc00 then
    let (low, rest) ← hexQuad? (← after? ['\\', 'u'] rest)
    if 0xdc00 ≤ low ∧ low < 0xe000 then
      return (Char.ofNat (0x10000 + (unit - 0xd800) * 0x400 + (low - 0xdc00)), rest)
    else none
  else if 0xdc00 ≤ unit ∧ unit < 0xe000 then none
  else return (Char.ofNat unit, rest)

/-- The rest of a string whose opening quote has been read. -/
def stringBody? : (fuel : Nat) → (read : List Char) → List Char → Option (String × List Char)
  | 0, _, _ => none
  | _ + 1, _, [] => none
  | _ + 1, read, '"' :: rest => some (String.ofList read.reverse, rest)
  | fuel + 1, read, '\\' :: 'u' :: rest =>
    match unicodeEscape? rest with
    | some (c, rest) => stringBody? fuel (c :: read) rest
    | none => none
  | fuel + 1, read, '\\' :: c :: rest =>
    match shortEscape? c with
    | some c => stringBody? fuel (c :: read) rest
    | none => none
  | fuel + 1, read, c :: rest =>
    if c.toNat < 0x20 then none else stringBody? fuel (c :: read) rest

/-! ## Numbers -/

def someDigits? (text : List Char) : Option (List Char × List Char) :=
  match text.takeWhile Char.isDigit with
  | [] => none
  | digits => some (digits, text.dropWhile Char.isDigit)

def fraction? : List Char → Option (List Char × List Char)
  | '.' :: rest => someDigits? rest
  | rest => some ([], rest)

def exponent? : List Char → Option (Option Int × List Char)
  | c :: rest =>
    if c = 'e' || c = 'E' then
      let (negative, rest) := match rest with
        | '-' :: rest => (true, rest)
        | '+' :: rest => (false, rest)
        | rest => (false, rest)
      match someDigits? rest with
      | none => none
      | some (digits, rest) =>
        let n : Int := Nat.ofDigitChars 10 digits 0
        some (some (if negative then -n else n), rest)
    else some (none, c :: rest)
  | [] => some (none, [])

/-- Whether an integer fits in 64 bits, with or without a sign. -/
def isWhole (n : Int) : Bool := -0x8000000000000000 ≤ n && n ≤ 0xffffffffffffffff

/-- No significand is this large. -/
def significandLimit : Nat := 0x10000000000000000

/-- Adds digits to a significand as long as it has room for them; the rest is left over. -/
def fill (significand : Nat) : List Char → Nat × List Char
  | [] => (significand, [])
  | c :: rest =>
    let next := significand * 10 + (c.toNat - '0'.toNat)
    if next < significandLimit then fill next rest else (significand, c :: rest)

/-- The power of ten up to which a float is scaled in one step. -/
def greatestPower : Nat := 308

/-- Divides by `10 ^ n` in steps; a float that takes more than three steps is zero by then. -/
def scaleDown : (steps : Nat) → Decimal.Binary → (n : Nat) → Decimal.Binary
  | 0, _, _ => .zero
  | steps + 1, f, n =>
    if n ≤ greatestPower then f.div (.powerOfTen n)
    else scaleDown steps (f.div (.powerOfTen greatestPower)) (n - greatestPower)

/-- The float `significand · 10 ^ exponent`, rounded after each step; none if it is infinite. -/
def scale? (significand : Nat) (exponent : Int) : Option Decimal.Binary :=
  let f := Decimal.Binary.ofNat significand
  if exponent < 0 then some (scaleDown 3 f exponent.natAbs)
  else if significand = 0 then some .zero
  else if greatestPower < exponent.natAbs then none
  else
    let product := f.mul (.powerOfTen exponent.natAbs)
    if product.isFinite then some product else none

/-- The float with these parts. Digits of the whole part that find no room still count as places,
those of the fraction are dropped. -/
def real? (negative : Bool) (whole fraction : List Char) (exponent : Int) : Option Json :=
  let (significand, unread) := fill 0 whole
  let (significand, dropped) := fill significand fraction
  let places : Int := (unread.length : Int) - (fraction.length - dropped.length : Nat)
  (scale? significand (places + exponent)).map (.real negative)

/-- The number with these parts. -/
def numberOf? (negative : Bool) (whole fraction : List Char) (exponent : Option Int) :
    Option Json :=
  let digits := Nat.ofDigitChars 10 whole 0
  let value : Int := if negative then -(digits : Int) else digits
  if fraction.isEmpty && exponent.isNone && isWhole value && !(negative && digits = 0) then
    some (.int value)
  else real? negative whole fraction (exponent.getD 0)

def number? (text : List Char) : Option (Json × List Char) := do
  let (negative, rest) := match text with
    | '-' :: rest => (true, rest)
    | rest => (false, rest)
  let (whole, rest) ← someDigits? rest
  if whole.length > 1 ∧ whole.head? = some '0' then none
  else
    let (fraction, rest) ← fraction? rest
    let (exponent, rest) ← exponent? rest
    return (← numberOf? negative whole fraction exponent, rest)

/-! ## Values -/

mutual

def value? : (fuel : Nat) → List Char → Option (Json × List Char)
  | 0, _ => none
  | fuel + 1, text =>
    match skipBlanks text with
    | '"' :: rest => (stringBody? (rest.length + 1) [] rest).map fun (s, rest) => (.str s, rest)
    | '[' :: rest =>
      match skipBlanks rest with
      | ']' :: rest => some (.arr [], rest)
      | rest => (items? fuel rest).map fun (items, rest) => (.arr items, rest)
    | '\x7b' :: rest =>
      match skipBlanks rest with
      | '\x7d' :: rest => some (.obj [], rest)
      | rest => (members? fuel rest).map fun (members, rest) => (ofMembers members, rest)
    | 'n' :: 'u' :: 'l' :: 'l' :: rest => some (.null, rest)
    | 't' :: 'r' :: 'u' :: 'e' :: rest => some (.bool true, rest)
    | 'f' :: 'a' :: 'l' :: 's' :: 'e' :: rest => some (.bool false, rest)
    | rest => number? rest

/-- One or more items, up to the closing bracket. -/
def items? : (fuel : Nat) → List Char → Option (List Json × List Char)
  | 0, _ => none
  | fuel + 1, text =>
    match value? fuel text with
    | none => none
    | some (item, rest) =>
      match skipBlanks rest with
      | ']' :: rest => some ([item], rest)
      | ',' :: rest => (items? fuel rest).map fun (items, rest) => (item :: items, rest)
      | _ => none

/-- One or more members, up to the closing brace. -/
def members? : (fuel : Nat) → List Char → Option (List (String × Json) × List Char)
  | 0, _ => none
  | fuel + 1, text =>
    match skipBlanks text with
    | '"' :: rest =>
      match stringBody? (rest.length + 1) [] rest with
      | none => none
      | some (name, rest) =>
        match skipBlanks rest with
        | ':' :: rest =>
          match value? fuel rest with
          | none => none
          | some (value, rest) =>
            match skipBlanks rest with
            | '\x7d' :: rest => some ([(name, value)], rest)
            | ',' :: rest =>
              (members? fuel rest).map fun (members, rest) => ((name, value) :: members, rest)
            | _ => none
        | _ => none
    | _ => none

end

/-- The value that the whole text stands for. -/
def parse? (text : String) : Option Json :=
  let chars := text.toList
  match value? (2 * chars.length + 1) chars with
  | some (value, rest) => if (skipBlanks rest).isEmpty then some value else none
  | none => none

end JinieServer.Json
