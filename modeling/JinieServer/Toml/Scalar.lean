import JinieServer.Text.Percent

/-!
# TOML numbers, dates and times

Which words stand for a value without quotes. Only the form is checked: a number may be too large
for any machine word.
-/

namespace JinieServer.Toml

open JinieServer.Text

/-- Digits with single underscores between them. -/
def isDigitRun (isDigit : Char → Bool) : List Char → Bool
  | [] => false
  | [c] => isDigit c
  | c :: '_' :: rest => isDigit c && isDigitRun isDigit rest
  | c :: rest => isDigit c && isDigitRun isDigit rest

def isHexDigit (c : Char) : Bool := (hexValue? c).isSome

def dropSign : List Char → List Char
  | '+' :: rest => rest
  | '-' :: rest => rest
  | word => word

/-- Decimal digits that start with a zero only if it is the only one. -/
def isWhole (word : List Char) : Bool :=
  isDigitRun Char.isDigit word && (word.length = 1 || word.head? ≠ some '0')

def isInteger (word : List Char) : Bool :=
  match word with
  | '0' :: 'x' :: digits => isDigitRun isHexDigit digits
  | '0' :: 'o' :: digits => isDigitRun (fun c => '0' ≤ c && c ≤ '7') digits
  | '0' :: 'b' :: digits => isDigitRun (fun c => c = '0' || c = '1') digits
  | word => isWhole (dropSign word)

def isExponentMark (c : Char) : Bool := c = 'e' || c = 'E'

/-- A whole part with a fraction, an exponent or both. -/
def isFloat (word : List Char) : Bool :=
  let body := dropSign word
  let isSpecial := body = "inf".toList || body = "nan".toList
  let mantissa := body.takeWhile (!isExponentMark ·)
  let exponent := body.dropWhile (!isExponentMark ·)
  let goodExponent := match exponent with
    | [] => true
    | _ :: digits => isDigitRun Char.isDigit (dropSign digits)
  let goodMantissa := match mantissa.splitOn '.' with
    | [whole] => isWhole whole && !exponent.isEmpty
    | [whole, fraction] => isWhole whole && isDigitRun Char.isDigit fraction
    | _ => false
  isSpecial || (goodMantissa && goodExponent)

def isBoolean (word : List Char) : Bool := word = "true".toList || word = "false".toList

/-! ## Dates and times -/

/-- The value of exactly `count` digits. -/
def fixedDigits? (count : Nat) (digits : List Char) : Option Nat :=
  if digits.length = count && digits.all Char.isDigit then
    some (Nat.ofDigitChars 10 digits 0)
  else none

def isLeapYear (year : Nat) : Bool := year % 4 = 0 && (year % 100 ≠ 0 || year % 400 = 0)

def monthLength (year month : Nat) : Nat :=
  if month = 2 then (if isLeapYear year then 29 else 28)
  else if [4, 6, 9, 11].contains month then 30
  else 31

def isDate (word : List Char) : Bool :=
  match word.splitOn '-' with
  | [year, month, day] =>
    match fixedDigits? 4 year, fixedDigits? 2 month, fixedDigits? 2 day with
    | some y, some m, some d => 1 ≤ m && m ≤ 12 && 1 ≤ d && d ≤ monthLength y m
    | _, _, _ => false
  | _ => false

def digitsUpTo (limit : Nat) (digits : List Char) : Bool :=
  match fixedDigits? 2 digits with
  | some n => n ≤ limit
  | none => false

def isSeconds (word : List Char) : Bool :=
  match word.splitOn '.' with
  | [seconds] => digitsUpTo 60 seconds
  | [seconds, fraction] =>
    digitsUpTo 60 seconds && !fraction.isEmpty && fraction.all Char.isDigit
  | _ => false

/-- Hours and minutes, with or without seconds. -/
def isTime (word : List Char) : Bool :=
  match word.splitOn ':' with
  | [hour, minute] => digitsUpTo 23 hour && digitsUpTo 59 minute
  | [hour, minute, second] => digitsUpTo 23 hour && digitsUpTo 59 minute && isSeconds second
  | _ => false

def isOffset (word : List Char) : Bool :=
  match word with
  | ['Z'] => true
  | ['z'] => true
  | sign :: rest =>
    (sign = '+' || sign = '-') &&
      match rest.splitOn ':' with
      | [hour, minute] => digitsUpTo 23 hour && digitsUpTo 59 minute
      | _ => false
  | [] => false

def isOffsetStart (c : Char) : Bool := c = 'Z' || c = 'z' || c = '+' || c = '-'

/-- A time that may carry an offset. -/
def isOffsetTime (word : List Char) : Bool :=
  let time := word.takeWhile (!isOffsetStart ·)
  let offset := word.dropWhile (!isOffsetStart ·)
  isTime time && (offset.isEmpty || isOffset offset)

/-- A date, a time, or both with a mark between them. -/
def isDateTime (word : List Char) : Bool :=
  match word.drop 10 with
  | [] => isDate word || isTime word
  | mark :: time =>
    (isDate (word.take 10) && (mark = 'T' || mark = 't' || mark = ' ') && isOffsetTime time) ||
      isTime word

def isScalar (word : List Char) : Bool :=
  isBoolean word || isInteger word || isFloat word || isDateTime word

end JinieServer.Toml
