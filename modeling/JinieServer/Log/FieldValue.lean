import JinieServer.Decimal.Shortest
import JinieServer.Log.Level
import JinieServer.Log.Pattern

/-!
# Field values

The value that a directive asks of a field: a truth value, a number, or a pattern for its text.
-/

namespace JinieServer.Log

open JinieServer.Text
open JinieServer.Decimal (Binary scaled)

inductive FieldValue where
  | truth (value : Bool)
  | real (negative : Bool) (size : Binary)
  | infinite (negative : Bool)
  | undefined
  | natural (n : Nat)
  /-- The number `-n`. -/
  | opposite (n : Nat)
  | pattern (text : List Char)
deriving DecidableEq, Repr

namespace FieldValue

/-! ## Reading -/

def truth? (text : List Char) : Option FieldValue :=
  if text = "true".toList then some (.truth true)
  else if text = "false".toList then some (.truth false)
  else none

/-- A number that fits into 64 bits, either without a sign or with one. -/
def whole? (text : List Char) : Option FieldValue :=
  match text with
  | '-' :: digits =>
    (digits? digits).bind fun n => if n ≤ 0x8000000000000000 then some (.opposite n) else none
  | _ => (natural? text).bind fun n => if n ≤ 0xffffffffffffffff then some (.natural n) else none

/-- What a sign leaves, and whether it is a minus. -/
def signed : List Char → Bool × List Char
  | '-' :: rest => (true, rest)
  | '+' :: rest => (false, rest)
  | text => (false, text)

/-- The power of ten behind the digits; none written is one. -/
def exponent? : List Char → Option Int
  | [] => some 0
  | c :: rest =>
    if c ≠ 'e' && c ≠ 'E' then none
    else
      let (negative, digits) := signed rest
      (digits? digits).map fun n => if negative then -(n : Int) else (n : Int)

/-- Every float that is not zero lies between `10 ^ -330` and `10 ^ 310`. -/
def rounded (negative : Bool) (digits : Nat) (exponent : Int) : FieldValue :=
  let place : Int := (Nat.toDigits 10 digits).length + exponent
  if digits = 0 || place < -330 then .real negative .zero
  else if 310 < place then .infinite negative
  else
    let size := (scaled digits 10 exponent).toBinary
    if size.isFinite then .real negative size else .infinite negative

/-- Digits with a point among them or at either end, and an exponent. -/
def decimal? (negative : Bool) (text : List Char) : Option FieldValue :=
  let before := text.takeWhile Char.isDigit
  let (after, rest) := match text.drop before.length with
    | '.' :: rest => (rest.takeWhile Char.isDigit, rest.dropWhile Char.isDigit)
    | rest => ([], rest)
  match digits? (before ++ after), exponent? rest with
  | some digits, some exponent => some (rounded negative digits (exponent - after.length))
  | _, _ => none

def real? (text : List Char) : Option FieldValue :=
  let (negative, size) := signed text
  let word := size.map Char.toLower
  if word = "nan".toList then some .undefined
  else if word = "inf".toList || word = "infinity".toList then some (.infinite negative)
  else decimal? negative size

/-- The first kind that the text fits. A text that is not even a pattern is no value. -/
def ofText? (text : List Char) : Option FieldValue :=
  (truth? text).or <| (whole? text).or <| (real? text).or <|
    if Pattern.isPattern text then some (.pattern text) else none

/-! ## Text -/

def text : FieldValue → List Char
  | .truth value => (if value then "true" else "false").toList
  | .real negative size =>
    let number := if size.m = 0 then ['0'] else
      let (digits, place) := size.digits
      Decimal.positional digits place
    if negative then '-' :: number else number
  | .infinite negative => (if negative then "-inf" else "inf").toList
  | .undefined => "NaN".toList
  | .natural n => (toString n).toList
  | .opposite n => (if n = 0 then "0" else "-" ++ toString n).toList
  | .pattern text => text

/-! ## Order -/

/-- Kinds come before the values of a kind. -/
def rank : FieldValue → Nat
  | .truth _ => 0
  | .infinite negative => if negative then 1 else 3
  | .real _ _ => 2
  | .undefined => 4
  | .natural _ => 5
  | .opposite _ => 6
  | .pattern _ => 7

def sizeOrder (a b : Binary) : Ordering :=
  if a.ratio.lt b.ratio then .lt else if b.ratio.lt a.ratio then .gt else .eq

/-- Both zeros are equal. -/
def realOrder (negative : Bool) (a : Binary) (negative' : Bool) (b : Binary) : Ordering :=
  if a.m = 0 && b.m = 0 then .eq
  else
    match negative, negative' with
    | false, false => sizeOrder a b
    | true, true => sizeOrder b a
    | true, false => .lt
    | false, true => .gt

def order : FieldValue → FieldValue → Ordering
  | .truth a, .truth b => compare a b
  | .real n a, .real m b => realOrder n a m b
  | .natural a, .natural b => compare a b
  | .opposite a, .opposite b => compare b a
  | .pattern a, .pattern b => compare a b
  | a, b => compare a.rank b.rank

instance : Ord FieldValue := ⟨order⟩

end FieldValue

end JinieServer.Log
