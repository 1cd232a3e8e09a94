import JinieServer.Text.Utf8

/-!
# Percent escapes

An escape is `%` and two hexadecimal digits, and stands for one byte of the UTF-8 form.
-/

namespace JinieServer.Text

/-! ## Hexadecimal digits -/

def hexDigit (n : Nat) : Char :=
  if n < 10 then Char.ofNat ('0'.toNat + n) else Char.ofNat ('A'.toNat + (n - 10))

def hexValue? (c : Char) : Option Nat :=
  if '0' ≤ c ∧ c ≤ '9' then some (c.toNat - '0'.toNat)
  else if 'a' ≤ c ∧ c ≤ 'f' then some (c.toNat - 'a'.toNat + 10)
  else if 'A' ≤ c ∧ c ≤ 'F' then some (c.toNat - 'A'.toNat + 10)
  else none

/-! ## Escaping -/

def escapeByte (b : UInt8) : List Char :=
  ['%', hexDigit (b.toNat / 16), hexDigit (b.toNat % 16)]

/-- Writes the characters that `keep` allows as they are and every other one as escapes. -/
def escape (keep : Char → Bool) (s : List Char) : List Char :=
  s.flatMap fun c => if keep c then [c] else (String.utf8EncodeChar c).flatMap escapeByte

def escapeBytes (keep : Char → Bool) (bytes : List UInt8) : List Char :=
  bytes.flatMap fun b =>
    let c := Char.ofNat b.toNat
    if b < 0x80 && keep c then [c] else escapeByte b

/-- The bytes of a text after its escapes are undone. A `%` without two digits stands for itself. -/
def unescapeBytes : List Char → List UInt8
  | '%' :: a :: b :: rest =>
    match hexValue? a, hexValue? b with
    | some high, some low => UInt8.ofNat (16 * high + low) :: unescapeBytes rest
    | _, _ => 0x25 :: unescapeBytes (a :: b :: rest)
  | c :: rest => String.utf8EncodeChar c ++ unescapeBytes rest
  | [] => []

/-- The text after its escapes are undone, unless the bytes are not UTF-8. -/
def unescape? (s : List Char) : Option (List Char) := ofUtf8? (unescapeBytes s)

def isControl (c : Char) : Bool := c.toNat < 0x20 || c.toNat = 0x7f

def isAscii (c : Char) : Bool := c.toNat < 0x80

end JinieServer.Text
