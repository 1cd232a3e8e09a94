/-!
# UTF-8

A text as bytes, and bytes as a text. Bytes that are no text can still be shown, with a
replacement character for each part that does not belong.
-/

namespace JinieServer.Text

def utf8 (s : List Char) : List UInt8 := s.flatMap String.utf8EncodeChar

def ofUtf8? (bytes : List UInt8) : Option (List Char) :=
  bytes.toByteArray.utf8Decode?.map Array.toList

def replacement : Char := Char.ofNat 0xfffd

/-- The start of a character: how many bytes are missing, between which bounds the next one lies,
and the bits read so far. -/
structure Begun where
  missing : Nat
  low : UInt8 := 0x80
  high : UInt8 := 0xbf
  bits : Nat
deriving DecidableEq, Repr

/-- What the first byte of a character shows, and what it begins. -/
def begin (b : UInt8) : List Char × Option Begun :=
  let n := b.toNat
  if n < 0x80 then ([Char.ofNat n], none)
  else if n < 0xc2 then ([replacement], none)
  else if n < 0xe0 then ([], some { missing := 1, bits := n % 32 })
  else if n = 0xe0 then ([], some { missing := 2, low := 0xa0, bits := 0 })
  else if n = 0xed then ([], some { missing := 2, high := 0x9f, bits := n % 16 })
  else if n < 0xf0 then ([], some { missing := 2, bits := n % 16 })
  else if n = 0xf0 then ([], some { missing := 3, low := 0x90, bits := 0 })
  else if n < 0xf4 then ([], some { missing := 3, bits := n % 8 })
  else if n = 0xf4 then ([], some { missing := 3, high := 0x8f, bits := 4 })
  else ([replacement], none)

/-- Reads one more byte. A byte that does not fit ends what was begun and begins anew. -/
def Begun.add (begun : Option Begun) (b : UInt8) : List Char × Option Begun :=
  match begun with
  | none => begin b
  | some begun =>
    if begun.low ≤ b && b ≤ begun.high then
      let bits := begun.bits * 64 + b.toNat % 64
      if begun.missing ≤ 1 then ([Char.ofNat bits], none)
      else ([], some { missing := begun.missing - 1, bits })
    else
      let (shown, next) := begin b
      (replacement :: shown, next)

def lossyFrom (begun : Option Begun) : List UInt8 → List Char
  | [] => if begun.isSome then [replacement] else []
  | b :: rest =>
    let (shown, next) := Begun.add begun b
    shown ++ lossyFrom next rest

/-- The text of any bytes. -/
def lossy (bytes : List UInt8) : List Char := lossyFrom none bytes

end JinieServer.Text
