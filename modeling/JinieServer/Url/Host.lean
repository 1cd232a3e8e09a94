import JinieServer.Text.Quoted
import JinieServer.Url.Domain

/-!
# Hosts

A host is a domain in its ASCII form, an IPv4 address or an IPv6 address. A domain whose last
label is a number has to be an IPv4 address.
-/

namespace JinieServer.Url

open JinieServer.Text

inductive Host where
  | domain (name : List Char)
  | ipv4 (address : Nat)
  | ipv6 (groups : List Nat)
deriving DecidableEq, Repr

/-! ## IPv4 -/

/-- The value of a part that may be octal or hexadecimal. -/
def ipv4Part? (part : List Char) : Option Nat :=
  let read (radix : Nat) (digits : List Char) : Option Nat :=
    digits.foldlM (fun n c =>
      match hexValue? c with
      | some d => if d < radix then some (n * radix + d) else none
      | none => none) 0
  match part with
  | [] => none
  | '0' :: 'x' :: digits => read 16 digits
  | '0' :: 'X' :: digits => read 16 digits
  | '0' :: c :: digits => read 8 (c :: digits)
  | digits => read 10 digits

def dropFinalEmpty (parts : List (List Char)) : List (List Char) :=
  if parts.length > 1 && parts.getLast? = some [] then parts.dropLast else parts

def endsInNumber (domain : List Char) : Bool :=
  match (dropFinalEmpty (domain.splitOn '.')).getLast? with
  | none => false
  | some last => (!last.isEmpty && last.all Char.isDigit) || (ipv4Part? last).isSome

/-- Up to four parts; the last one fills the bytes that the others leave. -/
def ipv4? (domain : List Char) : Option Nat := do
  let parts ← (dropFinalEmpty (domain.splitOn '.')).mapM ipv4Part?
  let last ← parts.getLast?
  let leading := parts.dropLast
  if parts.length > 4 ∨ leading.any (255 < ·) ∨ Nat.pow 256 (4 - leading.length) ≤ last then none
  else
    let places := leading.zipIdx.map fun (n, i) => n * Nat.pow 256 (3 - i)
    some (places.foldr (· + ·) last)

def ipv4Text (address : Nat) : List Char :=
  let byte (i : Nat) : List Char := Nat.toDigits 10 (address / Nat.pow 256 i % 256)
  ['.'].intercalate [byte 3, byte 2, byte 1, byte 0]

/-! ## IPv6 -/

def hexGroup? (piece : List Char) : Option Nat :=
  if piece.isEmpty || piece.length > 4 then none
  else piece.foldlM (fun n c => (hexValue? c).map (n * 16 + ·)) 0

/-- One byte of a dotted address, without leading zeros. -/
def decimalByte? (piece : List Char) : Option Nat :=
  if piece.isEmpty || piece.length > 3 || !piece.all Char.isDigit
      || (piece.length > 1 && piece.head? = some '0') then none
  else
    let n := Nat.ofDigitChars 10 piece 0
    if n ≤ 255 then some n else none

/-- The two groups of a dotted address. -/
def dottedGroups? (piece : List Char) : Option (List Nat) := do
  match ← (piece.splitOn '.').mapM decimalByte? with
  | [a, b, c, d] => some [a * 256 + b, c * 256 + d]
  | _ => none

/-- Groups divided by colons; the last one may be a dotted address. -/
def groups? : List (List Char) → Option (List Nat)
  | [] => some []
  | [last] =>
    match hexGroup? last with
    | some n => some [n]
    | none => dottedGroups? last
  | piece :: more => do return (← hexGroup? piece) :: (← groups? more)

def sideGroups? (side : List Char) : Option (List Nat) :=
  if side.isEmpty then some [] else groups? (side.splitOn ':')

/-- Eight groups, or fewer with one `::` for the zeros left out. -/
def ipv6? (text : List Char) : Option (List Nat) :=
  match before? [':', ':'] text with
  | none => do
    let groups ← groups? (text.splitOn ':')
    if groups.length = 8 then some groups else none
  | some left => do
    let left' ← (if left.isEmpty then some [] else (left.splitOn ':').mapM hexGroup?)
    let right ← sideGroups? (text.drop (left.length + 2))
    let count := left'.length + right.length
    if count ≤ 7 then some (left' ++ List.replicate (8 - count) 0 ++ right) else none

/-- Start and length of the longest run of zeros. -/
def zeroRun (groups : List Nat) : Nat × Nat :=
  (List.range groups.length).foldl (fun best i =>
    let length := ((groups.drop i).takeWhile (· = 0)).length
    if best.2 < length then (i, length) else best) (0, 0)

def ipv6Text (groups : List Nat) : List Char :=
  let write (side : List Nat) : List Char := [':'].intercalate (side.map lowerHex)
  let (start, length) := zeroRun groups
  if length < 2 then write groups
  else write (groups.take start) ++ ':' :: ':' :: write (groups.drop (start + length))

/-! ## All hosts -/

def bracketed? (text : List Char) : Option (List Char) :=
  match text, text.getLast? with
  | '[' :: inner, some ']' => some inner.dropLast
  | _, _ => none

/-- The host of a scheme that knows domains. -/
def host? (text : List Char) : Option Host :=
  if text.head? = some '[' then (bracketed? text).bind fun inner => (ipv6? inner).map .ipv6
  else do
    let domain ← Domain.ascii? (← unescape? text)
    if domain.isEmpty then none
    else if endsInNumber domain then (ipv4? domain).map .ipv4
    else some (.domain domain)

def isOpaqueHostChar (c : Char) : Bool :=
  !(c = '\x00' || " #/:<>?@[\\]^|".toList.contains c)

/-- The host of any other scheme is kept as written. -/
def opaqueHost? (text : List Char) : Option Host :=
  if text.head? = some '[' then (bracketed? text).bind fun inner => (ipv6? inner).map .ipv6
  else if text.all isOpaqueHostChar then
    some (.domain (escape (fun c => isAscii c && !isControl c) text))
  else none

def Host.text : Host → List Char
  | .domain name => name
  | .ipv4 address => ipv4Text address
  | .ipv6 groups => '[' :: ipv6Text groups ++ [']']

end JinieServer.Url
