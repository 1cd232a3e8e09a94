/-!
# Punycode

Writes the characters of a label with ASCII alone: first those that are ASCII, then for each other
one how far to count, in a mixed-radix number.
-/

namespace JinieServer.Url.Punycode

def base : Nat := 36
def thresholdLow : Nat := 1
def thresholdHigh : Nat := 26
def firstCode : Nat := 128
def firstBias : Nat := 72

def digit (n : Nat) : Char :=
  if n < 26 then Char.ofNat ('a'.toNat + n) else Char.ofNat ('0'.toNat + (n - 26))

def digitValue? (c : Char) : Option Nat :=
  if 'a' ≤ c ∧ c ≤ 'z' then some (c.toNat - 'a'.toNat)
  else if 'A' ≤ c ∧ c ≤ 'Z' then some (c.toNat - 'A'.toNat)
  else if '0' ≤ c ∧ c ≤ '9' then some (c.toNat - '0'.toNat + 26)
  else none

/-- Halves a large delta until it is small; each round stands for one more digit. -/
def reduceDelta : (fuel delta rounds : Nat) → Nat
  | 0, delta, rounds => rounds * base + 36 * delta / (delta + 38)
  | fuel + 1, delta, rounds =>
    if delta > 455 then reduceDelta fuel (delta / 35) (rounds + 1)
    else rounds * base + 36 * delta / (delta + 38)

def adapt (delta points : Nat) (first : Bool) : Nat :=
  let delta := if first then delta / 700 else delta / 2
  reduceDelta 64 (delta + delta / points) 0

def threshold (k bias : Nat) : Nat := min thresholdHigh (max thresholdLow (k - bias))

/-- The digits of a delta. -/
def deltaDigits : (fuel delta bias k : Nat) → List Char
  | 0, _, _, _ => []
  | fuel + 1, q, bias, k =>
    let t := threshold k bias
    if q < t then [digit q]
    else digit (t + (q - t) % (base - t)) :: deltaDigits fuel ((q - t) / (base - t)) bias (k + base)

structure Encoder where
  delta : Nat
  bias : Nat
  handled : Nat
  first : Bool
  written : List Char

/-- Takes one character of the label into account while the code point `n` is written. -/
def Encoder.step (n : Nat) (e : Encoder) (c : Nat) : Encoder :=
  if c < n then { e with delta := e.delta + 1 }
  else if c = n then
    { delta := 0
      bias := adapt e.delta (e.handled + 1) e.first
      handled := e.handled + 1
      first := false
      written := e.written ++ deltaDigits (e.delta + 2) e.delta e.bias base }
  else e

/-- Writes all code points from `n` on. -/
def encodeFrom (codes : List Nat) : (fuel n : Nat) → Encoder → List Char
  | 0, _, e => e.written
  | fuel + 1, n, e =>
    match (codes.filter (n ≤ ·)).min? with
    | none => e.written
    | some m =>
      let e := { e with delta := e.delta + (m - n) * (e.handled + 1) }
      let e := codes.foldl (Encoder.step m) e
      encodeFrom codes fuel (m + 1) { e with delta := e.delta + 1 }

def encode (label : List Char) : List Char :=
  let codes := label.map Char.toNat
  let plain := label.filter (·.toNat < firstCode)
  let start := if plain.isEmpty then [] else plain ++ ['-']
  encodeFrom codes label.length firstCode ⟨0, firstBias, plain.length, true, start⟩

/-- No number of a written form is this large. -/
def limit : Nat := 0x100000000

/-- Reads one mixed-radix number: its value and the rest. -/
def readDelta? : (fuel bias k weight value : Nat) → List Char → Option (Nat × List Char)
  | 0, _, _, _, _, _ => none
  | _ + 1, _, _, _, _, [] => none
  | fuel + 1, bias, k, weight, value, c :: rest =>
    match digitValue? c with
    | none => none
    | some d =>
      let value := value + d * weight
      let t := threshold k bias
      if limit ≤ value then none
      else if d < t then some (value, rest)
      else if limit ≤ weight * (base - t) then none
      else readDelta? fuel bias (k + base) (weight * (base - t)) value rest

/-- Reads the numbers one by one and puts each character in its place. -/
def decodeFrom? : (fuel n i bias : Nat) → (read text : List Char) → Option (List Char)
  | _, _, _, _, read, [] => some read
  | 0, _, _, _, _, _ => none
  | fuel + 1, n, i, bias, read, text =>
    match readDelta? (text.length + 1) bias base 1 0 text with
    | none => none
    | some (delta, rest) =>
      let points := read.length + 1
      let code := n + (i + delta) / points
      let place := (i + delta) % points
      let bias := adapt delta points (i = 0)
      if code.isValidChar then
        let read := read.take place ++ Char.ofNat code :: read.drop place
        decodeFrom? fuel code (place + 1) bias read rest
      else none

/-- The label that a written form stands for. A `-` in front divides nothing, so it has to be a
digit and is none. -/
def decode? (text : List Char) : Option (List Char) :=
  let tail := (text.reverse.takeWhile (· ≠ '-')).reverse
  let plain := text.take (text.length - tail.length - 1)
  let tail := if plain.isEmpty then text else tail
  decodeFrom? (tail.length + 1) firstCode 0 firstBias plain tail

end JinieServer.Url.Punycode
