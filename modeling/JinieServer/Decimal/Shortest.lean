import JinieServer.Decimal.Binary

/-!
# The shortest decimal of a binary float

The text of a float has the fewest decimal digits that round back to it, and of those the nearest.
-/

namespace JinieServer.Decimal

/-- Whether a value rounds to the float. -/
def Binary.holds (b : Binary) (v : Ratio) : Bool :=
  -- In quarters of a unit: below a power of two the gap is half as wide.
  let gap := if b.m = leastFull && b.q > leastExponent then 1 else 2
  let low := scaled (4 * b.m - gap) 2 (b.q - 2)
  let high := scaled (4 * b.m + 2) 2 (b.q - 2)
  if b.m % 2 = 0 then low.le v && v.le high else low.lt v && v.lt high

/-- The digits on the grid `10 ^ p` next to the float that round to it; the nearer of two. -/
def Binary.onGrid? (b : Binary) (p : Int) : Option Nat :=
  let steps := (scaled b.m 2 b.q).div (scaled 1 10 p)
  let below := steps.num / steps.den
  let above := below + 1
  let closerAbove := steps.den < 2 * (steps.num % steps.den)
  match b.holds (scaled below 10 p) && below != 0, b.holds (scaled above 10 p) with
  | true, true => some (if closerAbove then above else below)
  | true, false => some below
  | false, true => some above
  | false, false => none

/-- The number of decimal digits before the point: `10 ^ (k - 1) ≤ a < 10 ^ k`. -/
def Ratio.pointPlace (a : Ratio) : Int :=
  let guess : Int := ((Nat.toDigits 10 a.num).length : Int) - (Nat.toDigits 10 a.den).length
  if (scaled 1 10 guess).le a then guess + 1 else guess

/-- The shortest digits and their exponent; seventeen digits always suffice. -/
def Binary.shortest (b : Binary) : Nat × Int :=
  let place := (scaled b.m 2 b.q).pointPlace
  let grids := (List.range 17).map fun (n : Nat) => place - 1 - (n : Int)
  (grids.findSome? fun p => (b.onGrid? p).map fun digits => (digits, p)).getD (b.m, 0)

/-- Digits without their final zeros. -/
def trimZeros (digits : List Char) : List Char :=
  match (digits.reverse.dropWhile (· = '0')).reverse with
  | [] => ['0']
  | kept => kept

/-- The digits with the point behind the first `place` of them. -/
def positional (digits : List Char) (place : Int) : List Char :=
  let count : Int := digits.length
  if place ≤ 0 then '0' :: '.' :: List.replicate (-place).toNat '0' ++ digits
  else if count ≤ place then digits ++ List.replicate (place - count).toNat '0'
  else digits.take place.toNat ++ '.' :: digits.drop place.toNat

/-- Positional between a hundred-thousandth and ten quadrillion, else with an exponent. -/
def layout (digits : List Char) (place : Int) : List Char :=
  let count : Int := digits.length
  if -5 < place ∧ place ≤ 16 then
    positional digits place ++ if count ≤ place then ['.', '0'] else []
  else
    let e := place - 1
    let mantissa := match digits with
      | [] => []
      | [d] => [d]
      | d :: more => d :: '.' :: more
    mantissa ++ 'e' :: (if 0 ≤ e then '+' else '-') :: (toString e.natAbs).toList

/-- The shortest digits of a float that is not zero, and how many stand before the point. -/
def Binary.digits (b : Binary) : List Char × Int :=
  let (digits, p) := b.shortest
  let all := Nat.toDigits 10 digits
  (trimZeros all, p + all.length)

/-- The text of a float with its sign. -/
def floatText (negative : Bool) (b : Binary) : String :=
  let sign := if negative then ['-'] else []
  if b.m = 0 then String.ofList (sign ++ ['0', '.', '0'])
  else
    let (digits, place) := b.digits
    String.ofList (sign ++ layout digits place)

end JinieServer.Decimal
