/-!
# Binary floats

A binary float has 53 digits. Every operation is done on fractions exactly and then rounded to the
nearest float, a tie going to the even one.
-/

namespace JinieServer.Decimal

/-- A fraction that is not negative. -/
structure Ratio where
  num : Nat
  den : Nat

def Ratio.le (a b : Ratio) : Bool := a.num * b.den ≤ b.num * a.den

def Ratio.lt (a b : Ratio) : Bool := a.num * b.den < b.num * a.den

/-- `n · base ^ e`. -/
def scaled (n base : Nat) (e : Int) : Ratio :=
  if 0 ≤ e then ⟨n * Nat.pow base e.toNat, 1⟩ else ⟨n, Nat.pow base (-e).toNat⟩

def Ratio.div (a b : Ratio) : Ratio := ⟨a.num * b.den, a.den * b.num⟩

/-- The nearest natural number, a tie going to the even one. -/
def Ratio.round (a : Ratio) : Nat :=
  let whole := a.num / a.den
  let twice := 2 * (a.num % a.den)
  if a.den < twice || (twice = a.den && whole % 2 = 1) then whole + 1 else whole

/-- The float `m · 2 ^ q`, which is not negative. -/
structure Binary where
  m : Nat
  q : Int
deriving DecidableEq, Repr, Inhabited

/-- The power of two at or below a positive fraction. -/
def Ratio.log2 (a : Ratio) : Int :=
  let guess : Int := (Nat.log2 a.num : Int) - (Nat.log2 a.den : Int)
  if (scaled 1 2 guess).le a then guess else guess - 1

/-- The least significand of a float with all its bits. -/
def leastFull : Nat := 0x10000000000000

/-- The least exponent of a float. -/
def leastExponent : Int := -1074

/-- The greatest exponent of a float; a value beyond it is infinite. -/
def greatestExponent : Int := 971

def Binary.zero : Binary := ⟨0, 0⟩

def Ratio.toBinary (a : Ratio) : Binary :=
  if a.num = 0 then .zero
  else
    let q := max (a.log2 - 52) leastExponent
    let m := (a.div (scaled 1 2 q)).round
    if m = 0 then .zero else if m = 2 * leastFull then ⟨leastFull, q + 1⟩ else ⟨m, q⟩

namespace Binary

def isFinite (b : Binary) : Bool := b.q ≤ greatestExponent

def ratio (b : Binary) : Ratio := scaled b.m 2 b.q

def ofNat (n : Nat) : Binary := (Ratio.mk n 1).toBinary

def powerOfTen (n : Nat) : Binary := (scaled 1 10 n).toBinary

def mul (a b : Binary) : Binary := (scaled (a.m * b.m) 2 (a.q + b.q)).toBinary

def div (a b : Binary) : Binary := (a.ratio.div b.ratio).toBinary

end Binary

end JinieServer.Decimal
