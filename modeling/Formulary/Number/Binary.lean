/-!
Binary floating point, as exact rational numbers. A format fixes how many binary digits a number may
have, how fine its finest grid is and where it ends; `round` takes a rational number to the nearest
number of the format, ties to the even neighbour. Every operation in `Number.Arithmetic` is the
exact result, rounded once.
-/

namespace Formulary.Number

structure Format where
  precision : Nat
  /-- The exponent of the finest grid: every number is a multiple of two to this power. -/
  finest : Int
  /-- Two to this power is the least magnitude too large for the format. -/
  limit : Int
deriving DecidableEq, Repr

def binary64 : Format := ⟨53, -1074, 1024⟩

def binary32 : Format := ⟨24, -149, 128⟩

/-- A number of a format, or one of the values that are no number. -/
inductive Binary (f : Format) where
  /-- An exact value. Zero is the zero without a sign. -/
  | number (value : Rat)
  /-- The zero that results from rounding a negative number, or from a product of unlike signs. -/
  | negativeZero
  | infinity (negative : Bool)
  | nan
deriving DecidableEq, Repr

abbrev Binary64 := Binary binary64
abbrev Binary32 := Binary binary32

def pow2 : Int → Rat
  | .ofNat n => (Nat.pow 2 n : Rat)
  | .negSucc n => 1 / (Nat.pow 2 (n + 1) : Rat)

/-- Ten to an integer power. -/
def pow10 : Int → Rat
  | .ofNat n => (Nat.pow 10 n : Rat)
  | .negSucc n => 1 / (Nat.pow 10 (n + 1) : Rat)

/-- The greatest `k` for which two to the power `k` is at most the positive number `x`. The lengths
of numerator and denominator leave two candidates. -/
def floorLog2 (x : Rat) : Int :=
  let k : Int := (x.num.natAbs.log2 : Int) - (x.den.log2 : Int)
  if pow2 k ≤ x then k else k - 1

/-- The nearest integer, a half going to the even neighbour. -/
def nearestEven (x : Rat) : Int :=
  let below := x.floor
  let rest := x - below
  if rest < 1 / 2 then below
  else if 1 / 2 < rest then below + 1
  else if below % 2 = 0 then below
  else below + 1

/-- The nearest integer, a half going away from zero. -/
def nearestAway (x : Rat) : Int :=
  if 0 ≤ x then (x + 1 / 2).floor else -((1 / 2 - x).floor)

/-- The exponent of the grid on which the numbers of a format near the positive number `x` stand. -/
def gridExponent (f : Format) (x : Rat) : Int :=
  max (floorLog2 x - (f.precision - 1)) f.finest

/-- The nearest point of that grid. -/
def nearestOnGrid (f : Format) (x : Rat) : Rat :=
  let unit := pow2 (gridExponent f x)
  nearestEven (x / unit) * unit

namespace Binary

variable {f : Format}

/-- The nearest number of the format, ties to even. What rounds to the limit or beyond is infinite,
and what rounds to zero keeps its sign. -/
def round (x : Rat) : Binary f :=
  if x = 0 then .number 0
  else
    let magnitude := nearestOnGrid f x.abs
    if pow2 f.limit ≤ magnitude then .infinity (x < 0)
    else if magnitude = 0 then (if x < 0 then .negativeZero else .number 0)
    else .number (if x < 0 then -magnitude else magnitude)

def value? : Binary f → Option Rat
  | number v => some v
  | negativeZero => some 0
  | infinity _ => none
  | nan => none

def isNegative : Binary f → Bool
  | number v => v < 0
  | negativeZero => true
  | infinity negative => negative
  | nan => false

def signedZero (negative : Bool) : Binary f := if negative then .negativeZero else .number 0

/-- The number of another format nearest to a number. -/
def convert {g : Format} : Binary f → Binary g
  | number v => round v
  | negativeZero => .negativeZero
  | infinity negative => .infinity negative
  | nan => .nan

end Binary

end Formulary.Number
