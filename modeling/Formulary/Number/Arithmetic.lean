import Formulary.Number.Binary

/-!
Arithmetic that page geometry can be computed in: binary floating point, where each operation is the
exact result rounded once, and the rational numbers, where nothing is rounded. A computation written
over `Scalar` is read in either.
-/

namespace Formulary.Number

/-- The operations of page geometry. -/
class Scalar (α : Type) extends Add α, Sub α, Mul α, Div α, Neg α where
  /-- The nearest value to `m` divided by ten to the power `places`. -/
  ofDecimal (m places : Nat) : α
  /-- Whether the first value is less; never, where one of them is no number. -/
  less : α → α → Bool
  isFinite : α → Bool
  /-- The lesser value; of a number and what is none, the number. -/
  least : α → α → α
  greatest : α → α → α
  ceil : α → α
  /-- The nearest whole number, a half going away from zero. -/
  roundAway : α → α
  /-- The whole part, held between zero and `bound`; zero for what is no number. -/
  toNatWithin (bound : Nat) : α → Nat

namespace Scalar

variable {α : Type} [Scalar α]

def ofNat (n : Nat) : α := ofDecimal n 0

def isPositive (x : α) : Bool := isFinite x && less (ofNat 0) x

/-- The value itself between the bounds, else the bound that it passes; what is no number stays. -/
def clamp (lo hi x : α) : α := if less x lo then lo else if less hi x then hi else x

end Scalar

namespace Binary

variable {f : Format}

/-- The exact sum, rounded. Two negative zeros make a negative zero; any other sum that is exactly
zero has no sign. -/
def add : Binary f → Binary f → Binary f
  | nan, _ => nan
  | _, nan => nan
  | infinity a, infinity b => if a = b then infinity a else nan
  | infinity a, _ => infinity a
  | _, infinity b => infinity b
  | negativeZero, negativeZero => negativeZero
  | negativeZero, number b => number b
  | number a, negativeZero => number a
  | number a, number b => round (a + b)

def neg : Binary f → Binary f
  | number v => if v = 0 then negativeZero else number (-v)
  | negativeZero => number 0
  | infinity negative => infinity (!negative)
  | nan => nan

def sub (a b : Binary f) : Binary f := a.add b.neg

/-- The exact product, rounded; its sign is that of unlike signs. -/
def mul (a b : Binary f) : Binary f :=
  let negative := a.isNegative != b.isNegative
  match a, b with
  | nan, _ => nan
  | _, nan => nan
  | infinity _, b => if b.value? = some 0 then nan else infinity negative
  | a, infinity _ => if a.value? = some 0 then nan else infinity negative
  | a, b =>
    let product := a.value?.getD 0 * b.value?.getD 0
    if product = 0 then signedZero negative else round product

/-- The exact quotient, rounded. A number divided by zero is infinite, zero by zero is no number. -/
def div (a b : Binary f) : Binary f :=
  let negative := a.isNegative != b.isNegative
  match a, b with
  | nan, _ => nan
  | _, nan => nan
  | infinity _, infinity _ => nan
  | infinity _, _ => infinity negative
  | _, infinity _ => signedZero negative
  | a, b =>
    let numerator := a.value?.getD 0
    let denominator := b.value?.getD 0
    if denominator = 0 then (if numerator = 0 then nan else infinity negative)
    else if numerator = 0 then signedZero negative
    else round (numerator / denominator)

/-- Whether the first value is less. The two zeros are equal. -/
def less : Binary f → Binary f → Bool
  | nan, _ => false
  | _, nan => false
  | infinity a, infinity b => a && !b
  | infinity a, _ => a
  | _, infinity b => !b
  | a, b => a.value?.getD 0 < b.value?.getD 0

def isFinite (x : Binary f) : Bool := x.value?.isSome

def least (a b : Binary f) : Binary f :=
  if a = nan then b else if b.less a then b else a

def greatest (a b : Binary f) : Binary f :=
  if a = nan then b else if a.less b then b else a

/-- Whether the first value is not above the second; never, where one of them is no number. -/
def isAtMost (a b : Binary f) : Bool := decide (a ≠ nan) && decide (b ≠ nan) && !b.less a

/-- A whole number near `v` in the format, with the sign of `v` where it is zero. -/
def whole (n : Int) (v : Rat) : Binary f := if n = 0 then signedZero (v < 0) else round n

def ceil : Binary f → Binary f
  | number v => whole v.ceil v
  | x => x

def roundAway : Binary f → Binary f
  | number v => whole (nearestAway v) v
  | x => x

def toNatWithin (bound : Nat) : Binary f → Nat
  | number v => min v.floor.toNat bound
  | infinity false => bound
  | _ => 0

instance : Scalar (Binary f) where
  add := add
  sub := sub
  mul := mul
  div := div
  neg := neg
  ofDecimal m places := round ((m : Rat) / (Nat.pow 10 places : Rat))
  less := less
  isFinite := isFinite
  least := least
  greatest := greatest
  ceil := ceil
  roundAway := roundAway
  toNatWithin := toNatWithin

/-- Holds a value between two bounds, if these are in order. -/
def clamp? (lo hi x : Binary f) : Option (Binary f) :=
  if lo.isAtMost hi then some (Scalar.clamp lo hi x) else none

end Binary

instance : Scalar Rat where
  ofDecimal m places := (m : Rat) / (Nat.pow 10 places : Rat)
  less a b := a < b
  isFinite _ := true
  least a b := if b < a then b else a
  greatest a b := if a < b then b else a
  ceil x := x.ceil
  roundAway x := nearestAway x
  toNatWithin bound x := min x.floor.toNat bound

end Formulary.Number
