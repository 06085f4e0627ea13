import Formulary.Json.Basic
import Formulary.Text.Numeral

/-!
Reading JSON numbers. A whole number that fits 64 bits is itself. Any other number has as many of
its digits as fit 64 bits, without a sign, for its significand; digits after those only move the
point. The significand is then scaled by its power of ten, with one rounded operation for each
factor of at most ten to the power 308. A number too large for binary floating point is refused.
-/

namespace Formulary.Json

open Number

def largestSignificand : Nat := UInt64.size - 1

/-- The largest power of ten that one operation scales by. -/
def largestPower : Nat := 308

/-- Digits read into a significand: those that fit, and how many were left over. The first digit
that does not fit ends the significand. -/
def takeSignificand (significand : Nat) : List Char → Nat × Nat
  | [] => (significand, 0)
  | c :: rest =>
    let wider := significand * 10 + (Text.digitValue? c).getD 0
    if largestSignificand < wider then (significand, rest.length + 1)
    else takeSignificand wider rest

def powerOfTen (n : Nat) : Binary64 := Scalar.ofNat (Nat.pow 10 n)

/-- Divides by ten to the power `exponent`, `largestPower` at a time. -/
def scaleDown : Nat → Binary64 → Nat → Binary64
  | 0, x, _ => x
  | fuel + 1, x, exponent =>
    if exponent ≤ largestPower then x / powerOfTen exponent
    else if x.value? = some 0 then x
    else scaleDown fuel (x / powerOfTen largestPower) (exponent - largestPower)

/-- A significand times ten to a power; nothing where the result is too large. Three divisions take
every significand to zero. -/
def scale (significand : Nat) (exponent : Int) : Option Binary64 :=
  let x : Binary64 := Scalar.ofNat significand
  if 0 ≤ exponent then
    if exponent ≤ largestPower then
      let y := x * powerOfTen exponent.toNat
      if y.isFinite then some y else none
    else if significand = 0 then some x
    else none
  else some (scaleDown 4 x exponent.natAbs)

def largestExponent : Nat := 2147483647

/-- A sum held between the exponents that a number may have. -/
def heldExponent (n : Int) : Int := max (-(largestExponent : Int) - 1) (min n largestExponent)

/-- What follows a significand: a power of ten that is taken, one that is too large, or neither. -/
inductive Exponent where
  | absent
  | power (n : Int)
  | excessive (negative : Bool)

def readExponent (s : List Char) : Option (Exponent × List Char) :=
  match s with
  | c :: rest =>
    if c = 'e' ∨ c = 'E' then
      let (negative, rest) := match rest with
        | '+' :: rest => (false, rest)
        | '-' :: rest => (true, rest)
        | _ => (false, rest)
      let (digits, rest) := Text.spanDigits rest
      if digits.isEmpty then none
      else
        let n := Text.digitsValue digits
        if largestExponent < n then some (.excessive negative, rest)
        else some (.power (if negative then -(n : Int) else n), rest)
    else some (.absent, s)
  | [] => some (.absent, s)

def readNumber (s : List Char) : Option (Numeric × List Char) := do
  let (negative, s) := match s with
    | '-' :: rest => (true, rest)
    | _ => (false, s)
  let (digits, s) := Text.spanDigits s
  if digits.isEmpty ∨ (digits.head? = some '0' ∧ 1 < digits.length) then none
  let signed (x : Binary64) : Numeric := .real (if negative then -x else x)
  let (significand, dropped) := takeSignificand 0 digits
  let (pointed, fraction, s) := match s with
    | '.' :: rest =>
      let (fraction, rest) := Text.spanDigits rest
      (true, fraction, rest)
    | _ => (false, [], s)
  if pointed ∧ fraction.isEmpty then none
  let (significand, droppedFraction) := takeSignificand significand fraction
  let places : Int := (dropped : Int) - ((fraction.length - droppedFraction : Nat) : Int)
  let (exponent, rest) ← readExponent s
  let scaled (n : Int) : Option (Numeric × List Char) := do
    let x ← scale significand (heldExponent (places + n))
    some (signed x, rest)
  match exponent with
  | .absent =>
    if pointed ∨ dropped ≠ 0 then scaled 0
    else
      let n : Int := if negative then -(significand : Int) else significand
      if negative ∧ (significand = 0 ∨ n < Int64.minValue.toInt) then
        some (signed (Scalar.ofNat significand), rest)
      else some (.whole n, rest)
  | .excessive negativePower =>
    if significand ≠ 0 ∧ negativePower = false then none
    else some (signed (Scalar.ofNat 0), rest)
  | .power n => scaled n

end Formulary.Json
