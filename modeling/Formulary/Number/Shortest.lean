import Formulary.Number.Binary

/-!
The fewest decimal digits that identify a number of a binary format. The decimals that read back as
the number form an interval around it, from halfway to one neighbour to halfway to the other; the
ends belong to it when the significand is even. The search takes ever finer decimal grids and stops
at the first with a point in that interval.
-/

namespace Formulary.Number

/-- `digits` times ten to the power `exponent`. -/
structure Decimal where
  digits : Nat
  exponent : Int
deriving DecidableEq, Repr

namespace Decimal

/-- The exact value. -/
def value (d : Decimal) : Rat := d.digits * pow10 d.exponent

end Decimal

/-- Which of two equally close decimals is taken. -/
inductive Tie where
  | up
  | toEven
deriving DecidableEq, Repr

/-- The decimals that read back as one number. -/
structure Span where
  low : Rat
  high : Rat
  /-- Whether the ends read back too. -/
  closed : Bool
deriving DecidableEq, Repr

namespace Span

/-- The span of the positive number `x` of the format. Just above a power of two the neighbour below
is half as far away as the one above, unless the grid is the finest. -/
def around (f : Format) (x : Rat) : Span :=
  let q := gridExponent f x
  let unit := pow2 q
  let significand := (x / unit).floor
  let below := if significand = Nat.pow 2 (f.precision - 1) ∧ f.finest < q then unit / 4 else unit / 2
  ⟨x - below, x + unit / 2, significand % 2 = 0⟩

def contains (s : Span) (v : Rat) : Bool :=
  (s.low < v || (s.closed && s.low == v)) && (v < s.high || (s.closed && v == s.high))

end Span

/-- The least `k` for which the positive number `x` is below ten to the power `k`: a guess from the
binary logarithm, which is at most one off, put right. -/
def decimalScale (x : Rat) : Int :=
  let guess := (floorLog2 x * 30103) / 100000 + 1
  if pow10 guess ≤ x then guess + 1 else if x < pow10 (guess - 1) then guess - 1 else guess

/-- The point of the decimal grid `exponent` that reads back and is closest to `x`. -/
def onGrid (tie : Tie) (span : Span) (x : Rat) (exponent : Int) : Option Decimal :=
  let below := (x / pow10 exponent).floor.toNat
  let lower : Decimal := ⟨below, exponent⟩
  let upper : Decimal := ⟨below + 1, exponent⟩
  match span.contains lower.value, span.contains upper.value with
  | false, false => none
  | true, false => some lower
  | false, true => some upper
  | true, true =>
    let twice := 2 * x
    let sum := lower.value + upper.value
    if twice < sum then some lower
    else if sum < twice then some upper
    else match tie with
      | .up => some upper
      | .toEven => some (if below % 2 = 0 then lower else upper)

/-- Moves zeros at the end of the digits into the exponent, at most `fuel` of them. -/
def dropZeros : Nat → Decimal → Decimal
  | 0, d => d
  | fuel + 1, d =>
    if d.digits ≠ 0 ∧ d.digits % 10 = 0 then dropZeros fuel ⟨d.digits / 10, d.exponent + 1⟩ else d

/-- The most digits that a number of 64 bits can need. -/
def mostDigits : Nat := 17

/-- The shortest decimal that reads back as the positive number `x` of the format, and of those the
closest to it. -/
def shortest (f : Format) (tie : Tie) (x : Rat) : Decimal :=
  let span := Span.around f x
  let scale := decimalScale x
  let found := (List.range mostDigits).findSome? fun (n : Nat) => onGrid tie span x (scale - (n + 1))
  dropZeros mostDigits (found.getD ⟨(x * pow10 (mostDigits - scale)).floor.toNat, scale - mostDigits⟩)

end Formulary.Number
