import Formulary.Number.Binary
import Formulary.Text.Reader

/-!
Reading decimals into binary formats: to the nearest number, ties to even.
-/

namespace Formulary.Number

/-- Ten to this power is too large for every format here, and one over it too small. -/
def widestExponent : Int := 400

namespace Binary

variable {f : Format}

/-- The number nearest to a significand times ten to a power. Powers far outside the format are not
worked out: they are known to be infinite or zero. -/
def ofDecimal (negative : Bool) (significand : Nat) (exponent : Int) : Binary f :=
  let first : Int := exponent + ((Text.numeral significand).length : Int)
  if significand = 0 ∨ first < -widestExponent then signedZero negative
  else if widestExponent < first then infinity negative
  else
    let magnitude : Rat := significand * pow10 exponent
    round (if negative then -magnitude else magnitude)

end Binary

open Text Text.Reader

def exponentPart : Reader Int := do
  let _ ← oneOf ['e', 'E']
  let sign ← maybe (oneOf ['+', '-'])
  let ds ← digits
  pure (if sign = some '-' then -(digitsValue ds : Int) else digitsValue ds)

/-- The magnitude of a decimal: digits, perhaps a point and digits, perhaps an exponent. -/
def decimalPart : Reader (Nat × Int) := do
  let before ← digits
  let after ← maybe (do
    let _ ← oneOf ['.']
    digits)
  let exponent ← maybe exponentPart
  let fraction := after.getD []
  pure (digitsValue (before ++ fraction), exponent.getD 0 - (fraction.length : Int))

/-- Reads a number: a decimal, `inf` or `NaN`, with or without a sign. -/
def Binary.parse? {f : Format} (text : String) : Option (Binary f) :=
  let (negative, s) := match text.toList with
    | '-' :: rest => (true, rest)
    | '+' :: rest => (false, rest)
    | s => (false, s)
  if s = "inf".toList then some (.infinity negative)
  else if s = "NaN".toList then some .nan
  else (Reader.whole decimalPart s).map fun d => .ofDecimal negative d.1 d.2

end Formulary.Number
