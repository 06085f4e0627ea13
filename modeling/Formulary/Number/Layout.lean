import Formulary.Number.Arithmetic
import Formulary.Number.Shortest
import Formulary.Text.Numeral

/-!
How numbers are written. A layout says where digits are written positionally and what an exponent
looks like; there is one for plain text and one for JSON. `fixedOne` writes one decimal place.
-/

namespace Formulary.Number

structure Layout where
  /-- The exponents of the first digit that are written positionally; all, where there are none. -/
  plain : Option (Int × Int)
  /-- A whole number is written with a zero behind the point. -/
  pointZero : Bool
  /-- A positive exponent carries a sign. -/
  exponentPlus : Bool
  tie : Tie

/-- Plain text: no exponent and no point behind a whole number. -/
def plainText : Layout := ⟨none, false, false, .up⟩

/-- JSON: an exponent from ten to the sixteenth on and below a hundred-thousandth, and always a
fraction before that. -/
def jsonText : Layout := ⟨some (-5, 15), true, true, .toEven⟩

def zeros (n : Nat) : List Char := List.replicate n '0'

/-- Digits with the point put `places` from their end. -/
def positional (layout : Layout) (d : Decimal) : List Char :=
  let digits := Text.numeral d.digits
  if 0 ≤ d.exponent then
    digits ++ zeros d.exponent.toNat ++ (if layout.pointZero then ['.', '0'] else [])
  else
    let places := d.exponent.natAbs
    if places < digits.length then
      digits.take (digits.length - places) ++ '.' :: digits.drop (digits.length - places)
    else '0' :: '.' :: zeros (places - digits.length) ++ digits

/-- One digit, the others behind a point, and the exponent of the first. -/
def scientific (layout : Layout) (d : Decimal) (first : Int) : List Char :=
  let mantissa := match Text.numeral d.digits with
    | [] => []
    | [c] => [c]
    | c :: rest => c :: '.' :: rest
  let sign := if first < 0 then ['-'] else if layout.exponentPlus then ['+'] else []
  mantissa ++ 'e' :: sign ++ Text.numeral first.natAbs

def layOut (layout : Layout) (d : Decimal) : List Char :=
  let first : Int := d.exponent + ((Text.numeral d.digits).length : Int) - 1
  match layout.plain with
  | none => positional layout d
  | some (lo, hi) =>
    if d.digits = 0 ∨ (lo ≤ first ∧ first ≤ hi) then positional layout d
    else scientific layout d first

namespace Binary

variable {f : Format}

/-- A number in a layout, with the fewest digits that identify it. -/
def write (layout : Layout) (x : Binary f) : String :=
  match x with
  | nan => "NaN"
  | infinity negative => if negative then "-inf" else "inf"
  | negativeZero => String.ofList ('-' :: layOut layout ⟨0, 0⟩)
  | number v =>
    if v = 0 then String.ofList (layOut layout ⟨0, 0⟩)
    else
      let sign := if v < 0 then ['-'] else []
      String.ofList (sign ++ layOut layout (shortest f layout.tie v.abs))

def toText (x : Binary f) : String := x.write plainText

def toJsonText (x : Binary f) : String := x.write jsonText

/-- A number with one decimal place: the exact value rounded, a half to the even neighbour. -/
def fixedOne (x : Binary f) : String :=
  match x.value? with
  | none => x.toText
  | some v =>
    let tenths := (nearestEven (v.abs * 10)).toNat
    let sign := if x.isNegative then ['-'] else []
    String.ofList (sign ++ Text.numeral (tenths / 10) ++ '.' :: Text.numeral (tenths % 10))

end Binary

end Formulary.Number
