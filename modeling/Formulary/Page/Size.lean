import Formulary.Number.Arithmetic

/-!
Page sizes in millimetres. The arithmetic is a parameter here and in the page plan: the program
computes in binary floating point, and the geometry is also read in exact numbers.
-/

namespace Formulary.Page

open Number

/-- The width and height of a page, in millimetres. -/
structure Size (α : Type) where
  width : α
  height : α
deriving DecidableEq, Repr

namespace Size

variable {α : Type} [Scalar α]

def a4 : Size α := ⟨Scalar.ofNat 210, Scalar.ofNat 297⟩

def letter : Size α := ⟨Scalar.ofDecimal 2159 1, Scalar.ofDecimal 2794 1⟩

def isValid (s : Size α) : Bool := Scalar.isPositive s.width && Scalar.isPositive s.height

/-- Points to a millimetre: 72 to an inch of 25.4 millimetres. -/
def pointsPerMillimetre : α := Scalar.ofNat 72 / Scalar.ofDecimal 254 1

def toPoints (s : Size α) : α × α := (s.width * pointsPerMillimetre, s.height * pointsPerMillimetre)

end Size

end Formulary.Page
