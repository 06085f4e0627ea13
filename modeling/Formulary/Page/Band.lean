import Formulary.Page.Plan

/-!
The rows of pixels behind each slice of a page plan. The edges are rounded from offsets that run
from the top of the picture, and the slice in the last place reaches its bottom.

The computation is also given with the checks that its operations make on a machine: a value is held
between bounds that are in order, and rows are added in words.
-/

namespace Formulary.Page

open Number

/-- Rows of pixels: the first, and how many. -/
structure Band where
  top : Nat
  height : Nat
deriving DecidableEq, Repr

def Band.bottom (b : Band) : Nat := b.top + b.height

namespace Plan

variable {α : Type} [Scalar α]

/-- The row of pixels nearest to a height below the top of the scaled picture, held inside the
picture. -/
def edge (p : Plan α) (distance : α) : Nat :=
  let rows : α := Scalar.ofNat p.sourceHeight
  let position := Scalar.roundAway (distance * (rows / p.scaledHeight))
  Scalar.toNatWithin (UInt32.size - 1) (Scalar.clamp (Scalar.ofNat 0) rows position)

/-- The rows behind one slice. -/
def band (p : Plan α) (s : Slice α) : Band :=
  let top := p.edge s.offset
  let bottom :=
    if s.index = p.slices.length - 1 then p.sourceHeight else p.edge (s.offset + s.height)
  ⟨top, bottom - top⟩

def bands (p : Plan α) : List Band := p.slices.map p.band

end Plan

/-! ## With checks -/

/-- One past the last row, if it is a word. -/
def Band.bottom? (b : Band) : Option Nat := if b.bottom < UInt32.size then some b.bottom else none

namespace Plan

def edge? (p : Plan Binary64) (distance : Binary64) : Option Nat :=
  let rows : Binary64 := Scalar.ofNat p.sourceHeight
  let position := Scalar.roundAway (distance * (rows / p.scaledHeight))
  (Binary.clamp? (Scalar.ofNat 0) rows position).map (Scalar.toNatWithin (UInt32.size - 1))

def band? (p : Plan Binary64) (s : Slice Binary64) : Option Band := do
  let top ← p.edge? s.offset
  let bottom ←
    if s.index = p.slices.length - 1 then some p.sourceHeight else p.edge? (s.offset + s.height)
  some ⟨top, bottom - top⟩

def bands? (p : Plan Binary64) : Option (List Band) := p.slices.mapM p.band?

end Plan

end Formulary.Page
