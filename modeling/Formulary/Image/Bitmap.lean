/-!
Captured pictures. Pixels are held as runs of one colour in row order, which is how large pictures
of text stay small.
-/

namespace Formulary.Image

/-- A colour with an opacity; 255 is opaque. -/
structure Colour where
  red : UInt8
  green : UInt8
  blue : UInt8
  alpha : UInt8
deriving DecidableEq, Repr

structure Opaque where
  red : UInt8
  green : UInt8
  blue : UInt8
deriving DecidableEq, Repr

/-- A number of neighbouring pixels of one colour. -/
structure Run (γ : Type) where
  count : Nat
  colour : γ
deriving DecidableEq, Repr

/-- The first `total` pixels that the runs describe; the last colour goes on where they end
early. -/
def fitRuns {γ : Type} : Nat → List (Run γ) → List (Run γ)
  | _, [] => []
  | total, [r] => [⟨total, r.colour⟩]
  | total, r :: rest =>
    ⟨min r.count total, r.colour⟩ :: fitRuns (total - r.count) rest

/-- Neighbouring runs of one colour made one, and empty runs left out. -/
def mergeRuns {γ : Type} [DecidableEq γ] : List (Run γ) → List (Run γ)
  | [] => []
  | r :: rest =>
    if r.count = 0 then mergeRuns rest
    else
      match mergeRuns rest with
      | [] => [r]
      | next :: others =>
        if r.colour = next.colour then ⟨r.count + next.count, r.colour⟩ :: others
        else r :: next :: others

structure Bitmap where
  width : Nat
  height : Nat
  pixels : List (Run Colour)
  width_pos : 0 < width
  height_pos : 0 < height
deriving DecidableEq, Repr

/-- A picture from its size and the runs of its pixels; there is none without pixels. -/
def Bitmap.ofRuns? (width height : Nat) (runs : List (Run Colour)) : Option Bitmap :=
  if h : 0 < width ∧ 0 < height then some ⟨width, height, fitRuns (width * height) runs, h.1, h.2⟩
  else none

/-- A part of a colour laid over white. -/
def blend (part alpha : UInt8) : UInt8 :=
  UInt8.ofNat ((part.toNat * alpha.toNat + 255 * (255 - alpha.toNat)) / 255)

def Colour.flatten (c : Colour) : Opaque :=
  ⟨blend c.red c.alpha, blend c.green c.alpha, blend c.blue c.alpha⟩

/-- The pixels of a picture laid over white, as maximal runs. -/
def Bitmap.flatten (b : Bitmap) : List (Run Opaque) :=
  mergeRuns (b.pixels.map fun r => ⟨r.count, r.colour.flatten⟩)

end Formulary.Image
