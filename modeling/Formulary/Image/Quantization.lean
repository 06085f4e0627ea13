/-!
The luminance quantization of a JPEG picture. The standard gives one table; a quality between 1 and
100 scales it.
-/

namespace Formulary.Image

/-- The standard's luminance table in zig-zag order. -/
def luminanceBase : List Nat :=
  [16, 11, 12, 14, 12, 10, 16, 14, 13, 14, 18, 17, 16, 19, 24, 40,
   26, 24, 22, 22, 24, 49, 35, 37, 29, 40, 58, 51, 61, 60, 57, 51,
   56, 55, 64, 72, 92, 78, 64, 68, 87, 69, 55, 56, 80, 109, 81, 87,
   95, 98, 103, 104, 103, 62, 77, 113, 121, 112, 100, 120, 92, 101, 103, 99]

def held (lo hi n : Nat) : Nat := max lo (min n hi)

/-- The scale of a quality, in hundredths. -/
def qualityScale (quality : Nat) : Nat :=
  let q := held 1 100 quality
  if q < 50 then 5000 / q else 200 - 2 * q

/-- The luminance table of a picture of the given quality, in zig-zag order. -/
def luminanceTable (quality : Nat) : List Nat :=
  luminanceBase.map fun base => held 1 255 ((base * qualityScale quality + 50) / 100)

end Formulary.Image
