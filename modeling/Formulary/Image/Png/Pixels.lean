import Formulary.Image.Bitmap
import Formulary.Image.Png.Basic

/-!
The pixels of PNG pictures. A picture is stored as one pass of rows, or as seven that lie between
one another; before each row stands the filter that its octets have gone through.
-/

namespace Formulary.Image.Png

/-! ## Passes -/

/-- The pixels of a picture that are stored together: those from a first column and row, so many
apart. -/
structure Pass where
  column : Nat
  row : Nat
  columnStep : Nat
  rowStep : Nat
deriving DecidableEq, Repr

def Pass.all : Pass := ⟨0, 0, 1, 1⟩

def Pass.interlaced : List Pass :=
  [⟨0, 0, 8, 8⟩, ⟨4, 0, 8, 8⟩, ⟨0, 4, 4, 8⟩, ⟨2, 0, 4, 4⟩, ⟨0, 2, 2, 4⟩, ⟨1, 0, 2, 2⟩, ⟨0, 1, 1, 2⟩]

/-- How many pixels of a row or column lie in steps from a first one. -/
def stepsIn (total first step : Nat) : Nat := (total - first + step - 1) / step

def Pass.width (p : Pass) (h : Header) : Nat := stepsIn h.width p.column p.columnStep

def Pass.height (p : Pass) (h : Header) : Nat := stepsIn h.height p.row p.rowStep

/-- The passes of a picture that hold any pixels. -/
def Header.passes (h : Header) : List Pass :=
  (if h.interlaced then Pass.interlaced else [.all]).filter fun p =>
    p.width h != 0 && p.height h != 0

/-- The octets of a row with so many pixels, without its filter. -/
def Header.rowSize (h : Header) (width : Nat) : Nat := (width * h.kind.samples * h.depth + 7) / 8

/-- The octets between those that stand for the same in two pixels. -/
def Header.pixelSize (h : Header) : Nat := max 1 (h.kind.samples * h.depth / 8)

/-! ## Filters -/

def lastFilter : Nat := 4

/-- Which of three octets is nearest to what the first two less the third come to. -/
def nearest (left up corner : UInt8) : UInt8 :=
  let estimate : Int := (left.toNat : Int) + up.toNat - corner.toNat
  let far (b : UInt8) : Nat := (estimate - b.toNat).natAbs
  if far left ≤ far up && far left ≤ far corner then left
  else if far up ≤ far corner then up
  else corner

/-- What a filter has taken away from an octet. -/
def filtered (filter : Nat) (left up corner : UInt8) : UInt8 :=
  match filter with
  | 1 => left
  | 2 => up
  | 3 => UInt8.ofNat ((left.toNat + up.toNat) / 2)
  | 4 => nearest left up corner
  | _ => 0

/-- The octets of a row before its filter, from those of the row above. -/
def unfilter (filter size : Nat) (above row : Array UInt8) : Array UInt8 :=
  row.foldl (fun done b =>
    let i := done.size
    let left := if size ≤ i then done.getD (i - size) 0 else 0
    let corner := if size ≤ i then above.getD (i - size) 0 else 0
    done.push (b + filtered filter left (above.getD i 0) corner)) #[]

/-! ## Rows -/

/-- Whether all rows of some passes are in what has been stored, from an index, unless one of them
has a filter that there is none of. -/
def rowsIn (h : Header) (hasPalette : Bool) (stored : Array UInt8) :
    Nat → Nat → List (Nat × Nat) → Except Fault Bool
  | _, _, [] => .ok true
  | 0, _, _ => .ok false
  | fuel + 1, i, (0, _) :: passes => rowsIn h hasPalette stored fuel i passes
  | fuel + 1, i, (rows + 1, size) :: passes =>
    if stored.size < i + size then .ok false
    else
      let filter := (stored.getD i 0).toNat
      if lastFilter < filter then .error (.filter filter)
      else if h.kind = .indexed && !hasPalette then .error .noPalette
      else rowsIn h hasPalette stored fuel (i + size) ((rows, size) :: passes)

def Header.allStored (h : Header) (hasPalette : Bool) (stored : Array UInt8) : Except Fault Bool :=
  let passes := h.passes.map fun p => (p.height h, h.rowSize (p.width h) + 1)
  rowsIn h hasPalette stored (stored.size + 8) 0 passes

/-! ## Colours -/

/-- What besides the pixels tells their colours. -/
structure Palette where
  colours? : Option (Array Opaque)
  /-- What is said of transparency: opacities of indexed colours, or the samples of a colour that is
  not seen. -/
  transparency? : Option (List UInt8)
deriving DecidableEq, Repr

def coloursOf : List UInt8 → List Opaque
  | red :: green :: blue :: rest => ⟨red, green, blue⟩ :: coloursOf rest
  | _ => []

def Header.sample (h : Header) (row : Array UInt8) (i : Nat) : Nat :=
  if h.depth = 16 then (row.getD (2 * i) 0).toNat * 256 + (row.getD (2 * i + 1) 0).toNat
  else if h.depth = 8 then (row.getD i 0).toNat
  else
    let bit := i * h.depth
    ((row.getD (bit / 8) 0).toNat >>> (8 - h.depth - bit % 8)) % (1 <<< h.depth)

def Header.octet (h : Header) (sample : Nat) : UInt8 :=
  UInt8.ofNat
    (if h.depth = 16 then (sample + 128) / 257 else sample * (255 / ((1 <<< h.depth) - 1)))

/-- The samples of the colour that is not seen. -/
def Header.unseen (h : Header) : List UInt8 → List Nat
  | high :: low :: rest =>
    (if h.depth = 16 then high.toNat * 256 + low.toNat else low.toNat) :: h.unseen rest
  | _ => []

/-- How opaque a pixel with some samples is. -/
def Header.opacity (h : Header) (p : Palette) (samples : List Nat) : UInt8 :=
  let unseen := p.transparency?.any fun octets => (h.unseen octets).take samples.length == samples
  if unseen then 0 else 255

def Header.colour (h : Header) (p : Palette) (row : Array UInt8) (i : Nat) : Colour :=
  let sample (k : Nat) : Nat := h.sample row (i * h.kind.samples + k)
  match h.kind with
  | .grey =>
    let v := h.octet (sample 0)
    ⟨v, v, v, h.opacity p [sample 0]⟩
  | .rgb =>
    ⟨h.octet (sample 0), h.octet (sample 1), h.octet (sample 2),
      h.opacity p [sample 0, sample 1, sample 2]⟩
  | .indexed =>
    match (p.colours?.getD #[])[sample 0]? with
    | some c => ⟨c.red, c.green, c.blue, (p.transparency?.getD []).getD (sample 0) 255⟩
    | none => ⟨0, 0, 0, 255⟩
  | .greyAlpha =>
    let v := h.octet (sample 0)
    ⟨v, v, v, h.octet (sample 1)⟩
  | .rgba => ⟨h.octet (sample 0), h.octet (sample 1), h.octet (sample 2), h.octet (sample 3)⟩

/-! ## Pictures -/

/-- The rows of a pass before their filters, from the last, and the index behind them. -/
def Header.passRows (h : Header) (stored : Array UInt8) (size : Nat) :
    Nat → Nat → Array UInt8 → List (Array UInt8) → List (Array UInt8) × Nat
  | 0, i, _, rows => (rows, i)
  | n + 1, i, above, rows =>
    let filter := (stored.getD i 0).toNat
    let row := unfilter filter h.pixelSize above (stored.extract (i + 1) (i + 1 + size))
    h.passRows stored size n (i + 1 + size) row (row :: rows)

/-- Runs with a pixel before them. -/
def addPixel (c : Colour) : List (Run Colour) → List (Run Colour)
  | r :: rest => if r.colour = c then ⟨r.count + 1, c⟩ :: rest else ⟨1, c⟩ :: r :: rest
  | [] => [⟨1, c⟩]

/-- Runs with the first `n` pixels of a row before them, from the last. -/
def Header.addRow (h : Header) (p : Palette) (row : Array UInt8) :
    Nat → List (Run Colour) → List (Run Colour)
  | 0, runs => runs
  | n + 1, runs => h.addRow p row n (addPixel (h.colour p row n) runs)

/-- A picture of no colour with the pixels of a row put to their places. -/
def Header.putRow (h : Header) (p : Palette) (pass : Pass) (row : Array UInt8) (y : Nat)
    (picture : Array Colour) : Array Colour :=
  (List.range (pass.width h)).foldl (fun picture i =>
    let line := pass.row + y * pass.rowStep
    picture.setIfInBounds (line * h.width + pass.column + i * pass.columnStep)
      (h.colour p row i)) picture

/-- The pixels of an interlaced picture, pass by pass. -/
def Header.putPasses (h : Header) (p : Palette) (stored : Array UInt8) :
    List Pass → Nat → Array Colour → Array Colour
  | [], _, picture => picture
  | pass :: passes, i, picture =>
    let (rows, i) := h.passRows stored (h.rowSize (pass.width h)) (pass.height h) i #[] []
    let picture := rows.reverse.zipIdx.foldl
      (fun picture (row, y) => h.putRow p pass row y picture) picture
    h.putPasses p stored passes i picture

def Header.pixels (h : Header) (p : Palette) (stored : Array UInt8) : List (Run Colour) :=
  if h.interlaced then
    let blank := Array.replicate (h.width * h.height) ⟨0, 0, 0, 0⟩
    (h.putPasses p stored h.passes 0 blank).foldr addPixel []
  else
    let (rows, _) := h.passRows stored (h.rowSize h.width) h.height 0 #[] []
    rows.foldl (fun runs row => h.addRow p row h.width runs) []

end Formulary.Image.Png
