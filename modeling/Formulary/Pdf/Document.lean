import Formulary.Image.Bitmap
import Formulary.Image.Quantization
import Formulary.Number.Layout
import Formulary.Page.Plan
import Formulary.Pdf.FileName
import Formulary.Pdf.TextString

/-!
Documents of one picture. The picture is embedded once; every page draws all of it at the full page
width, moved up by the offset of its slice, and the media box of the page shows that slice. The
coordinates of a page are points and grow upwards from its lower left corner.
-/

namespace Formulary.Pdf

open Number Image

/-- Where a page draws the picture, in points. -/
structure Placement (α : Type) where
  pageWidth : α
  pageHeight : α
  /-- The height at which the whole picture is drawn; its width is that of the page. -/
  imageHeight : α
  /-- The lower edge of the picture above the lower edge of the page. -/
  imageBottom : α
deriving DecidableEq, Repr

/-- Where the page of a slice draws the picture: the lower edge of the picture lies below the upper
edge of the page by the height of the picture less the offset of the slice. -/
def placement {α : Type} [Scalar α] (plan : Page.Plan α) (slice : Page.Slice α) : Placement α :=
  let (pageWidth, pageHeight) := plan.page.toPoints
  let imageHeight := plan.scaledHeight * Page.Size.pointsPerMillimetre
  let offset := slice.offset * Page.Size.pointsPerMillimetre
  ⟨pageWidth, pageHeight, imageHeight, pageHeight + offset - imageHeight⟩

def placements {α : Type} [Scalar α] (plan : Page.Plan α) : List (Placement α) :=
  plan.slices.map (placement plan)

/-- How the picture is stored. -/
inductive ImageData where
  /-- A JPEG picture, told by its luminance table. -/
  | jpeg (luminance : List Nat)
  | pixels (runs : List (Run Opaque))
deriving DecidableEq, Repr

structure EmbeddedImage where
  width : Nat
  height : Nat
  data : ImageData
deriving DecidableEq, Repr

/-- A document: one picture, and the pages that draw it. -/
structure Document (α : Type) where
  title : List UInt8
  producer : List UInt8
  image : EmbeddedImage
  pages : List (Placement α)
deriving DecidableEq, Repr

structure Settings where
  title : String
  producer : String
  quality : Nat
deriving DecidableEq, Repr

def Settings.standard : Settings := ⟨untitled, "minuta 0.1.0", 92⟩

def longestJpegSide : Nat := 65535

/-- Embeds a picture: as JPEG where its sides allow that, else pixel by pixel. -/
def embed (bitmap : Bitmap) (quality : Nat) : EmbeddedImage :=
  ⟨bitmap.width, bitmap.height,
    if bitmap.width ≤ longestJpegSide ∧ bitmap.height ≤ longestJpegSide then
      .jpeg (luminanceTable quality)
    else .pixels bitmap.flatten⟩

/-- The document of a picture, one page for each slice of the plan. There is none if the plan was
made for a picture of another size. -/
def draft {α : Type} [Scalar α] (bitmap : Bitmap) (plan : Page.Plan α) (settings : Settings) :
    Except (Page.PlanFault α) (Document α) :=
  if bitmap.width ≠ plan.sourceWidth ∨ bitmap.height ≠ plan.sourceHeight then
    .error (.dimensions bitmap.width bitmap.height plan.page)
  else
    .ok {
      title := textString settings.title
      producer := textString settings.producer
      image := embed bitmap settings.quality
      pages := placements plan }

def Placement.written (p : Placement Binary64) : Placement Binary32 :=
  ⟨p.pageWidth.convert, p.pageHeight.convert, p.imageHeight.convert, p.imageBottom.convert⟩

/-- The document with its numbers in 32 bits, as they are written. -/
def Document.written (d : Document Binary64) : Document Binary32 :=
  ⟨d.title, d.producer, d.image, d.pages.map Placement.written⟩

/-- Makes the document of a picture. -/
def document (bitmap : Bitmap) (plan : Page.Plan Binary64) (settings : Settings) :
    Except (Page.PlanFault Binary64) (Document Binary32) :=
  (draft bitmap plan settings).map Document.written

structure Box (α : Type) where
  left : α
  bottom : α
  right : α
  top : α
deriving DecidableEq, Repr

/-- The map of the plane that takes a point with coordinates `x` and `y` to
`a x + c y + e` and `b x + d y + f`. -/
structure Transform (α : Type) where
  a : α
  b : α
  c : α
  d : α
  e : α
  f : α
deriving DecidableEq, Repr

namespace Placement

variable {α : Type} [Scalar α]

/-- What the page shows: from its lower left corner, the origin, to its width and height. -/
def mediaBox (p : Placement α) : Box α :=
  ⟨Scalar.ofNat 0, Scalar.ofNat 0, p.pageWidth, p.pageHeight⟩

/-- The map under which the page draws the picture. The picture itself fills the square from the
origin to `(1, 1)`. -/
def transform (p : Placement α) : Transform α :=
  ⟨p.pageWidth, Scalar.ofNat 0, Scalar.ofNat 0, p.imageHeight, Scalar.ofNat 0, p.imageBottom⟩

end Placement

def Box.texts (b : Box Binary32) : List String :=
  [b.left, b.bottom, b.right, b.top].map Binary.toText

def Transform.texts (t : Transform Binary32) : List String :=
  [t.a, t.b, t.c, t.d, t.e, t.f].map Binary.toText

def Placement.content (p : Placement Binary32) : String :=
  "q\n" ++ " ".intercalate p.transform.texts ++ " cm\n/Im0 Do\nQ"

end Formulary.Pdf
