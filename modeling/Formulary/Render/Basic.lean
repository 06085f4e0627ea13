import Formulary.Files.Fault
import Formulary.Image.Bitmap
import Formulary.Image.Kind
import Formulary.Number.Layout
import Formulary.Page.Plan

/-!
Renderers turn a filled text into a picture. Laying out HTML is their own affair: a renderer mounts
a text at the width of a page, and what it mounted is captured at a scale. Either may fail.
-/

namespace Formulary.Render

open Number

inductive CaptureFault where
  | missing (path : String)
  | undecodable (path : String) (fault : Image.DecodeFault)
  /-- Reported by the renderer, in its own words. -/
  | told (reason : String)
deriving DecidableEq, Repr

def CaptureFault.message : CaptureFault → String
  | missing path => "bitmap '" ++ path ++ "' does not exist"
  | undecodable path fault => "cannot decode '" ++ path ++ "': " ++ fault.message
  | told reason => reason

inductive RenderFault where
  | plan (fault : Page.PlanFault Binary64)
  | capture (fault : CaptureFault)
  | emptyBitmap
  | encode (reason : String)
  | assemble (reason : String)
  | file (fault : Files.FileFault)
deriving DecidableEq, Repr

def planMessage : Page.PlanFault Binary64 → String
  | .dimensions width height page =>
    "INVALID_DIMENSIONS: cannot paginate a " ++ toString width ++ "x" ++ toString height ++
      " px bitmap onto a " ++ page.width.toText ++ "x" ++ page.height.toText ++ " mm page"
  | .tooManyPages pages =>
    "TOO_MANY_PAGES: the document would need " ++ toString pages ++ " pages (limit " ++
      toString Page.mostPages ++ ")"

def RenderFault.message : RenderFault → String
  | plan fault => planMessage fault
  | capture fault => "CAPTURE_FAILED: " ++ fault.message
  | emptyBitmap => "EMPTY_BITMAP: the captured bitmap has no pixels"
  | encode reason => "ENCODE_FAILED: " ++ reason
  | assemble reason => "PDF_FAILED: " ++ reason
  | file fault => "RENDER_IO_ERROR: " ++ fault.message

structure Layout where
  html : String
  /-- The width to lay it out at, in millimetres. -/
  width : Binary64
deriving DecidableEq, Repr

/-- A text that is laid out, waiting to be captured at a scale. -/
abbrev Surface := Binary32 → Except RenderFault Image.Bitmap

abbrev Renderer := Layout → Except RenderFault Surface

end Formulary.Render
