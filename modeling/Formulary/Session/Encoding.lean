import Formulary.Session.Basic

/-!
Documents in octets. To write a document out is up to an encoder, which is given the picture, the
quality that the picture is to have, and the document; it may fail.
-/

namespace Formulary.Session

open Number

inductive EncodingFault where
  | picture (reason : String)
  | document (reason : String)
  | file (fault : Files.FileFault)

def EncodingFault.asRender : EncodingFault → Render.RenderFault
  | picture reason => .encode reason
  | document reason => .assemble reason
  | file fault => .file fault

/-- Writes the document of a picture, which is to have some quality. -/
abbrev Encoder :=
  Image.Bitmap → Nat → Pdf.Document Binary32 → Except EncodingFault (List UInt8)

/-- The picture that a renderer captures. -/
def capture (renderer : Render.Renderer) (request : CaptureRequest) :
    Except Render.RenderFault Image.Bitmap := do
  let surface ← renderer request.layout
  surface request.scale

/-- An export whose document is written by someone who may fail, and what was written. -/
def exportThrough (s : Session) (encoder : Encoder) (renderer : Render.Renderer) :
    Except Fault (Exported × List UInt8) := do
  let request ← s.captureRequest
  let bitmap ← (capture renderer request).mapError .render
  let exported ← (assemble s.config request bitmap).mapError fun fault => .render (.plan fault)
  let octets ← (encoder bitmap s.config.page.quality exported.document).mapError fun fault =>
    .render fault.asRender
  pure (exported, octets)

end Formulary.Session
