import Formulary.Image.Jpeg.Reader
import Formulary.Image.Kind
import Formulary.Image.Png.Reader

/-!
Decoding the pictures in files. The kind of a picture is that which its first octets tell, or else
the extension of its name.
-/

namespace Formulary.Image

/-- The picture in a file; `extension` is that of its name. -/
def decode (extension : Option String) (bytes : List UInt8) : Except DecodeFault Bitmap :=
  match Kind.ofBytes? bytes <|> extension.bind Kind.ofExtension? with
  | some .png => (Png.read bytes).mapError .png
  | some .jpeg => (Jpeg.read bytes).mapError .jpeg
  | some kind => .error (.unsupported kind)
  | none => .error (extension.elim .unknownKind .unknownExtension)

end Formulary.Image
