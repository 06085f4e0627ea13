import Formulary.Image.Jpeg.Basic
import Formulary.Image.Png.Basic

/-!
Kinds of pictures: how they are told from the first octets of a file, or else from the extension of
its name, and why a file cannot be decoded. PNG and JPEG are the kinds that are decoded.
-/

namespace Formulary.Image

inductive Kind where
  | png
  | jpeg
  | gif
  | webP
  | pnm
  | tiff
  | tga
  | dds
  | bmp
  | ico
  | hdr
  | openExr
  | farbfeld
  | avif
  | qoi
deriving DecidableEq, Repr

def Kind.name : Kind → String
  | png => "Png"
  | jpeg => "Jpeg"
  | gif => "Gif"
  | webP => "WebP"
  | pnm => "Pnm"
  | tiff => "Tiff"
  | tga => "Tga"
  | dds => "Dds"
  | bmp => "Bmp"
  | ico => "Ico"
  | hdr => "Hdr"
  | openExr => "OpenExr"
  | farbfeld => "Farbfeld"
  | avif => "Avif"
  | qoi => "Qoi"

/-! ## Signatures -/

/-- An octet of a signature; nothing stands for any octet. -/
abbrev Mark := Option UInt8

def marks (octets : List UInt8) : List Mark := octets.map some

def textMarks (s : String) : List Mark := marks s.toUTF8.toList

def anyFour : List Mark := List.replicate 4 none

/-- How pictures of each kind start. There is no signature for the kind Tga. -/
def signatures : List (List Mark × Kind) :=
  [(marks Png.signature, .png),
   (marks [0xFF, 0xD8, 0xFF], .jpeg),
   (textMarks "GIF89a", .gif),
   (textMarks "GIF87a", .gif),
   (textMarks "RIFF" ++ anyFour ++ textMarks "WEBP", .webP),
   (textMarks "MM\x00*", .tiff),
   (textMarks "II*\x00", .tiff),
   (textMarks "DDS ", .dds),
   (textMarks "BM", .bmp),
   (marks [0, 0, 1, 0], .ico),
   (textMarks "#?RADIANCE", .hdr),
   ([some 0, some 0, none, none] ++ textMarks "ftypavif", .avif),
   (marks [0x76, 0x2F, 0x31, 0x01], .openExr),
   (textMarks "qoif", .qoi)] ++
  ["P1", "P2", "P3", "P4", "P5", "P6", "P7"].map (fun s => (textMarks s, .pnm)) ++
  [(textMarks "farbfeld", .farbfeld)]

def startsWith : List Mark → List UInt8 → Bool
  | [], _ => true
  | _ :: _, [] => false
  | mark :: marks, b :: bytes => mark.all (· == b) && startsWith marks bytes

def Kind.ofBytes? (bytes : List UInt8) : Option Kind :=
  (signatures.find? fun s => startsWith s.1 bytes).map (·.2)

/-- The kind that the extension of a name tells, in capitals or not. -/
def Kind.ofExtension? (extension : String) : Option Kind :=
  match extension.toLower with
  | "avif" => some avif
  | "jpg" | "jpeg" | "jfif" => some jpeg
  | "png" | "apng" => some png
  | "gif" => some gif
  | "webp" => some webP
  | "tif" | "tiff" => some tiff
  | "tga" => some tga
  | "dds" => some dds
  | "bmp" => some bmp
  | "ico" => some ico
  | "hdr" => some hdr
  | "exr" => some openExr
  | "pbm" | "pam" | "ppm" | "pgm" | "pnm" => some pnm
  | "ff" => some farbfeld
  | "qoi" => some qoi
  | _ => none

/-! ## Faults -/

inductive DecodeFault where
  | unknownKind
  | unknownExtension (extension : String)
  | unsupported (kind : Kind)
  | png (fault : Png.Fault)
  | jpeg (fault : Jpeg.Fault)
deriving DecidableEq, Repr

def DecodeFault.message : DecodeFault → String
  | unknownKind => "The image format could not be determined"
  | unknownExtension extension =>
    "The file extension `." ++ Text.quoted extension ++ "` was not recognized as an image format"
  | unsupported kind => "The image format " ++ kind.name ++ " is not supported"
  | png fault => fault.message
  | jpeg fault => fault.message

end Formulary.Image
