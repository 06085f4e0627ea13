import Formulary.Image.Deflate.Codes
import Formulary.Text.Quoted

/-!
PNG pictures: their chunks, what the header says, and what may be wrong with them.
-/

namespace Formulary.Image.Png

def signature : List UInt8 := [0x89, 0x50, 0x4E, 0x47, 0x0D, 0x0A, 0x1A, 0x0A]

/-! ## Chunks -/

structure ChunkName where
  first : UInt8
  second : UInt8
  third : UInt8
  fourth : UInt8
deriving DecidableEq, Repr

namespace ChunkName

def header : ChunkName := ⟨0x49, 0x48, 0x44, 0x52⟩

def palette : ChunkName := ⟨0x50, 0x4C, 0x54, 0x45⟩

def data : ChunkName := ⟨0x49, 0x44, 0x41, 0x54⟩

def ending : ChunkName := ⟨0x49, 0x45, 0x4E, 0x44⟩

/-- The chunk that tells what is not seen, or how much of it. -/
def transparency : ChunkName := ⟨0x74, 0x52, 0x4E, 0x53⟩

/-- A chunk with pixels of a further picture. -/
def frameData : ChunkName := ⟨0x66, 0x64, 0x41, 0x54⟩

def octets (n : ChunkName) : List UInt8 := [n.first, n.second, n.third, n.fourth]

/-- Whether an octet of a name is a small letter. -/
def isSmall (b : UInt8) : Bool := (b.toNat / 32) % 2 = 1

/-- Whether a picture cannot do without the chunk. -/
def isCritical (n : ChunkName) : Bool := !isSmall n.first

def shown (b : UInt8) : List Char :=
  let c := Char.ofNat b.toNat
  if c = '\x27' then ['\\', c] else Text.quotedChar c

def text (n : ChunkName) : String :=
  let answer (b : Bool) : String := if b then "true" else "false"
  "ChunkType \x7b type: " ++ String.ofList (n.octets.flatMap shown) ++
    ", critical: " ++ answer n.isCritical ++ ", private: " ++ answer (isSmall n.second) ++
    ", reserved: " ++ answer (isSmall n.third) ++ ", safecopy: " ++ answer (isSmall n.fourth) ++
    " \x7d"

end ChunkName

def number (octets : List UInt8) : Nat := octets.foldl (fun n b => n * 256 + b.toNat) 0

/-! ## Check sums -/

/-- The divisor of check sums, the highest power last. -/
def divisor : UInt32 := 0xEDB88320

/-- A remainder moved on by some bits. -/
def moved : Nat → UInt32 → UInt32
  | 0, r => r
  | n + 1, r => moved n (if r &&& 1 = 1 then (r >>> 1) ^^^ divisor else r >>> 1)

def checksum (octets : List UInt8) : Nat :=
  ((octets.foldl (fun r b => moved 8 (r ^^^ b.toUInt32)) 0xFFFFFFFF) ^^^ 0xFFFFFFFF).toNat

/-! ## Headers -/

/-- What the samples of a pixel are. -/
inductive ColourKind where
  | grey
  | rgb
  | indexed
  | greyAlpha
  | rgba
deriving DecidableEq, Repr

def ColourKind.name : ColourKind → String
  | grey => "Grayscale"
  | rgb => "Rgb"
  | indexed => "Indexed"
  | greyAlpha => "GrayscaleAlpha"
  | rgba => "Rgba"

def ColourKind.ofNumber? : Nat → Option ColourKind
  | 0 => some grey
  | 2 => some rgb
  | 3 => some indexed
  | 4 => some greyAlpha
  | 6 => some rgba
  | _ => none

def ColourKind.samples : ColourKind → Nat
  | grey => 1
  | rgb => 3
  | indexed => 1
  | greyAlpha => 2
  | rgba => 4

def depthName? : Nat → Option String
  | 1 => some "One"
  | 2 => some "Two"
  | 4 => some "Four"
  | 8 => some "Eight"
  | 16 => some "Sixteen"
  | _ => none

/-- Whether samples of a kind may have so many bits. -/
def ColourKind.allows (kind : ColourKind) (depth : Nat) : Bool :=
  match kind with
  | grey => true
  | indexed => depth ≤ 8
  | _ => 8 ≤ depth

structure Header where
  width : Nat
  height : Nat
  depth : Nat
  kind : ColourKind
  interlaced : Bool
deriving DecidableEq, Repr

/-! ## Faults -/

inductive Fault where
  | endOfFile
  | noSignature
  | beforeHeader (name : ChunkName)
  | checksum (expected found : Nat) (name : ChunkName)
  | tooShort (name : ChunkName)
  | duplicated (name : ChunkName)
  | unknownCritical (name : ChunkName)
  | restarted (name : ChunkName)
  | noData
  | noSides
  | depth (n : Nat)
  | colourKind (n : Nat)
  | combination (kind : ColourKind) (depth : String)
  | compression (n : Nat)
  | filter (n : Nat)
  | interlacing (n : Nat)
  | compressed (fault : Deflate.Fault)
  | noPalette
  | tooLittleData
  | tooLarge
deriving DecidableEq, Repr

def hexText (n : Nat) : String := String.ofList (Nat.toDigits 16 n)

def Fault.formatText : Fault → String
  | endOfFile => "unexpected end of file"
  | noSignature => "Invalid PNG signature."
  | beforeHeader name => name.text ++ " chunk appeared before IHDR chunk"
  | checksum expected found name =>
    "CRC error: expected 0x" ++ hexText expected ++ " have 0x" ++ hexText found ++
      " while decoding " ++ name.text ++ " chunk."
  | tooShort name => "Chunk is too short: " ++ name.text
  | duplicated name => "Chunk " ++ name.text ++ " is duplicated."
  | unknownCritical name => "Unrecognized critical chunk: " ++ name.text
  | restarted name => "Unexpected restart of " ++ name.text ++ " chunk sequence"
  | noData => "IDAT or fDAT chunk is missing."
  | noSides => "Invalid image dimensions"
  | depth n => "Invalid bit depth " ++ toString n ++ "."
  | colourKind n => "Invalid color type " ++ toString n ++ "."
  | combination kind bits =>
    "Invalid color/depth combination in header: " ++ kind.name ++ "/" ++ bits
  | compression n => "Unknown compression method " ++ toString n ++ "."
  | filter n => "Unknown filter method " ++ toString n ++ "."
  | interlacing n => "Unknown interlace method " ++ toString n ++ "."
  | compressed fault => "Corrupt deflate stream. " ++ fault.name
  | noPalette => "Missing palette of indexed image."
  | tooLittleData => "IDAT or fDAT chunk does not have enough data for image."
  | tooLarge => "Memory limit exceeded"

def Fault.message : Fault → String
  | endOfFile => Fault.formatText endOfFile
  | tooLarge => Fault.formatText tooLarge
  | fault => "Format error decoding Png: " ++ fault.formatText

end Formulary.Image.Png
