import Formulary.Image.Deflate.Stream
import Formulary.Image.Png.Pixels

/-!
Reading PNG pictures. Chunks are read in turn, and the first fault ends the reading; a chunk that a
picture can do without is passed over where anything is wrong with it. Pixels are taken as the data
comes, so what stands behind the last of them is hardly looked at.
-/

namespace Formulary.Image.Png

/-- What stands behind the signature, which is compared in two halves, each as soon as it is
there. -/
def behindSignature (bytes : List UInt8) : Except Fault (List UInt8) :=
  if bytes.length < 4 then .error .endOfFile
  else if bytes.take 4 ≠ signature.take 4 then .error .noSignature
  else if bytes.length < 8 then .error .endOfFile
  else if bytes.take 8 ≠ signature then .error .noSignature
  else .ok (bytes.drop 8)

/-! ## Chunks -/

/-- The start of a chunk: the length of its body and its name, and what stands behind. -/
def chunkStart : List UInt8 → Except Fault (Nat × ChunkName × List UInt8)
  | a :: b :: c :: d :: e :: f :: g :: h :: rest => .ok (number [a, b, c, d], ⟨e, f, g, h⟩, rest)
  | _ => .error .endOfFile

/-- The body of a chunk and what stands behind the chunk; whether its check sum is right. -/
def chunkBody (length : Nat) (name : ChunkName) (rest : List UInt8) :
    Except Fault (List UInt8 × Except Fault Unit × List UInt8) :=
  let body := rest.take length
  let behind := rest.drop length
  if body.length < length ∨ behind.length < 4 then .error .endOfFile
  else
    let told := number (behind.take 4)
    let found := checksum (name.octets ++ body)
    .ok (body, if told = found then .ok () else .error (.checksum told found name), behind.drop 4)

/-! ## Headers -/

def nextOctet : List UInt8 → Except Fault (Nat × List UInt8)
  | b :: rest => .ok (b.toNat, rest)
  | [] => .error (.tooShort .header)

def nextNumber (s : List UInt8) : Except Fault (Nat × List UInt8) :=
  if s.length < 4 then .error (.tooShort .header) else .ok (number (s.take 4), s.drop 4)

def Header.read (s : List UInt8) : Except Fault Header := do
  let (width, s) ← nextNumber s
  let (height, s) ← nextNumber s
  if width = 0 ∨ height = 0 then throw .noSides
  let (depth, s) ← nextOctet s
  match depthName? depth with
  | none => throw (.depth depth)
  | some depthName => do
    let (n, s) ← nextOctet s
    match ColourKind.ofNumber? n with
    | none => throw (.colourKind n)
    | some kind => do
      if !kind.allows depth then throw (.combination kind depthName)
      let (compression, s) ← nextOctet s
      if compression ≠ 0 then throw (.compression compression)
      let (filter, s) ← nextOctet s
      if filter ≠ 0 then throw (.filter filter)
      let (interlacing, _) ← nextOctet s
      if 1 < interlacing then throw (.interlacing interlacing)
      pure ⟨width, height, depth, kind, interlacing = 1⟩

/-! ## Chunks before the data -/

/-- How many octets tell the samples of the colour that is not seen. -/
def ColourKind.unseenSize? : ColourKind → Option Nat
  | .grey => some 2
  | .rgb => some 6
  | _ => none

/-- A palette with what a chunk says of transparency, if that can be said of it. -/
def Palette.withTransparency (p : Palette) (h : Header) (body : List UInt8) : Palette :=
  let isFit :=
    if h.kind = .indexed then p.colours?.isSome else h.kind.unseenSize?.any (· ≤ body.length)
  if isFit && p.transparency?.isNone then { p with transparency? := some body } else p

/-- The palette behind a chunk that is no data. -/
def Palette.behind (p : Palette) (h : Header) (name : ChunkName) (body : List UInt8) :
    Except Fault Palette :=
  if name = .header then .error (.duplicated name)
  else if name = .palette then
    if p.colours?.isSome then .error (.duplicated name)
    else .ok { p with colours? := some (coloursOf body).toArray }
  else if name = .ending then .error .noData
  else if name = .transparency then .ok (p.withTransparency h body)
  else if name.isCritical then .error (.unknownCritical name)
  else .ok p

/-- The palette of a picture, and the length of its first data and what stands behind the name of
that. -/
def beforeData (h : Header) : Nat → Palette → List UInt8 →
    Except Fault (Palette × Nat × List UInt8)
  | 0, _, _ => .error .endOfFile
  | fuel + 1, p, s => do
    let (length, name, rest) ← chunkStart s
    if name = .data then return (p, length, rest)
    if name = .frameData then throw (.restarted name)
    let (body, sum, rest) ← chunkBody length name rest
    match sum with
    | .error fault => if name.isCritical then throw fault else beforeData h fuel p rest
    | .ok () => do
      let p ← p.behind h name body
      beforeData h fuel p rest

/-! ## Data -/

/-- The most octets that the pixels of a picture may take. -/
def mostOctets : Nat := 536870912

/-- The octets that a pixel takes once it is read. -/
def Header.decodedSize (h : Header) (p : Palette) : Nat :=
  let seeThrough : Nat := if p.transparency?.isSome then 1 else 0
  let samples := match h.kind with
    | .grey => 1 + seeThrough
    | .rgb | .indexed => 3 + seeThrough
    | .greyAlpha => 2
    | .rgba => 4
  if h.depth = 16 then 2 * samples else samples

/-- Goes over the rest of the data, in which no pixels are, up to the name of the chunk behind it;
`behind` is what stands behind the octets of the data that is being read. -/
def passData : Nat → ChunkName → Nat → List UInt8 → Except Fault Unit
  | 0, _, _, _ => .error .endOfFile
  | fuel + 1, name, length, s => do
    let (_, sum, rest) ← chunkBody length name s
    sum
    let (length, next, rest) ← chunkStart rest
    if next = .data then passData fuel next length rest else pure ()

/-- What the data of a picture holds, when all its rows are there; `before` is the data of chunks
before the one whose body of some length is next. -/
def readData (h : Header) (hasPalette : Bool) :
    Nat → Array UInt8 → Nat → List UInt8 → Except Fault (Array UInt8)
  | 0, _, _, _ => .error .endOfFile
  | fuel + 1, before, length, s => do
    let data := before ++ (s.take length).toArray
    let (stored, stop?) := Deflate.inflate data
    match stop? with
    | some (.broken fault) => throw (.compressed fault)
    | _ => do
      if ← h.allStored hasPalette stored then
        passData (fuel + 1) .data length s
        return stored
      let (_, sum, rest) ← chunkBody length .data s
      sum
      let (length, name, rest) ← chunkStart rest
      if name = .data then readData h hasPalette fuel data length rest
      else if stop?.isSome then throw (.compressed .insufficientInput)
      else throw .tooLittleData

/-! ## Pictures -/

def read (bytes : List UInt8) : Except Fault Bitmap := do
  let s ← behindSignature bytes
  let (length, name, rest) ← chunkStart s
  if name ≠ .header then throw (.beforeHeader name)
  let (body, sum, rest) ← chunkBody length name rest
  sum
  let h ← Header.read body
  let (p, length, rest) ← beforeData h (rest.length + 1) ⟨none, none⟩ rest
  if mostOctets < h.width * h.height * h.decodedSize p then throw .tooLarge
  let stored ← readData h p.colours?.isSome (rest.length + 1) #[] length rest
  match Bitmap.ofRuns? h.width h.height (h.pixels p stored) with
  | some bitmap => pure bitmap
  | none => throw .noSides

end Formulary.Image.Png
