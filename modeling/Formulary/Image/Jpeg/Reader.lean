import Formulary.Image.Bitmap
import Formulary.Image.Jpeg.Basic

/-!
Reading JPEG pictures up to their pixels. Segments are read in turn, from marker to marker, until a
scan starts; then everything must be there that its pixels need. Of the pixels themselves only the
number is told: a picture that is read stands for white ones, and scans are taken as they come.
-/

namespace Formulary.Image.Jpeg

/-! ## Octets -/

/-- A step of reading: what stands in front, and the octets behind it. -/
abbrev Reader (α : Type) := StateT (List UInt8) (Except Fault) α

def octets (n : Nat) : Reader (List UInt8) := fun s =>
  if (s.take n).length < n then .error (.ends n s.length) else .ok (s.take n, s.drop n)

/-- The number of octets, the greatest part first. -/
def numberOf (octets : List UInt8) : Nat := octets.foldl (fun n b => n * 256 + b.toNat) 0

def octet : Reader Nat := numberOf <$> octets 1

def pair : Reader Nat := numberOf <$> octets 2

/-- Passes over octets, as far as there are any. -/
def pass (n : Nat) : Reader Unit := modify (·.drop n)

/-! ## What is read -/

/-- A component of a frame: what it is called in a scan, how often it is sampled across and down,
and its table of quantization. -/
structure Component where
  id : Nat
  across : Nat
  down : Nat
  table : Nat
  /-- The tables of codes that the scan tells. -/
  codes : Nat × Nat
deriving DecidableEq, Repr

structure Frame where
  width : Nat
  height : Nat
  isProgressive : Bool
  components : List Component
deriving DecidableEq, Repr

/-- What has been read before a scan. -/
structure Tables where
  frame? : Option Frame
  quantization : List Nat
  /-- The tables of codes, for the first coefficients and for the others. -/
  first : List Nat
  others : List Nat
deriving DecidableEq, Repr

/-- The most tables of a kind, and the most components. -/
def mostTables : Nat := 4

/-! ## Segments -/

/-- The length of a segment behind its length; one too short for that is a fault. -/
def segmentLength (fault : Nat → Fault) : Reader Nat := do
  let length ← pair
  if length < 2 then throw (fault length)
  pure (length - 2)

def passSegment (fault : Nat → Fault) : Reader Unit := do
  let length ← segmentLength fault
  pass length

/-- The fault of a marker whose segment is too short. -/
def invalidLength (n : Nat) : Fault :=
  .format ("Found a marker with invalid length:" ++ toString n ++ "\n")

/-- The fault of a marker that is not known, whose segment is too short. -/
def invalidUnknown (n : Nat) : Fault :=
  .format ("Found a marker with invalid length : " ++ toString n)

def readQuantization : Nat → Nat → Tables → Reader Tables
  | 0, _, t => pure t
  | _ + 1, 0, t => pure t
  | fuel + 1, left, t => do
    let info ← octet
    let precision := info / 16
    let size := 64 * (precision + 1)
    if left < size + 1 then
      throw (.quantization ("Invalid QT table bytes left: " ++ toString left ++
        ". Too small to construct a valid qt table which should be " ++ toString (size + 1) ++
        " long"))
    if 1 < precision then
      throw (.quantization ("Expected QT precision value of either 0 or 1, found " ++
        toString precision))
    if precision = 0 then
      let _ ← octets 64
    else
      for _ in List.range 64 do
        let _ ← pair
    let place := info % 16
    if mostTables ≤ place then
      throw (.quantization ("Too large table position for QT :" ++ toString place ++
        ", expected between 0 and 3"))
    readQuantization fuel (left - (size + 1)) { t with quantization := place :: t.quantization }

/-- Whether a code with so many words of each further length has more words than there can be, or
one of ones alone; `code` is the number of the next word, and there are `room` words of the length
before. -/
def isOverfull (code room : Nat) : List Nat → Bool
  | [] => false
  | count :: counts =>
    (count != 0 && 2 * room ≤ code + count) || isOverfull (2 * (code + count)) (2 * room) counts

def readCodes : Nat → Nat → Tables → Reader Tables
  | 0, _, t => pure t
  | fuel + 1, left, t => do
    if left ≤ 16 then
      if left = 0 then return t else throw (.format "Bogus Huffman table definition")
    let info ← octet
    let kind := info / 16
    let place := info % 16
    if mostTables ≤ place then
      throw (.huffman ("Invalid DHT index " ++ toString place ++ ", expected between 0 and 3"))
    if 1 < kind then
      throw (.huffman ("Invalid DHT position " ++ toString kind ++ ", should be 0 or 1"))
    let counts := (← octets 16).map UInt8.toNat
    let total := counts.sum
    if 256 < total then
      throw (.format "Encountered Huffman table with excessive length in DHT")
    if left - 17 < total then
      throw (.huffman ("Excessive Huffman table of length " ++ toString total ++
        " found when header length is " ++ toString (left - 17)))
    let symbols ← octets total
    if isOverfull 0 1 counts ∨ (kind = 0 ∧ symbols.any (15 < ·)) then
      throw (.huffman "Bad Huffman Table")
    let t :=
      if kind = 0 then { t with first := place :: t.first }
      else { t with others := place :: t.others }
    readCodes fuel (left - 17 - total) t

/-- Whether a number is a power of two, of those that four bits can write. -/
def isPowerOfTwo (n : Nat) : Bool := n ∈ [1, 2, 4, 8]

def readComponent (place : Nat) : Reader Component := do
  let id ← octet
  let sampling ← octet
  let table ← octet
  if mostTables ≤ place then
    throw (.format ("Unknown component id found," ++ toString place ++
      ", expected value between 1 and 4"))
  if mostTables ≤ table then
    throw (.format ("Too large quantization number :" ++ toString table ++
      ", expected value between 0 and 4"))
  let across := sampling / 16
  let down := sampling % 16
  if !isPowerOfTwo across then
    throw (.format ("Horizontal sample is not a power of two(" ++ toString across ++
      ") cannot decode"))
  if !isPowerOfTwo down then
    throw (.format ("Vertical sub-sample is not power of two(" ++ toString down ++
      ") cannot decode"))
  pure ⟨id, across, down, table, (0, 0)⟩

/-- A frame. There is but one in a picture. -/
def readFrame (isProgressive : Bool) (t : Tables) : Reader Tables := do
  if t.frame?.isSome then throw (.frame "Two Start of Frame Markers")
  let length ← pair
  let precision ← octet
  if precision ≠ 8 then
    throw (.frame ("The library can only parse 8-bit images, the image has " ++
      toString precision ++ " bits of precision"))
  let height ← pair
  let width ← pair
  if width = 0 ∨ height = 0 then throw .noSides
  let count ← octet
  if count = 0 then throw (.frame "Number of components cannot be zero.")
  let expected := 8 + 3 * count
  if length ≠ expected then
    throw (.frame ("Length of start of frame differs from expected " ++ toString expected ++
      ",value is " ++ toString length))
  let components ← (List.range count).mapM readComponent
  pure { t with frame? := some ⟨width, height, isProgressive, components⟩ }

/-- The components of a scan: so many of those of a frame, which are told by what they are
called. -/
def readScanComponents : Nat → List Nat → List Component → Reader (List Component)
  | 0, _, components => pure components
  | n + 1, seen, components => do
    let id ← octet
    if seen.contains id then
      throw (.frame ("Duplicate ID " ++ toString id ++ " seen twice in the same component"))
    let codes ← octet
    match components.findIdx? fun c => c.id == id with
    | none =>
      throw (.frame ("Invalid component id " ++ toString id ++
        ", expected a value between 0 and " ++ toString components.length))
    | some i =>
      readScanComponents n (id :: seen)
        (components.modify i fun c => { c with codes := (codes / 16, codes % 16) })

/-- The start of a scan, with the frame that its components belong to. -/
def readScan (t : Tables) : Reader Frame := do
  let length ← pair
  let count ← octet
  if length ≠ 6 + 2 * count then
    throw (.scan ("Bad SOS length " ++ toString length ++ ",corrupt jpeg"))
  if count = 0 ∨ mostTables < count then
    throw (.scan ("Invalid number of components in start of scan " ++ toString count ++
      ", expected in range 1..5"))
  match t.frame? with
  | none => throw (.format "Error decoding SOF Marker, Number of components cannot be zero.")
  | some frame => do
    let components ← readScanComponents count [] frame.components
    let first ← octet
    let last ← octet
    let bits ← octet
    if 63 < last then
      throw (.scan ("Invalid Se parameter " ++ toString last ++ ", range should be 0-63"))
    if 63 < first then
      throw (.scan ("Invalid Ss parameter " ++ toString first ++ ", range should be 0-63"))
    if 13 < bits / 16 then throw (.scan "Invalid Ah parameter 0, range should be 0-13")
    if 13 < bits % 16 then
      throw (.scan ("Invalid Al parameter " ++ toString (bits % 16) ++ ", range should be 0-13"))
    pure { frame with components }

/-- What the segment of a moving picture starts with. -/
def movingMark : List UInt8 := [0x41, 0x56, 0x49, 0x31, 0x00]

/-- The first segment of an application. That of a moving picture stands for the usual tables of
codes. -/
def readFirstApplication (t : Tables) : Reader Tables := do
  let length ← segmentLength invalidLength
  if length ≤ 3 then
    pass length
    return t
  let mark ← octets 5
  pass (length - 5)
  if mark = movingMark then
    return { t with first := [0, 1] ++ t.first, others := [0, 1] ++ t.others }
  return t

/-- What the segment starts with that tells how colours are written. -/
def colourMark : List UInt8 := [0x41, 0x64, 0x6F, 0x62, 0x65]

/-- The segment that may tell how colours are written, in one of three ways. -/
def readColours (t : Tables) : Reader Tables := do
  let length ← segmentLength fun _ => .format "Too small APP14 length"
  if (← get).take 5 = colourMark then
    pass 11
    let way := ((← get).headD 0).toNat
    pass 1
    if 2 < way then throw (.format ("Unknown Adobe colorspace " ++ toString way))
    pass (length - 12)
  else
    pass length
  pure t

def shortApplication (n : Nat) (length : Nat) : Fault :=
  match n with
  | 1 => .format "Too small app1 length"
  | 2 => .format "Too small app2 segment length"
  | 13 => .format "Too small APP13 length"
  | _ => invalidLength length

def readSegment (t : Tables) : Marker → Reader Tables
  | .frame 0 | .frame 1 => readFrame false t
  | .frame 2 => readFrame true t
  | .frame _ => throw (.format "Unsupported image format")
  | .huffmanTables => do
    let length ← segmentLength fun _ => .format "Invalid Huffman length in image"
    readCodes (length + 1) length t
  | .quantizationTables => do
    let length ← segmentLength fun _ =>
      .format "Invalid DQT length. Length should be greater than 2"
    readQuantization (length + 1) length t
  | .restartInterval => do
    if (← pair) ≠ 4 then throw (.format "Bad DRI length, Corrupt JPEG")
    let _ ← pair
    pure t
  | .ending => throw (.format "Premature End of image")
  | .arithmeticTables =>
    throw (.format "Parsing of the following header \x60DAC\x60 is not supported,cannot continue")
  | .lines =>
    throw (.format "Parsing of the following header \x60DNL\x60 is not supported,cannot continue")
  | .application 0 => readFirstApplication t
  | .application 14 => readColours t
  | .application n => do
    passSegment (shortApplication n)
    pure t
  | .other | .scan => do
    passSegment invalidLength
    pure t

/-! ## Pictures -/

/-- The next octet that does not fill up the room between a marker and what stands before it, and
the octet before it. -/
def behindFill : Nat → Nat → Nat → Reader (Nat × Nat)
  | 0, before, b => pure (before, b)
  | fuel + 1, before, b => do
    if b = 0xFF ∨ b = 0 then
      let next ← octet
      behindFill fuel b next
    else pure (before, b)

/-- The frame of the first scan, from what was read before; `before` is the last octet. -/
def readFrom : Nat → Nat → Tables → Reader (Frame × Tables)
  | 0, _, _ => throw (.ends 1 0)
  | fuel + 1, before, t => do
    let b ← octet
    let (before, b) ← if before = 0xFF then behindFill (fuel + 1) before b else pure (before, b)
    if before ≠ 0xFF then readFrom fuel b t
    else
      match Marker.ofOctet? (UInt8.ofNat b) with
      | some .scan => do
        let frame ← readScan t
        pure (frame, t)
      | some marker => do
        let t ← readSegment t marker
        readFrom fuel b t
      | none => do
        passSegment invalidUnknown
        readFrom fuel b t

def componentNames : List String := ["Y", "Cb", "Cr", "Q"]

/-- Whether everything is there that the pixels of a frame need. -/
def Frame.check (f : Frame) (t : Tables) : Except Fault Unit := do
  let named := f.components.zip componentNames
  for (c, name) in named do
    if !t.quantization.contains c.table then
      throw (.quantization ("No quantization table for component " ++ name))
  let isSampled := f.components.any fun c => c.across != 1 || c.down != 1
  if isSampled ∧ f.components.head?.any (fun c => c.across == 1 && c.down == 1) then
    throw (.format "Unsupported unsampled Y component with sampled Cb / Cr components")
  unless f.isProgressive do
    for (c, name) in named do
      if !t.first.contains c.codes.1 then
        throw (.huffman ("No Huffman DC table for component " ++ name ++ " "))
      if !t.others.contains c.codes.2 then
        throw (.huffman ("No Huffman AC table for component " ++ name ++ " "))
  if f.components.length = 2 then
    throw (.format " Expected 3 number of components but found 2")

def mostOctets : Nat := 536870912

def Frame.decodedSize (f : Frame) : Nat := if f.components.length = 1 then 1 else 3

def read (bytes : List UInt8) : Except Fault Bitmap := do
  let (start, rest) ← pair.run bytes
  if start ≠ 0xFFD8 then throw (.start start)
  let ((frame, tables), _) ← (readFrom (rest.length + 1) 0 ⟨none, [], [], []⟩).run rest
  let pixels := frame.width * frame.height
  if mostOctets < pixels * frame.decodedSize then throw .tooLarge
  frame.check tables
  match Bitmap.ofRuns? frame.width frame.height [⟨pixels, ⟨255, 255, 255, 255⟩⟩] with
  | some bitmap => pure bitmap
  | none => throw .noSides

end Formulary.Image.Jpeg
