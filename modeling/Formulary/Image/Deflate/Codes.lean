/-!
Prefix codes and bits of compressed data. The bits of an octet count from its least; a code is told
by the lengths of its words, which are in order of their lengths and then of what they stand for.
-/

namespace Formulary.Image.Deflate

inductive Fault where
  | badHeader
  | insufficientInput
  | invalidBlockType
  | invalidBlockLength
  | tooManyLiterals
  | tooManyDistances
  | invalidRepeat
  | badLengthCode
  | badLiteralCode
  | badDistanceCode
  | invalidLiteral
  | invalidDistance
  | distanceTooFar
deriving DecidableEq, Repr

def Fault.name : Fault → String
  | badHeader => "BadZlibHeader"
  | insufficientInput => "InsufficientInput"
  | invalidBlockType => "InvalidBlockType"
  | invalidBlockLength => "InvalidUncompressedBlockLength"
  | tooManyLiterals => "InvalidHlit"
  | tooManyDistances => "InvalidHdist"
  | invalidRepeat => "InvalidCodeLengthRepeat"
  | badLengthCode => "BadCodeLengthHuffmanTree"
  | badLiteralCode => "BadLiteralLengthHuffmanTree"
  | badDistanceCode => "BadDistanceHuffmanTree"
  | invalidLiteral => "InvalidLiteralLengthCode"
  | invalidDistance => "InvalidDistanceCode"
  | distanceTooFar => "DistanceTooFarBack"

inductive Stop where
  /-- The data goes on behind what is there. -/
  | more
  | broken (fault : Fault)
deriving DecidableEq, Repr

/-! ## Bits -/

structure Bits where
  octets : Array UInt8
  position : Nat
deriving Repr

namespace Bits

def left (b : Bits) : Nat := 8 * b.octets.size - b.position

def bitAt (b : Bits) (i : Nat) : Nat := ((b.octets.getD (i / 8) 0).toNat >>> (i % 8)) % 2

/-- The number that some bits from a place write, the least first. -/
def numberAt (b : Bits) (i : Nat) : Nat → Nat
  | 0 => 0
  | n + 1 => b.bitAt i + 2 * b.numberAt (i + 1) n

def skip (b : Bits) (n : Nat) : Bits := { b with position := b.position + n }

def align (b : Bits) : Bits := { b with position := (b.position + 7) / 8 * 8 }

/-- The number that the next bits write. -/
def take (b : Bits) (n : Nat) : Except Stop (Nat × Bits) :=
  if b.left < n then .error .more else .ok (b.numberAt b.position n, b.skip n)

end Bits

/-! ## Codes -/

def longestWord : Nat := 15

/-- A code: how many words there are of each length from one, and what the words stand for in
order. -/
structure Code where
  counts : List Nat
  symbols : Array Nat
deriving Repr

/-- The numbers of the lengths that are equal to one. -/
def withLength (n : Nat) (lengths : List Nat) : List Nat :=
  lengths.zipIdx.filterMap fun (length, i) => if length = n then some i else none

/-- The code whose words have some lengths; a length of zero is that of no word. -/
def Code.ofLengths (lengths : List Nat) : Code :=
  let words := (List.range longestWord).map fun n => withLength (n + 1) lengths
  ⟨words.map List.length, words.flatten.toArray⟩

/-- How many words of the longest length there would be, were all shorter ones made longer. -/
def Code.used (c : Code) : Nat := c.counts.foldl (fun n count => 2 * n + count) 0

/-- Whether all bits start with a word. -/
def Code.isComplete (c : Code) : Bool := c.used = 32768

def Code.isSingle (c : Code) : Bool := c.symbols.size = 1 && c.counts.headD 0 = 1

/-- What the next word stands for, when `code` are the bits before; the words of the next length are
numbered from `first` and stand for the symbols from `index`. -/
def Code.readFrom (c : Code) (invalid : Fault) (bits : Bits) (code first index : Nat) :
    List Nat → Except Stop (Nat × Bits)
  | [] => .error (.broken invalid)
  | count :: counts =>
    if bits.left = 0 then .error .more
    else
      let code := 2 * code + bits.bitAt bits.position
      let bits := bits.skip 1
      if code < first + count then .ok (c.symbols.getD (index + (code - first)) 0, bits)
      else c.readFrom invalid bits code (2 * (first + count)) (index + count) counts

def Code.read (c : Code) (invalid : Fault) (bits : Bits) : Except Stop (Nat × Bits) :=
  c.readFrom invalid bits 0 0 0 c.counts

end Formulary.Image.Deflate
