import Formulary.Image.Deflate.Codes

/-!
Compressed streams. A stream has a header, blocks, and a check sum, which is not compared. A block
holds octets as they are, or codes for octets and for what has come before; the code is a fixed one
or is told in the block. What a part of a stream holds is told as far as it goes.
-/

namespace Formulary.Image.Deflate

/-! ## Copies of what has come before -/

/-- The least length of a copy for each symbol that tells one, and the bits that tell how much
longer it is. -/
def lengthForms : List (Nat × Nat) :=
  [(3, 0), (4, 0), (5, 0), (6, 0), (7, 0), (8, 0), (9, 0), (10, 0),
    (11, 1), (13, 1), (15, 1), (17, 1), (19, 2), (23, 2), (27, 2), (31, 2),
    (35, 3), (43, 3), (51, 3), (59, 3), (67, 4), (83, 4), (99, 4), (115, 4),
    (131, 5), (163, 5), (195, 5), (227, 5), (258, 0)]

/-- The least distance of a copy for each symbol, and the bits that tell how much greater it is. -/
def distanceForms : List (Nat × Nat) :=
  [(1, 0), (2, 0), (3, 0), (4, 0), (5, 1), (7, 1), (9, 2), (13, 2), (17, 3), (25, 3), (33, 4),
    (49, 4), (65, 5), (97, 5), (129, 6), (193, 6), (257, 7), (385, 7), (513, 8), (769, 8),
    (1025, 9), (1537, 9), (2049, 10), (3073, 10), (4097, 11), (6145, 11), (8193, 12), (12289, 12),
    (16385, 13), (24577, 13)]

/-- The codes of a block. There may be none for distances. -/
structure Codes where
  literals : Code
  distances? : Option Code
deriving Repr

/-- A number whose least value and further bits a form tells. -/
def formed (invalid : Fault) (form? : Option (Nat × Nat)) (bits : Bits) : Except Stop (Nat × Bits) :=
  match form? with
  | none => .error (.broken invalid)
  | some (least, extra) => do
    let (more, bits) ← bits.take extra
    pure (least + more, bits)

/-- The length and the distance of a copy, behind the symbol that tells its length. -/
def Codes.copyForm (codes : Codes) (symbol : Nat) (bits : Bits) :
    Except Stop (Nat × Nat × Bits) := do
  let (length, bits) ← formed .invalidLiteral lengthForms[symbol - 257]? bits
  match codes.distances? with
  | none => throw (.broken .invalidDistance)
  | some code => do
    let (symbol, bits) ← code.read .invalidDistance bits
    let (distance, bits) ← formed .invalidDistance distanceForms[symbol]? bits
    pure (length, distance, bits)

/-- Octets with a copy of some from a distance behind them; a copy may take in octets of its own. -/
def copied (out : Array UInt8) (distance : Nat) : Nat → Array UInt8
  | 0 => out
  | n + 1 => copied (out.push (out.getD (out.size - distance) 0)) distance n

/-- The octets of a block with codes, behind those before, and the bits behind it. -/
def Codes.inflate (codes : Codes) : Nat → Bits → Array UInt8 → Array UInt8 × Except Stop Bits
  | 0, _, out => (out, .error .more)
  | fuel + 1, bits, out =>
    match codes.literals.read .invalidLiteral bits with
    | .error stop => (out, .error stop)
    | .ok (symbol, bits) =>
      if symbol < 256 then codes.inflate fuel bits (out.push (UInt8.ofNat symbol))
      else if symbol = 256 then (out, .ok bits)
      else
        match codes.copyForm symbol bits with
        | .error stop => (out, .error stop)
        | .ok (length, distance, bits) =>
          if out.size < distance then (out, .error (.broken .distanceTooFar))
          else codes.inflate fuel bits (copied out distance length)

/-! ## Codes of blocks -/

def Codes.fixed : Codes :=
  ⟨.ofLengths (List.replicate 144 8 ++ List.replicate 112 9 ++ List.replicate 24 7 ++
      List.replicate 8 8),
    some (.ofLengths (List.replicate 30 5 ++ [5, 5]))⟩

/-- The order in which the lengths of the code for lengths are told. -/
def lengthOrder : List Nat := [16, 17, 18, 0, 8, 7, 9, 6, 10, 5, 11, 4, 12, 3, 13, 2, 14, 1, 15]

def triples : Nat → Bits → Except Stop (List Nat × Bits)
  | 0, bits => .ok ([], bits)
  | n + 1, bits => do
    let (length, bits) ← bits.take 3
    let (lengths, bits) ← triples n bits
    pure (length :: lengths, bits)

/-- The bits that must be there to read a length. -/
def leastBits : Nat := 7

/-- So many lengths, behind those that have been read, the last of them first. A length stands for
itself, or the one before comes again, or there are no words for a while. -/
def readLengths (code : Code) (total : Nat) : Nat → Bits → List Nat →
    Except Stop (List Nat × Bits)
  | 0, _, _ => .error .more
  | fuel + 1, bits, read => do
    if total ≤ read.length then return (read.reverse, bits)
    if bits.left < leastBits then throw .more
    let (symbol, bits) ← code.read .badLengthCode bits
    if symbol < 16 then readLengths code total fuel bits (symbol :: read)
    else
      let (least, extra) :=
        if symbol = 16 then (3, 2) else if symbol = 17 then (3, 3) else (11, 7)
      let (more, bits) ← bits.take extra
      let value ←
        if symbol = 16 then read.head?.elim (throw (.broken .invalidRepeat)) pure else pure 0
      if total < read.length + (least + more) then throw (.broken .invalidRepeat)
      readLengths code total fuel bits (List.replicate (least + more) value ++ read)

/-- The code for distances, if there is one: one that is complete, or has a single word. -/
def distanceCode (lengths : List Nat) : Except Stop (Option Code) :=
  let code := Code.ofLengths lengths
  if lengths.all (· == 0) then .ok none
  else if code.isSingle || code.isComplete then .ok (some code)
  else .error (.broken .badDistanceCode)

def Codes.read (bits : Bits) : Except Stop (Codes × Bits) := do
  let (literals, bits) ← bits.take 5
  let (distances, bits) ← bits.take 5
  let (lengths, bits) ← bits.take 4
  if 29 < literals then throw (.broken .tooManyLiterals)
  if 29 < distances then throw (.broken .tooManyDistances)
  let (told, bits) ← triples (lengths + 4) bits
  let lengthOf (symbol : Nat) : Nat :=
    ((lengthOrder.zip told).find? fun e => e.1 == symbol).elim 0 (·.2)
  let code := Code.ofLengths ((List.range 19).map lengthOf)
  if !code.isComplete then throw (.broken .badLengthCode)
  let total := literals + distances + 258
  let (all, bits) ← readLengths code total (total + 1) bits []
  let (ofLiterals, ofDistances) := all.splitAt (literals + 257)
  if ofLiterals.getD 256 0 = 0 then throw (.broken .badLiteralCode)
  let code := Code.ofLengths ofLiterals
  if !code.isComplete then throw (.broken .badLengthCode)
  pure (⟨code, ← distanceCode ofDistances⟩, bits)

/-! ## Streams -/

/-- The octets of a block that holds them as they are, and the bits behind it. -/
def stored (bits : Bits) (out : Array UInt8) : Array UInt8 × Except Stop Bits :=
  let bits := bits.align
  if bits.left < 32 then (out, .error .more)
  else
    let length := bits.numberAt bits.position 16
    let complement := bits.numberAt (bits.position + 16) 16
    if length + complement ≠ 65535 then (out, .error (.broken .invalidBlockLength))
    else
      let bits := bits.skip 32
      let start := bits.position / 8
      let out := out ++ bits.octets.extract start (start + length)
      if bits.left < 8 * length then (out, .error .more) else (out, .ok (bits.skip (8 * length)))

/-- The bits that must be there to read the head of a block, and those for one that tells its
codes. -/
def headBits : Nat × Nat := (10, 17)

/-- The octets of the next block, behind those before, and the bits behind it. -/
def block (kind : Nat) (bits : Bits) (out : Array UInt8) : Array UInt8 × Except Stop Bits :=
  let fuel := bits.left + 1
  match kind with
  | 0 => stored bits out
  | 1 => Codes.fixed.inflate fuel bits out
  | 2 =>
    if bits.left + 3 < headBits.2 then (out, .error .more)
    else
      match Codes.read bits with
      | .error stop => (out, .error stop)
      | .ok (codes, bits) => codes.inflate fuel bits out
  | _ => (out, .error (.broken .invalidBlockType))

/-- The octets of blocks, behind those before, and why they end; nothing is wrong with a stream that
is all there. -/
def blocks : Nat → Bits → Array UInt8 → Array UInt8 × Option Stop
  | 0, _, out => (out, some .more)
  | fuel + 1, bits, out =>
    if bits.left < headBits.1 then (out, some .more)
    else
      let isLast := bits.bitAt bits.position = 1
      let kind := bits.numberAt (bits.position + 1) 2
      match block kind (bits.skip 3) out with
      | (out, .error stop) => (out, some stop)
      | (out, .ok bits) =>
        if !isLast then blocks fuel bits out
        else (out, if bits.align.left < 32 then some .more else none)

def isHeader (a b : Nat) : Bool :=
  a % 16 = 8 && a / 16 ≤ 7 && b / 32 % 2 = 0 && (a * 256 + b) % 31 = 0

/-- What the first octets of a stream hold, and why they end. -/
def inflate (octets : Array UInt8) : Array UInt8 × Option Stop :=
  match octets[0]?, octets[1]? with
  | some a, some b =>
    if isHeader a.toNat b.toNat then blocks (8 * octets.size) ⟨octets, 16⟩ #[]
    else (#[], some (.broken .badHeader))
  | _, _ => (#[], some .more)

end Formulary.Image.Deflate
