import Formulary.Sample.Draw

/-!
The key stream of ChaCha with twelve rounds as a source of random words. A block of sixteen words is
worked out from the key and the number of the block; the words of the blocks, one block after
another, are the stream, and a source is a place in it. A seed is stretched to a key by a linear
congruence whose states are mixed before they are used.
-/

namespace Formulary.Sample

/-- A block of the stream, and the matrix it is worked out in. -/
abbrev Block := Vector UInt32 16

def turnLeft (w : UInt32) (bits : UInt32) : UInt32 := (w <<< bits) ||| (w >>> (32 - bits))

namespace Block

/-- Adds the word at `b` to that at `a`, and turns what has become of the word at `d` by it. -/
def mix (v : Block) (a b d : Fin 16) (bits : UInt32) : Block :=
  let v := v.set a (v[a] + v[b])
  v.set d (turnLeft (v[d] ^^^ v[a]) bits)

/-- Stirs four words. -/
def quarter (v : Block) (a b c d : Fin 16) : Block :=
  (((v.mix a b d 16).mix c d b 12).mix a b d 8).mix c d b 7

/-- Stirs the columns and then the diagonals. -/
def twoRounds (v : Block) : Block :=
  let columns := (((v.quarter 0 4 8 12).quarter 1 5 9 13).quarter 2 6 10 14).quarter 3 7 11 15
  (((columns.quarter 0 5 10 15).quarter 1 6 11 12).quarter 2 7 8 13).quarter 3 4 9 14

/-- Twelve rounds. -/
def stir (v : Block) : Block := v.twoRounds.twoRounds.twoRounds.twoRounds.twoRounds.twoRounds

end Block

abbrev Key := Vector UInt32 8

/-- The matrix of a block: four constants, the key, the number of the block in two words, low one
first, and two zeros. -/
def Key.matrix (key : Key) (number : Nat) : Block :=
  let constants : Vector UInt32 4 := #v[0x61707865, 0x3320646e, 0x79622d32, 0x6b206574]
  let place : Vector UInt32 4 := #v[UInt32.ofNat number, UInt32.ofNat (number / UInt32.size), 0, 0]
  constants ++ key ++ place

/-- A block of the stream: the stirred matrix, added to what it was. -/
def Key.block (key : Key) (number : Nat) : Block :=
  let matrix := key.matrix number
  matrix.stir.zipWith (· + ·) matrix

/-- The state after one in the stretching of a seed. -/
def stretchStep (seed : UInt64) : UInt64 := seed * 6364136223846793005 + 11634580027462260723

/-- The word that a state gives: its upper bits mixed and turned to the right by the topmost
five. -/
def stretchWord (state : UInt64) : UInt32 :=
  let mixed := (((state >>> 18) ^^^ state) >>> 27).toUInt32
  let bits := (state >>> 59).toUInt32
  (mixed >>> bits) ||| (mixed <<< ((32 - bits) % 32))

/-- The state after `n` steps. -/
def stretched (seed : UInt64) : Nat → UInt64
  | 0 => seed
  | n + 1 => stretchStep (stretched seed n)

def Key.ofSeed (seed : UInt64) : Key := Vector.ofFn fun i => stretchWord (stretched seed (i.val + 1))

/-- A place in the stream of a key, counted in words. -/
structure KeyStream where
  key : Key
  position : Nat
deriving DecidableEq, Repr

namespace KeyStream

def ofSeed (seed : UInt64) : KeyStream := ⟨.ofSeed seed, 0⟩

def wordAt (key : Key) (position : Nat) : UInt32 :=
  (key.block (position / 16)).get ⟨position % 16, Nat.mod_lt _ (by decide)⟩

def next32 (s : KeyStream) : UInt32 × KeyStream :=
  (wordAt s.key s.position, ⟨s.key, s.position + 1⟩)

/-- The next two words as one, the low one first. -/
def next64 (s : KeyStream) : UInt64 × KeyStream :=
  let (low, s) := s.next32
  let (high, s) := s.next32
  (high.toUInt64 <<< 32 ||| low.toUInt64, s)

/-- An unfit draw is tried again so often that a stream without a fit one is out of the question. -/
instance : WordSource KeyStream := ⟨next32, next64, fun _ => 256⟩

end KeyStream

/-- Given words of 64 bits, over and over. -/
structure WordCycle where
  words : List UInt64
  position : Nat
deriving DecidableEq, Repr

namespace WordCycle

def next64 (s : WordCycle) : UInt64 × WordCycle :=
  (s.words.getD (s.position % s.words.length) 0, ⟨s.words, s.position + 1⟩)

/-- The low half of the next word. -/
def next32 (s : WordCycle) : UInt32 × WordCycle :=
  let (w, s) := s.next64
  (w.toUInt32, s)

/-- Once round, every word has been tried. -/
instance : WordSource WordCycle := ⟨next32, next64, fun s => s.words.length⟩

end WordCycle

end Formulary.Sample
