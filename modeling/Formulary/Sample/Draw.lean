/-!
Random draws. A source gives words of 32 or 64 bits; everything else is drawn from those words, and
how many of them a draw takes is part of what it does, so that one seed always gives the same
values.
-/

namespace Formulary.Sample

/-- A source of random words, told by its state. -/
class WordSource (σ : Type) where
  next32 : σ → UInt32 × σ
  next64 : σ → UInt64 × σ
  /-- How often a draw that may be unfit is tried before it is given up. -/
  patience : σ → Nat

abbrev Draw (σ : Type) := StateM σ

namespace Draw

variable {σ : Type} [WordSource σ]

def word32 : Draw σ Nat := fun s =>
  let (w, s) := WordSource.next32 s
  (w.toNat, s)

def word64 : Draw σ Nat := fun s =>
  let (w, s) := WordSource.next64 s
  (w.toNat, s)

/-- A number below `n` from words below `base`: the whole part of the word's share of `n`. Where the
rest of that product could still be carried over, a second word decides whether it is. -/
def shareOf (base : Nat) (word : Draw σ Nat) (n : Nat) : Draw σ Nat := do
  let product := (← word) * n
  let share := product / base
  let rest := product % base
  if base - n < rest then
    let carried := (← word) * n / base
    pure (if base ≤ rest + carried then share + 1 else share)
  else pure share

def below (n : Nat) : Draw σ Nat := shareOf UInt32.size word32 n

def below64 (n : Nat) : Draw σ Nat := shareOf UInt64.size word64 n

/-- A number from `lo` up to `hi`, without `hi`. -/
def between (lo hi : Nat) : Draw σ Nat := (lo + ·) <$> below (hi - lo)

/-- True for the words of 64 bits below `bound`. -/
def chance (bound : Nat) : Draw σ Bool := (decide <| · < bound) <$> word64

def oneOf (pool : List String) : Draw σ String := (pool.getD · "") <$> below pool.length

def digits : Nat → Draw σ (List Char)
  | 0 => pure []
  | n + 1 => do
    let d ← below 10
    let ds ← digits n
    pure (Nat.digitChar d :: ds)

def alphanumerics : List Char :=
  "ABCDEFGHIJKLMNOPQRSTUVWXYZabcdefghijklmnopqrstuvwxyz0123456789".toList

/-- An index into the letters and figures: the first six bits of a word, drawn again while they are
too large, at most `patience` times. -/
def alphanumericIndex : Nat → Draw σ Nat
  | 0 => pure 0
  | patience + 1 => do
    let index := (← word32) >>> 26
    if index < alphanumerics.length then pure index else alphanumericIndex patience

def alphanumeric : Draw σ Char := do
  let index ← alphanumericIndex (WordSource.patience (← get))
  pure (alphanumerics.getD index 'A')

def alphanumericText : Nat → Draw σ (List Char)
  | 0 => pure []
  | n + 1 => do
    let c ← alphanumeric
    let cs ← alphanumericText n
    pure (c :: cs)

end Draw

end Formulary.Sample
