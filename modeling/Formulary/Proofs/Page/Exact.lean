import Formulary.Proofs.Number.Rounding
import Formulary.Proofs.Page.Band
import Formulary.Proofs.Page.Plan

/-!
Bands in exact numbers. Rows keep the order of the distances that they are rounded from, so slices
that go on from each other, however high they are, have bands that go on from each other. Only the
last one is held to the bottom of the picture, which no other passes.
-/

namespace Formulary.Page

open Number

section

variable {lo hi x y : Rat} {bound : Nat}

theorem clamp_eq (le : lo ≤ hi) : Scalar.clamp lo hi x = max lo (min x hi) := by
  change (if decide (x < lo) = true then lo else if decide (hi < x) = true then hi else x) = _
  simp only [decide_eq_true_eq]
  split
  · next below =>
    rw [max_eq_left ((min_le_left x hi).trans below.le)]
  · next above =>
    split
    · next beyond =>
      rw [min_eq_right beyond.le, max_eq_right le]
    · next within =>
      rw [min_eq_left (not_lt.1 within), max_eq_right (not_lt.1 above)]

theorem clamp_mono (held : lo ≤ hi) (le : x ≤ y) : Scalar.clamp lo hi x ≤ Scalar.clamp lo hi y := by
  rw [clamp_eq held, clamp_eq held]
  exact max_le_max_left lo (min_le_min_right hi le)

theorem toNatWithin_mono (le : x ≤ y) :
    Scalar.toNatWithin bound x ≤ Scalar.toNatWithin bound y := by
  change min x.floor.toNat bound ≤ min y.floor.toNat bound
  have := Rat.floor_monotone le
  omega

theorem toNatWithin_le_of_le {n : Nat} (le : x ≤ n) : Scalar.toNatWithin bound x ≤ n := by
  change min x.floor.toNat bound ≤ n
  have := Rat.floor_monotone le
  rw [← Int.cast_natCast, Rat.floor_intCast] at this
  omega

end

namespace Plan

variable {p : Plan Rat} {u v : Rat}

theorem edge_exact (p : Plan Rat) (u : Rat) : p.edge u = Scalar.toNatWithin (UInt32.size - 1)
    (Scalar.clamp (0 : Rat) p.sourceHeight
      (nearestAway (u * (p.sourceHeight / p.scaledHeight)) : Int)) := by
  change Scalar.toNatWithin (UInt32.size - 1) (Scalar.clamp (Scalar.ofNat 0 : Rat)
    (Scalar.ofNat p.sourceHeight)
      (nearestAway (u * (Scalar.ofNat p.sourceHeight / p.scaledHeight)) : Int)) = _
  rw [ofNat_eq_cast, ofNat_eq_cast, Nat.cast_zero]

theorem edge_le (p : Plan Rat) (u : Rat) : p.edge u ≤ p.sourceHeight := by
  have rows : (0 : Rat) ≤ p.sourceHeight := Nat.cast_nonneg _
  rw [edge_exact, clamp_eq rows]
  exact toNatWithin_le_of_le (max_le rows (min_le_right _ _))

theorem edge_zero (p : Plan Rat) : p.edge 0 = 0 := by
  have top : nearestAway 0 = 0 := by decide +kernel
  rw [edge_exact, zero_mul, top, Int.cast_zero, clamp_eq (Nat.cast_nonneg _),
    max_eq_left (min_le_left _ _)]
  rfl

theorem edge_mono (positive : 0 < p.scaledHeight) (le : u ≤ v) : p.edge u ≤ p.edge v := by
  have scale : (0 : Rat) ≤ p.sourceHeight / p.scaledHeight :=
    div_nonneg (Nat.cast_nonneg _) positive.le
  have rounded := nearestAway_mono (mul_le_mul_of_nonneg_right le scale)
  rw [edge_exact, edge_exact]
  exact toNatWithin_mono (clamp_mono (Nat.cast_nonneg _) (by exact_mod_cast rounded))

end Plan

/-- Slices that are numbered and go on from each other, from the top of the picture on, share out its
rows. Their heights may be unequal and zero, and they may reach past the bottom. -/
theorem tiles_bands_of_meeting (p : Plan Rat) (positive : 0 < p.scaledHeight)
    (nonempty : p.slices ≠ [])
    (index : ∀ (i : Nat) (s : Slice Rat), p.slices[i]? = some s → s.index = i)
    (front : ∀ s ∈ p.slices.head?, s.offset = 0) (heights : ∀ s ∈ p.slices, 0 ≤ s.height)
    (meet : p.slices.IsChain fun s t => s.offset + s.height = t.offset) :
    p.bands.length = p.slices.length ∧ Tiles p.sourceHeight p.bands := by
  have ordered : p.Ordered := by
    refine ⟨nonempty, fun i hi => index i _ (List.getElem?_eq_getElem hi), fun s hs => ?_,
      fun s _ => p.edge_le s.offset, fun s hs => ?_⟩
    · rw [front s hs]
      exact p.edge_zero
    · exact Plan.edge_mono positive (le_add_of_nonneg_right (heights s hs))
  refine ⟨List.length_map _, ordered.tiles_bands.2 (meet.imp fun s t same => ?_)⟩
  rw [same]

/-- Five slices of a picture of ten rows: one of them is empty, and the last two reach past the
bottom. -/
theorem tiles_bands_of_meeting_unequal :
    let p : Plan Rat := ⟨⟨3, 4⟩, 6, 10, 5,
      [⟨0, 0, 9 / 4⟩, ⟨1, 9 / 4, 0⟩, ⟨2, 9 / 4, 2⟩, ⟨3, 17 / 4, 7⟩, ⟨4, 45 / 4, 1⟩]⟩
    p.bands = [⟨0, 5⟩, ⟨5, 0⟩, ⟨5, 4⟩, ⟨9, 1⟩, ⟨10, 0⟩] ∧ Tiles 10 p.bands := by
  intro p
  refine ⟨by decide +kernel, ?_⟩
  have index : ∀ (i : Nat) (s : Slice Rat), p.slices[i]? = some s → s.index = i := by
    intro i s hs
    match i with
    | 0 | 1 | 2 | 3 | 4 => cases hs; rfl
    | _ + 5 => cases hs
  exact (tiles_bands_of_meeting p (by decide +kernel) (by decide) index (by decide +kernel)
    (by decide +kernel) (by decide +kernel)).2

end Formulary.Page
