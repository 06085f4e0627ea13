import Formulary.Proofs.Page.Binary

/-!
Bands of any plan at all. Its height may be zero, infinite or no number, and so may those of its
slices, which may have any numbers for their places: what an edge is computed from is held between
the first row and the last, and what is no number counts as the first. So no band reaches beyond the
picture, and no check in the computation fails.
-/

namespace Formulary

open Number

namespace Number.Binary

variable {f : Format} {hi x : Binary f}

theorem isAtMost_numbers {a b : Rat} (le : a ≤ b) :
    (number a : Binary f).isAtMost (number b) = true := by
  have less : (number b : Binary f).less (number a) = false := decide_eq_false (not_lt.2 le)
  unfold isAtMost
  rw [less]
  rfl

theorem clamp?_of_isAtMost {lo : Binary f} (le : lo.isAtMost hi = true) :
    clamp? lo hi x = some (Scalar.clamp lo hi x) := if_pos le

/-- What is held below a bound is not above it. -/
theorem atMost_clamp {lo bound : Rat} (le : lo ≤ bound) :
    (Scalar.clamp (number lo) (number bound) x : Binary f).AtMost bound := by
  unfold Scalar.clamp
  split
  · exact atMost_number.2 le
  split
  · exact atMost_number.2 le_rfl
  · next within => exact Bool.eq_false_iff.2 within

end Number.Binary

namespace Page

variable {p : Plan Binary64} {rows : Nat}

theorem heldRow_le (small : rows < UInt32.size) (position : Binary64) :
    heldRow rows position ≤ rows := by
  have digits : rows < 2 ^ 53 := small.trans (by decide)
  rw [heldRow, ofNat_binary64 digits, ofNat_binary64 (by decide), Nat.cast_zero]
  exact Binary.toNatWithin_le (Binary.atMost_clamp rows.cast_nonneg)

namespace Plan

theorem edge_le_sourceHeight (word : p.sourceHeight < UInt32.size) (u : Binary64) :
    p.edge u ≤ p.sourceHeight := by
  rw [edge_eq]
  exact heldRow_le word _

theorem edge?_eq (word : p.sourceHeight < UInt32.size) (u : Binary64) :
    p.edge? u = some (p.edge u) := by
  have digits : p.sourceHeight < 2 ^ 53 := word.trans (by decide)
  have order : (Scalar.ofNat 0 : Binary64).isAtMost (Scalar.ofNat p.sourceHeight) = true := by
    rw [ofNat_binary64 digits, ofNat_binary64 (by decide)]
    exact Binary.isAtMost_numbers (Nat.cast_le.2 (Nat.zero_le _))
  simp only [edge?, Binary.clamp?_of_isAtMost order]
  rfl

theorem band?_eq (word : p.sourceHeight < UInt32.size) (s : Slice Binary64) :
    p.band? s = some (p.band s) := by
  simp only [band?, band, edge?_eq word]
  split <;> rfl

theorem bands?_eq (word : p.sourceHeight < UInt32.size) : p.bands? = some p.bands := by
  have each : p.band? = fun s => pure (p.band s) := funext (band?_eq word)
  rw [bands?, each, List.mapM_pure]
  rfl

theorem band_bottom_le (word : p.sourceHeight < UInt32.size) (s : Slice Binary64) :
    (p.band s).bottom ≤ p.sourceHeight := by
  have top := edge_le_sourceHeight word s.offset
  have bottom := edge_le_sourceHeight word (s.offset + s.height)
  simp only [band, Band.bottom]
  split <;> omega

theorem band_bottom_of_last (word : p.sourceHeight < UInt32.size) {s : Slice Binary64}
    (last : s.index = p.slices.length - 1) : (p.band s).bottom = p.sourceHeight := by
  have top := edge_le_sourceHeight word s.offset
  simp only [band, Band.bottom, if_pos last]
  omega

end Plan

/-- Whatever a plan holds, its bands are computed without a failure, one for each slice. Each lies
among the rows of the picture, so that its end is a word, and one whose slice has the last number
ends at the bottom. -/
theorem bands_within (p : Plan Binary64) (word : p.sourceHeight < UInt32.size) :
    p.bands? = some p.bands ∧ p.bands.length = p.slices.length ∧
    List.Forall₂ (fun s b => b.top ≤ p.sourceHeight ∧ b.bottom ≤ p.sourceHeight ∧
      b.bottom? = some b.bottom ∧ (s.index = p.slices.length - 1 → b.bottom = p.sourceHeight))
      p.slices p.bands := by
  refine ⟨Plan.bands?_eq word, List.length_map _, ?_⟩
  refine List.forall₂_map_right_iff.2 (List.forall₂_same.2 fun s _ => ?_)
  have bottom := Plan.band_bottom_le word s
  exact ⟨Plan.edge_le_sourceHeight word s.offset, bottom, if_pos (bottom.trans_lt word),
    Plan.band_bottom_of_last word⟩

/-- A picture without a height on paper, two slices that both have the last number, and distances
that are infinite, below zero and no numbers. -/
theorem bands_within_no_height :
    let p : Plan Binary64 := ⟨⟨.nan, .infinity true⟩, 0, 7, .number 0,
      [⟨3, .nan, .number 1⟩, ⟨0, .infinity false, .infinity true⟩, ⟨3, .number (-2), .number 0⟩,
       ⟨9, .negativeZero, .number 1⟩]⟩
    p.bands = [⟨0, 7⟩, ⟨7, 0⟩, ⟨0, 7⟩, ⟨0, 7⟩] ∧ p.bands? = some p.bands ∧
      p.bands.length = p.slices.length := by
  intro p
  obtain ⟨computed, each, -⟩ := bands_within p (by decide)
  exact ⟨by decide +kernel, computed, each⟩

end Page

end Formulary
