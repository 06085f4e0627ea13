import Formulary.Proofs.Number.Unsigned
import Formulary.Proofs.Outcome
import Formulary.Proofs.Page.Band
import Formulary.Proofs.Page.Plan

/-!
Page plans in binary floating point. Offsets and heights of slices are numbers without a sign, and
rows keep the order of the distances they are rounded from; so the first band starts at the first
row and no band ends before it starts. What rounding may do is to part the end of a slice from the
offset of the next one.
-/

namespace Formulary.Page

open Number

/-! ## Rows -/

section

variable {rows : Nat} {v : Rat}

theorem ofNat_binary64 {n : Nat} (lt : n < 2 ^ 53) : (Scalar.ofNat n : Binary64) = .number n :=
  Binary.ofNat_eq_number lt (by decide) (by decide)

/-- The row at a whole position, held between the first row and the last. -/
def heldRow (rows : Nat) (position : Binary64) : Nat :=
  Scalar.toNatWithin (UInt32.size - 1)
    (Scalar.clamp (Scalar.ofNat 0) (Scalar.ofNat rows) position)

theorem heldRow_number (small : rows < 2 ^ 32) (nonneg : 0 ≤ v) :
    heldRow rows (.number v) = min v.floor.toNat rows := by
  have bound : rows ≤ UInt32.size - 1 := Nat.le_sub_one_of_lt small
  rw [heldRow, ofNat_binary64 (by omega), ofNat_binary64 (by omega), Nat.cast_zero]
  have below : Scalar.less (.number v : Binary64) (.number 0) = false :=
    decide_eq_false (not_lt.2 nonneg)
  have above : Scalar.less (.number rows : Binary64) (.number v) = decide ((rows : Rat) < v) := rfl
  rw [Scalar.clamp, below, if_neg Bool.false_ne_true, above]
  split
  · next beyond =>
    have beyond : (rows : Int) ≤ v.floor := Rat.le_floor_iff.2 (of_decide_eq_true beyond).le
    change min (rows : Rat).floor.toNat (UInt32.size - 1) = _
    rw [← Int.cast_natCast, Rat.floor_intCast]
    omega
  · next within =>
    have within : v ≤ ((rows : Int) : Rat) := not_lt.1 fun lt => within (decide_eq_true lt)
    have within := Rat.floor_monotone within
    rw [Rat.floor_intCast] at within
    change min v.floor.toNat (UInt32.size - 1) = _
    omega

theorem heldRow_infinity (small : rows < 2 ^ 32) : heldRow rows (.infinity false) = rows := by
  have bound : rows ≤ UInt32.size - 1 := Nat.le_sub_one_of_lt small
  rw [heldRow, ofNat_binary64 (by omega), ofNat_binary64 (by omega)]
  change min (rows : Rat).floor.toNat (UInt32.size - 1) = _
  rw [← Int.cast_natCast, Rat.floor_intCast]
  omega

theorem heldRow_nan (small : rows < 2 ^ 32) : heldRow rows .nan = 0 := by
  rw [heldRow, ofNat_binary64 (by omega), ofNat_binary64 (by omega)]
  rfl

/-- Rounding to a whole number does not leave the numbers that are far beyond all rows. -/
theorem heldRow_roundAway (small : rows < 2 ^ 32) (nonneg : 0 ≤ v) :
    heldRow rows (Scalar.roundAway (.number v)) = min (nearestAway v).toNat rows := by
  have whole : (Scalar.roundAway (.number v) : Binary64) = Binary.whole (nearestAway v) v := rfl
  rw [whole, Binary.whole]
  split
  · next zero =>
    rw [zero, decide_eq_false (not_lt.2 nonneg)]
    exact heldRow_number small le_rfl
  obtain ⟨n, hn⟩ := Int.eq_ofNat_of_zero_le (nearestAway_nonneg nonneg)
  rw [hn, Int.cast_natCast, Int.toNat_natCast]
  rcases Nat.lt_or_ge n (2 ^ 53) with digits | huge
  · rw [Binary.round_natCast digits (by decide) (by decide), heldRow_number small n.cast_nonneg,
      ← Int.cast_natCast, Rat.floor_intCast, Int.toNat_natCast]
  · rcases Binary.round_cases (f := binary64) n.cast_nonneg with infinite | ⟨number, -⟩
    · rw [infinite, heldRow_infinity small]
      omega
    · have power : binary64.Holds (2 ^ (53 : Int)) := holds_zpow (by decide) (by decide)
      have above := le_nearestOnGrid_of_holds (y := n) (by decide) (zpow_two_pos _).le
        (by exact_mod_cast huge) power
      have floor : 2 ^ 53 ≤ (nearestOnGrid binary64 n).floor :=
        Rat.le_floor_iff.2 (by exact_mod_cast above)
      rw [number, heldRow_number small (nearestOnGrid_nonneg n.cast_nonneg)]
      omega

theorem heldRow_roundAway_mono {u v : Binary64} (small : rows < 2 ^ 32)
    (le : Binary.UnsignedLe u v) :
    heldRow rows (Scalar.roundAway u) ≤ heldRow rows (Scalar.roundAway v) := by
  cases le with
  | numbers nonneg le =>
    rw [heldRow_roundAway small nonneg, heldRow_roundAway small (nonneg.trans le)]
    have := nearestAway_mono le
    omega
  | infinite nonneg =>
    rw [heldRow_roundAway small nonneg]
    exact (min_le_right _ _).trans (heldRow_infinity small).ge
  | infinities => exact le_rfl

end

/-! ## Counting pages -/

section

variable {width height : Nat} {page : Size Binary64} {p : Plan Binary64} {scaled tall : Rat}

theorem isPositive_number {x : Binary64} (h : Scalar.isPositive x = true) :
    ∃ v, x = .number v ∧ 0 < v := by
  rw [Scalar.isPositive, Bool.and_eq_true, ofNat_binary64 (by norm_num), Nat.cast_zero] at h
  obtain ⟨finite, less⟩ := h
  cases x with
  | number v => exact ⟨v, rfl, of_decide_eq_true less⟩
  | negativeZero => exact absurd (of_decide_eq_true (p := (0 : Rat) < 0) less) (lt_irrefl 0)
  | infinity => cases finite
  | nan => cases finite

theorem tolerance_number : ∃ t, (tolerance : Binary64) = .number t ∧ 0 < t :=
  ⟨4835703278458517 / 4835703278458516698824704, by decide +kernel, by norm_num⟩

/-- A picture beyond all numbers needs as many pages. -/
theorem pagesNeeded_infinity {height : Binary64}
    (quotient : height / page.height = .infinity false) :
    pagesNeeded height page = .infinity false := by
  obtain ⟨t, ht, -⟩ := tolerance_number
  rw [pagesNeeded, quotient, ht, ofNat_binary64 (by norm_num), Binary.infinity_sub_number]
  rfl

/-- The numbers that a plan is computed from. -/
structure Plan.Numbers (p : Plan Binary64) (scaled tall : Rat) : Prop where
  scaledHeight : p.scaledHeight = .number scaled
  nonneg : 0 ≤ scaled
  holds : binary64.Holds scaled
  below : scaled < 2 ^ binary64.limit
  height : p.page.height = .number tall
  pos : 0 < tall

theorem Plan.Cuts.few_pages (h : p.Cuts width height) :
    (pagesNeeded p.scaledHeight p.page).AtMost (1000 : Nat) := by
  have few := h.few
  rwa [ofNat_binary64 (by decide)] at few

theorem Plan.Cuts.quotient_ne_infinity (h : p.Cuts width height) :
    p.scaledHeight / p.page.height ≠ .infinity false := fun quotient => by
  have few := h.few_pages
  rw [pagesNeeded_infinity quotient] at few
  exact Binary.not_atMost_infinity few

theorem Plan.Cuts.numbers (h : p.Cuts width height) (hw : width < 2 ^ 32) (hh : height < 2 ^ 32) :
    ∃ scaled tall, p.Numbers scaled tall := by
  have valid := h.isValid
  rw [Size.isValid, Bool.and_eq_true] at valid
  obtain ⟨wide, hwide, widePos⟩ := isPositive_number valid.1
  obtain ⟨tall, htall, pos⟩ := isPositive_number valid.2
  have widthPos : (0 : Rat) < width := Nat.cast_pos.2 h.width_pos
  have heightNonneg : (0 : Rat) ≤ height := Nat.cast_nonneg height
  have eq : p.scaledHeight = .number wide * .number height / .number width := by
    rw [h.scaledHeight, Page.scaledHeight, hwide, ofNat_binary64 (by omega),
      ofNat_binary64 (by omega)]
  -- An infinite height would fill too many pages.
  have finite : p.scaledHeight ≠ .infinity false := fun infinite => by
    have := h.quotient_ne_infinity
    rw [infinite, htall] at this
    exact this (Binary.infinity_div_number pos)
  have product := mul_nonneg widePos.le heightNonneg
  have quotient := div_nonneg (nearestOnGrid_nonneg (f := binary64) product) widthPos.le
  rw [Binary.number_mul_number widePos.le heightNonneg] at eq
  rcases Binary.round_cases (f := binary64) product with infinite | ⟨number, -⟩
  · rw [infinite] at eq
    exact absurd (eq.trans (Binary.infinity_div_number widthPos)) finite
  rw [number, Binary.number_div_number (nearestOnGrid_nonneg product) widthPos] at eq
  rcases Binary.round_cases (f := binary64) quotient with infinite | ⟨number, below⟩
  · exact absurd (eq.trans infinite) finite
  · exact ⟨_, tall, eq.trans number, nearestOnGrid_nonneg quotient,
      holds_nearestOnGrid (by decide) quotient, below, htall, pos⟩

/-- A picture that is no higher than some pages needs no more. -/
theorem Plan.Cuts.pageCount_le (h : p.Cuts width height) (n : p.Numbers scaled tall) {i : Nat}
    (one : 1 ≤ i) (small : i < 2 ^ 53) (le : scaled ≤ i * tall) : p.pageCount ≤ i := by
  have holds : binary64.Holds i := holds_natCast small (by decide)
  have below : (i : Rat) < 2 ^ binary64.limit := by
    refine lt_of_lt_of_le (b := 2 ^ (53 : Int)) (by exact_mod_cast small) ?_
    exact zpow_le_zpow_right₀ one_le_two (by decide)
  obtain ⟨t, ht, pos⟩ := tolerance_number
  have nonneg := div_nonneg n.nonneg n.pos.le
  have quotient : p.scaledHeight / p.page.height = Binary.round (scaled / tall) := by
    rw [n.scaledHeight, n.height, Binary.number_div_number n.nonneg n.pos]
  rcases Binary.round_cases (f := binary64) nonneg with infinite | ⟨number, -⟩
  · exact absurd (quotient.trans infinite) h.quotient_ne_infinity
  have grid := nearestOnGrid_le_of_holds (by decide) nonneg ((div_le_iff₀ n.pos).2 le) holds
  have rest : (Binary.round (nearestOnGrid binary64 (scaled / tall) - t) : Binary64).AtMost i :=
    Binary.atMost_round (by decide) i.cast_nonneg holds below (by linarith)
  rw [h.pageCount, pagesNeeded, quotient, number, ht, Binary.number_sub_number pos.ne',
    ofNat_binary64 (by decide)]
  refine Binary.toNatWithin_le (Binary.atMost_greatest ?_ ?_)
  · exact Binary.atMost_ceil (by decide) holds below rest
  · exact Binary.atMost_number.2 (by exact_mod_cast one)

theorem Plan.Cuts.pageCount_small (h : p.Cuts width height) : p.pageCount ≤ 1000 := by
  rw [h.pageCount]
  exact Binary.toNatWithin_le h.few_pages

theorem Plan.Cuts.pageCount_pos (h : p.Cuts width height) : 1 ≤ p.pageCount := by
  rw [h.pageCount, pagesNeeded, ofNat_binary64 (by decide), Nat.cast_one]
  exact Binary.one_le_toNatWithin_greatest (by decide)

/-- Every page but the first starts above the lower edge of the picture. -/
theorem Plan.Cuts.offset_le (h : p.Cuts width height) (n : p.Numbers scaled tall) {i : Nat}
    (hi : i < p.pageCount) : i * tall ≤ scaled := by
  rcases Nat.eq_zero_or_pos i with rfl | pos
  · simpa using n.nonneg
  · have := h.pageCount_small
    by_contra above
    exact absurd (h.pageCount_le n pos (by omega) (not_le.1 above).le) (by omega)

/-! ## Slices -/

/-- The offset and the height of a slice. -/
structure Slice.Spans (s : Slice Binary64) (offset height : Rat) : Prop where
  offset_eq : s.offset = .number offset
  offset_nonneg : 0 ≤ offset
  holds : binary64.Holds offset
  below : offset < 2 ^ binary64.limit
  height_eq : s.height = .number height
  height_nonneg : 0 ≤ height

theorem Plan.Cuts.spans (h : p.Cuts width height) (n : p.Numbers scaled tall) {i : Nat}
    (hi : i < p.pageCount) : (sliceAt p.scaledHeight p.page i).Spans
      (nearestOnGrid binary64 (i * tall))
      (min tall (nearestOnGrid binary64 (scaled - nearestOnGrid binary64 (i * tall)))) := by
  have small := h.pageCount_small
  have product : 0 ≤ i * tall := mul_nonneg i.cast_nonneg n.pos.le
  have offset := Binary.number_mul_number (f := binary64) i.cast_nonneg n.pos.le
  have nonneg := nearestOnGrid_nonneg (f := binary64) product
  have holds := holds_nearestOnGrid (f := binary64) (by decide) product
  have le := nearestOnGrid_le_of_holds (by decide) product (h.offset_le n hi) n.holds
  rw [Binary.round_of_nonneg product, if_neg (not_le.2 (le.trans_lt n.below)),
    ← ofNat_binary64 (by omega), ← n.height] at offset
  generalize nearestOnGrid binary64 (i * tall) = start at *
  have rest : p.scaledHeight - .number start = Binary.round (scaled - start) := by
    rw [n.scaledHeight]
    by_cases zero : start = 0
    · rw [zero, sub_zero, Binary.number_sub_zero, Binary.round_of_holds n.nonneg n.holds n.below]
    · exact Binary.number_sub_number zero
  have within := nearestOnGrid_le_of_holds (by decide) (sub_nonneg.2 le)
    (sub_le_self scaled nonneg) n.holds
  rw [Binary.round_of_nonneg (sub_nonneg.2 le), if_neg (not_le.2 (within.trans_lt n.below))] at rest
  refine ⟨offset, nonneg, holds, le.trans_lt n.below, ?_,
    le_min n.pos.le (nearestOnGrid_nonneg (sub_nonneg.2 le))⟩
  rw [sliceAt, offset, rest, n.height, Binary.least_number]

/-! ## Bands -/

theorem Plan.edge_eq (p : Plan Binary64) (u : Binary64) : p.edge u = heldRow p.sourceHeight
    (Scalar.roundAway (u * (Scalar.ofNat p.sourceHeight / p.scaledHeight))) := rfl

/-- Rows to a millimetre: never so few that they are lost in rounding, but perhaps too many. -/
theorem Plan.Numbers.scale (n : p.Numbers scaled tall) (small : p.sourceHeight < 2 ^ 32)
    (pos : 0 < p.sourceHeight) :
    (Scalar.ofNat p.sourceHeight / p.scaledHeight : Binary64) = .infinity false ∨
      ∃ c, 0 < c ∧ (Scalar.ofNat p.sourceHeight / p.scaledHeight : Binary64) = .number c := by
  have one : (1 : Rat) ≤ p.sourceHeight := by exact_mod_cast pos
  rw [ofNat_binary64 (by omega), n.scaledHeight]
  rcases n.nonneg.eq_or_lt with zero | positive
  · rw [← zero]
    exact .inl (Binary.number_div_zero (by linarith))
  have nonneg : 0 ≤ (p.sourceHeight : Rat) / scaled := by positivity
  rw [Binary.number_div_number (by linarith) positive]
  refine (Binary.round_cases nonneg).imp_right fun ⟨number, _⟩ => ⟨_, ?_, number⟩
  have least : (2 : Rat) ^ (-1074 : Int) ≤ p.sourceHeight / scaled := by
    rw [le_div_iff₀ positive]
    calc (2 : Rat) ^ (-1074 : Int) * scaled
      _ ≤ 2 ^ (-1074 : Int) * 2 ^ (1024 : Int) :=
        mul_le_mul_of_nonneg_left n.below.le (zpow_two_pos _).le
      _ = 2 ^ (-50 : Int) := (zpow_add₀ two_ne_zero _ _).symm
      _ ≤ 1 := by norm_num
      _ ≤ p.sourceHeight := one
  exact (zpow_two_pos _).trans_le (le_nearestOnGrid_of_holds (by decide) (zpow_two_pos _).le least
    (holds_zpow (by decide) (by decide)))

/-- On an infinite scale the top of the picture is in the first row and all else beyond the last. -/
theorem heldRow_infinite_scale_mono {rows : Nat} {u v : Binary64} (small : rows < 2 ^ 32)
    (le : Binary.UnsignedLe u v) : heldRow rows (Scalar.roundAway (u * .infinity false)) ≤
      heldRow rows (Scalar.roundAway (v * .infinity false)) := by
  have top : heldRow rows (Scalar.roundAway (.number 0 * .infinity false)) = 0 := by
    rw [Binary.zero_mul_infinity]
    exact heldRow_nan small
  cases le with
  | numbers nonneg le =>
    rcases nonneg.eq_or_lt with rfl | pos
    · exact top.trans_le (Nat.zero_le _)
    · rw [Binary.number_mul_infinity pos, Binary.number_mul_infinity (pos.trans_le le)]
  | infinite nonneg =>
    rcases nonneg.eq_or_lt with rfl | pos
    · exact top.trans_le (Nat.zero_le _)
    · rw [Binary.number_mul_infinity pos, Binary.infinity_mul_infinity]
  | infinities => exact le_rfl

/-- Rows keep the order of the distances below the top of the picture. -/
theorem Plan.Numbers.edge_mono (n : p.Numbers scaled tall) (small : p.sourceHeight < 2 ^ 32)
    (pos : 0 < p.sourceHeight) {u v : Binary64} (le : Binary.UnsignedLe u v) :
    p.edge u ≤ p.edge v := by
  rw [edge_eq, edge_eq]
  rcases n.scale small pos with infinite | ⟨c, hc, number⟩
  · rw [infinite]
    exact heldRow_infinite_scale_mono small le
  · rw [number]
    exact heldRow_roundAway_mono small (Binary.mul_number_mono (by decide) le hc)

theorem Plan.Numbers.edge_zero (n : p.Numbers scaled tall) (small : p.sourceHeight < 2 ^ 32)
    (pos : 0 < p.sourceHeight) : p.edge (.number 0) = 0 := by
  rw [edge_eq]
  rcases n.scale small pos with infinite | ⟨c, hc, number⟩
  · rw [infinite, Binary.zero_mul_infinity]
    exact heldRow_nan small
  · rw [number, Binary.number_mul_number le_rfl hc.le, zero_mul]
    have whole : nearestAway 0 = 0 := by decide +kernel
    refine (heldRow_roundAway small le_rfl).trans ?_
    rw [whole]
    exact Nat.zero_min _

theorem Plan.Numbers.edge_infinity (n : p.Numbers scaled tall) (small : p.sourceHeight < 2 ^ 32)
    (pos : 0 < p.sourceHeight) : p.edge (.infinity false) = p.sourceHeight := by
  rw [edge_eq]
  rcases n.scale small pos with infinite | ⟨c, hc, number⟩
  · rw [infinite, Binary.infinity_mul_infinity]
    exact heldRow_infinity small
  · rw [number, Binary.infinity_mul_number hc]
    exact heldRow_infinity small

theorem Plan.Cuts.ordered (h : p.Cuts width height) (n : p.Numbers scaled tall)
    (small : height < 2 ^ 32) : p.Ordered := by
  have rows : p.sourceHeight < 2 ^ 32 := h.sourceHeight ▸ small
  have pos : 0 < p.sourceHeight := h.sourceHeight ▸ h.height_pos
  have found {s : Slice Binary64} (hs : s ∈ p.slices) :
      ∃ i < p.pageCount, s = sliceAt p.scaledHeight p.page i := by
    rw [h.slices] at hs
    obtain ⟨i, hi, rfl⟩ := List.mem_map.1 hs
    exact ⟨i, List.mem_range.1 hi, rfl⟩
  refine ⟨List.ne_nil_of_length_pos h.pageCount_pos, fun i hi => ?_, fun s hs => ?_,
    fun s hs => ?_, fun s hs => ?_⟩
  · rw [h.getElem_slices hi]
    rfl
  · rw [List.head?_eq_getElem?] at hs
    obtain ⟨hi, rfl⟩ := h.getElem?_slices.1 hs
    rw [(h.spans n hi).offset_eq, Nat.cast_zero, zero_mul, nearestOnGrid_zero]
    exact n.edge_zero rows pos
  · obtain ⟨i, hi, rfl⟩ := found hs
    have spans := h.spans n hi
    rw [spans.offset_eq, ← n.edge_infinity rows pos]
    exact n.edge_mono rows pos (.infinite spans.offset_nonneg)
  · obtain ⟨i, hi, rfl⟩ := found hs
    have spans := h.spans n hi
    rw [spans.offset_eq, spans.height_eq]
    have start : (.number _ : Binary64) = Binary.round _ :=
      (Binary.round_of_holds spans.offset_nonneg spans.holds spans.below).symm
    refine n.edge_mono rows pos ?_
    rw [Binary.number_add_number, start]
    exact Binary.round_mono (by decide) spans.offset_nonneg
      (le_add_of_nonneg_right spans.height_nonneg)

/-- The bands of a plan tile the rows of the picture just in case the end of every slice and the
offset of the next one, which are rounded apart, come to the same row. -/
theorem tiles_bands_iff (hw : width < 2 ^ 32) (hh : height < 2 ^ 32)
    (h : plan width height page = .ok p) : Tiles height p.bands ↔
      p.slices.IsChain fun s t => p.edge (s.offset + s.height) = p.edge t.offset := by
  obtain ⟨-, cuts⟩ := plan_eq_ok h
  obtain ⟨scaled, tall, n⟩ := cuts.numbers hw hh
  have tiles := (cuts.ordered n hh).tiles_bands
  rwa [cuts.sourceHeight] at tiles

theorem tiles_bands_iff_seven_pages : ∃ p : Plan Binary64,
    plan 90 826 ⟨Scalar.ofNat 216, Scalar.ofDecimal 3302 1⟩ = .ok p ∧ p.pageCount = 7 ∧
      (Tiles 826 p.bands ↔
        p.slices.IsChain fun s t => p.edge (s.offset + s.height) = p.edge t.offset) := by
  have computed : Plan.pageCount <$> plan 90 826
      (⟨Scalar.ofNat 216, Scalar.ofDecimal 3302 1⟩ : Size Binary64) = .ok 7 := by decide +kernel
  obtain ⟨p, hp, count⟩ := map_eq_ok computed
  exact ⟨p, hp, count, tiles_bands_iff (by decide) (by decide) hp⟩

/-- The end of one slice and the offset of the next one may come to different rows: here the last
but one band ends behind the row with which the last one starts. -/
theorem bands_overlap : ∃ p : Plan Binary64,
    plan 90 826 ⟨Scalar.ofNat 216, Scalar.ofDecimal 3302 1⟩ = .ok p ∧
      p.bands = [⟨0, 138⟩, ⟨138, 137⟩, ⟨275, 138⟩, ⟨413, 137⟩, ⟨550, 138⟩, ⟨688, 138⟩, ⟨825, 1⟩] ∧
      ¬ Tiles 826 p.bands := by
  have computed : Plan.bands <$> plan 90 826
      (⟨Scalar.ofNat 216, Scalar.ofDecimal 3302 1⟩ : Size Binary64) =
        .ok [⟨0, 138⟩, ⟨138, 137⟩, ⟨275, 138⟩, ⟨413, 137⟩, ⟨550, 138⟩, ⟨688, 138⟩, ⟨825, 1⟩] := by
    decide +kernel
  obtain ⟨p, hp, bands⟩ := map_eq_ok computed
  refine ⟨p, hp, bands, fun tiles => ?_⟩
  have sum := tiles.sum
  rw [bands] at sum
  exact absurd sum (by decide)

/-- Where the offsets of all pages are numbers of the format, nothing is rounded that matters. -/
theorem tiles_bands_of_exact (hw : width < 2 ^ 32) (hh : height < 2 ^ 32)
    (h : plan width height page = .ok p) (tall_eq : page.height = .number tall)
    (exact : ∀ i < p.pageCount, binary64.Holds (i * tall)) : Tiles height p.bands := by
  obtain ⟨page_eq, cuts⟩ := plan_eq_ok h
  obtain ⟨scaled, tall', n⟩ := cuts.numbers hw hh
  obtain rfl : tall = tall' := Binary.number.inj (tall_eq.symm.trans (page_eq ▸ n.height))
  rw [← cuts.sourceHeight, (cuts.ordered n hh).tiles_bands, List.isChain_iff_getElem]
  intro i hi
  rw [cuts.getElem_slices hi, cuts.getElem_slices (by omega)]
  change i + 1 < p.pageCount at hi
  have hi' : i < p.pageCount := by omega
  have start := cuts.spans n hi'
  have next := cuts.spans n hi
  rw [nearestOnGrid_of_holds (exact _ hi')] at start
  rw [nearestOnGrid_of_holds (exact _ hi)] at next
  -- The next page starts above the lower edge, so this one has its full height.
  have step : ((i + 1 : Nat) : Rat) * tall = i * tall + tall := by
    rw [Nat.cast_add_one, add_one_mul]
  have tallHolds : binary64.Holds tall := by
    have first := exact 1 (by omega)
    rwa [Nat.cast_one, one_mul] at first
  have room : tall ≤ nearestOnGrid binary64 (scaled - i * tall) := by
    have reach := cuts.offset_le n hi
    exact le_nearestOnGrid_of_holds (by decide) n.pos.le (by linarith) tallHolds
  rw [start.offset_eq, start.height_eq, next.offset_eq, min_eq_left room,
    Binary.number_add_number, ← step,
    Binary.round_of_holds next.offset_nonneg next.holds next.below]

/-- Pages that are a whole number of millimetres tall share out all rows. -/
theorem tiles_bands_of_whole {n : Nat} (hw : width < 2 ^ 32) (hh : height < 2 ^ 32)
    (small : n < 2 ^ 43) (h : plan width height page = .ok p) (tall_eq : page.height = .number n) :
    Tiles height p.bands := by
  refine tiles_bands_of_exact hw hh h tall_eq fun i hi => ?_
  have := (plan_eq_ok h).2.pageCount_small
  have digits : i * n < 2 ^ 53 := calc
    i * n ≤ 1000 * n := Nat.mul_le_mul_right n (by omega)
    _ < 2 ^ 53 := by omega
  rw [← Nat.cast_mul]
  exact holds_natCast digits (by decide)

end

end Formulary.Page
