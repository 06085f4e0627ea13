import Formulary.Page.Plan
import Mathlib.Data.Rat.Floor
import Mathlib.Tactic.Linarith

/-!
What a plan holds. A plan is settled by its page, the size of the picture and the number of pages:
the height of the picture is scaled to the width of the page, and the slices are cut off one after
the other. In exact numbers the pages reach down to the bottom of the picture, but for less than the
tolerance.
-/

namespace Formulary.Page

open Number

/-! ## Plans in any arithmetic -/

section

variable {α : Type} [Scalar α] {width height : Nat} {page : Size α} {p : Plan α}

/-- The plan cuts a picture of `width` by `height` pixels into as many pages as it fills. -/
structure Plan.Cuts (p : Plan α) (width height : Nat) : Prop where
  sourceWidth : p.sourceWidth = width
  sourceHeight : p.sourceHeight = height
  width_pos : 0 < width
  height_pos : 0 < height
  isValid : p.page.isValid = true
  scaledHeight : p.scaledHeight = Page.scaledHeight width height p.page
  few : Scalar.less (Scalar.ofNat mostPages) (pagesNeeded p.scaledHeight p.page) = false
  pageCount : p.pageCount = Scalar.toNatWithin countLimit (pagesNeeded p.scaledHeight p.page)
  slices : p.slices = (List.range p.pageCount).map (sliceAt p.scaledHeight p.page)

theorem plan_eq_ok (h : plan width height page = .ok p) : p.page = page ∧ p.Cuts width height := by
  unfold plan at h
  split at h
  · cases h
  · next valid =>
    simp only [not_or, Bool.not_eq_false] at valid
    obtain ⟨hw, hh, isValid⟩ := valid
    simp only at h
    split at h
    · cases h
    · next few =>
      have count (pages : Nat) (f : Nat → Slice α) : ((List.range pages).map f).length = pages := by
        rw [List.length_map, List.length_range]
      cases h
      refine ⟨rfl, rfl, rfl, Nat.pos_of_ne_zero hw, Nat.pos_of_ne_zero hh, isValid, rfl,
        Bool.eq_false_iff.2 few, count _ _, ?_⟩
      rw [Plan.pageCount, count]

/-- A picture that has pixels is cut for a page that has a size, unless it fills too many. -/
theorem plan_of_valid (hw : 0 < width) (hh : 0 < height) (valid : page.isValid = true) :
    plan width height page =
      let scaled := scaledHeight width height page
      let pages := pagesNeeded scaled page
      let count := Scalar.toNatWithin countLimit pages
      if Scalar.less (Scalar.ofNat mostPages) pages then .error (.tooManyPages count)
      else .ok ⟨page, width, height, scaled, (List.range count).map (sliceAt scaled page)⟩ := by
  unfold plan
  rw [if_neg]
  simp [hw.ne', hh.ne', valid]

namespace Plan.Cuts

variable (h : p.Cuts width height)
include h

theorem getElem?_slices {i : Nat} {s : Slice α} :
    p.slices[i]? = some s ↔ i < p.pageCount ∧ s = sliceAt p.scaledHeight p.page i := by
  rw [h.slices, List.getElem?_map, Option.map_eq_some_iff]
  constructor
  · rintro ⟨j, hj, rfl⟩
    obtain ⟨lt, rfl⟩ := List.getElem?_eq_some_iff.1 hj
    rw [List.getElem_range]
    exact ⟨by simpa using lt, rfl⟩
  · rintro ⟨lt, rfl⟩
    exact ⟨i, List.getElem?_range lt, rfl⟩

theorem getElem_slices {i : Nat} (hi : i < p.slices.length) :
    p.slices[i] = sliceAt p.scaledHeight p.page i :=
  (h.getElem?_slices.1 (List.getElem?_eq_getElem hi)).2

end Plan.Cuts

end

/-! ## Plans in exact numbers -/

section

variable {width height : Nat} {p : Plan Rat}

theorem ofNat_eq_cast (n : Nat) : (Scalar.ofNat n : Rat) = n := by
  change (n : Rat) / ((Nat.pow 10 0 : Nat) : Rat) = n
  simp

theorem isPositive_iff {x : Rat} : Scalar.isPositive x = true ↔ 0 < x := by
  change (true && decide ((Scalar.ofNat 0 : Rat) < x)) = true ↔ _
  rw [ofNat_eq_cast, Bool.true_and, decide_eq_true_iff, Nat.cast_zero]

theorem isValid_iff {page : Size Rat} :
    page.isValid = true ↔ 0 < page.width ∧ 0 < page.height := by
  rw [Size.isValid, Bool.and_eq_true, isPositive_iff, isPositive_iff]

theorem scaledHeight_eq_div (width height : Nat) (page : Size Rat) :
    scaledHeight width height page = page.width * height / width := by
  change page.width * Scalar.ofNat height / Scalar.ofNat width = _
  rw [ofNat_eq_cast, ofNat_eq_cast]

theorem tolerance_eq : (tolerance : Rat) = 1 / 10 ^ 9 := by
  change ((1 : Nat) : Rat) / ((Nat.pow 10 9 : Nat) : Rat) = _
  norm_num

/-- The number of pages is whole. -/
theorem pagesNeeded_eq (scaled : Rat) (page : Size Rat) :
    pagesNeeded scaled page = (max (scaled / page.height - 1 / 10 ^ 9).ceil 1 : Int) := by
  change (if ((scaled / page.height - tolerance).ceil : Rat) < Scalar.ofNat 1 then Scalar.ofNat 1
    else ((scaled / page.height - tolerance).ceil : Rat)) = _
  rw [ofNat_eq_cast, tolerance_eq, Nat.cast_one]
  split
  · next lt =>
    rw [max_eq_right (by exact_mod_cast lt.le), Int.cast_one]
  · next ge =>
    rw [max_eq_left (by exact_mod_cast not_lt.1 ge)]

theorem sliceAt_offset (scaled : Rat) (page : Size Rat) (i : Nat) :
    (sliceAt scaled page i).offset = i * page.height := by
  change Scalar.ofNat i * page.height = _
  rw [ofNat_eq_cast]

theorem sliceAt_height (scaled : Rat) (page : Size Rat) (i : Nat) :
    (sliceAt scaled page i).height = min page.height (scaled - i * page.height) := by
  change (if scaled - Scalar.ofNat i * page.height < page.height then
    scaled - Scalar.ofNat i * page.height else page.height) = _
  rw [ofNat_eq_cast]
  split
  · next lt => exact (min_eq_right lt.le).symm
  · next ge => exact (min_eq_left (not_lt.1 ge)).symm

/-- The slice reaches from its offset down by its height. -/
def Slice.Contains (s : Slice Rat) (distance : Rat) : Prop :=
  s.offset ≤ distance ∧ distance ≤ s.offset + s.height

/-- A slice holds as much of the picture as a page below its offset has room for. -/
theorem sliceAt_contains_iff {scaled : Rat} {page : Size Rat} {i : Nat} {distance : Rat}
    (le : distance ≤ scaled) : (sliceAt scaled page i).Contains distance ↔
      (sliceAt scaled page i).offset ≤ distance ∧
        distance ≤ (sliceAt scaled page i).offset + page.height := by
  refine and_congr_right fun _ => ?_
  rw [sliceAt_offset, sliceAt_height, ← sub_le_iff_le_add', le_min_iff, sub_le_iff_le_add']
  exact and_iff_left (sub_le_sub_right le _)

/-- Pages of one height, one below the other, leave no gap. -/
theorem exists_page {height distance : Rat} {pages : Nat} (nonneg : 0 ≤ distance)
    (le : distance ≤ (pages + 1 : Nat) * height) :
    ∃ i < pages + 1, i * height ≤ distance ∧ distance ≤ i * height + height := by
  induction pages with
  | zero => exact ⟨0, by simp, by simpa using nonneg, by simpa using le⟩
  | succ pages ih =>
    by_cases above : distance ≤ (pages + 1 : Nat) * height
    · obtain ⟨i, hi, found⟩ := ih above
      exact ⟨i, Nat.lt_succ_of_lt hi, found⟩
    · refine ⟨pages + 1, Nat.lt_succ_self _, (not_le.1 above).le, ?_⟩
      rwa [← add_one_mul, ← Nat.cast_add_one]

/-- Such pages meet in their edges only. -/
theorem eq_of_page_lt {height distance : Rat} {i j : Nat} (pos : 0 < height) (lt : i < j)
    (below : j * height ≤ distance) (above : distance ≤ i * height + height) :
    distance = j * height := by
  have next : (i + 1 : Rat) ≤ j := by exact_mod_cast lt
  have := mul_le_mul_of_nonneg_right next pos.le
  linarith

namespace Plan.Cuts

variable (h : p.Cuts width height)
include h

theorem page_width_pos : 0 < p.page.width := (isValid_iff.1 h.isValid).1

theorem page_height_pos : 0 < p.page.height := (isValid_iff.1 h.isValid).2

theorem scaledHeight_eq : p.scaledHeight = p.page.width * height / width := by
  rw [h.scaledHeight, scaledHeight_eq_div]

theorem scaledHeight_pos : 0 < p.scaledHeight := by
  have hw : (0 : Rat) < width := Nat.cast_pos.2 h.width_pos
  have hh : (0 : Rat) < height := Nat.cast_pos.2 h.height_pos
  rw [h.scaledHeight_eq]
  exact div_pos (mul_pos h.page_width_pos hh) hw

theorem pageCount_eq :
    (p.pageCount : Int) = max (p.scaledHeight / p.page.height - 1 / 10 ^ 9).ceil 1 := by
  have few := h.few
  have count := h.pageCount
  rw [pagesNeeded_eq] at few count
  generalize hpages : max (p.scaledHeight / p.page.height - 1 / 10 ^ 9).ceil 1 = pages at few count
  have one_le : 1 ≤ pages := hpages ▸ le_max_right _ _
  have few : ¬ (Scalar.ofNat mostPages : Rat) < pages := of_decide_eq_false few
  rw [ofNat_eq_cast, not_lt] at few
  have few : pages ≤ mostPages := by exact_mod_cast few
  change p.pageCount = min (pages : Rat).floor.toNat countLimit at count
  have limit : mostPages ≤ countLimit := by decide
  rw [Rat.floor_intCast] at count
  omega

/-- The pages reach down to the bottom of the picture, but for less than the tolerance. -/
theorem scaledHeight_le : p.scaledHeight ≤ (p.pageCount + 1 / 10 ^ 9) * p.page.height := by
  have count : (p.scaledHeight / p.page.height - 1 / 10 ^ 9).ceil ≤ (p.pageCount : Int) := by
    rw [h.pageCount_eq]
    exact le_max_left _ _
  have count : p.scaledHeight / p.page.height - 1 / 10 ^ 9 ≤ (p.pageCount : Rat) := by
    exact_mod_cast Rat.ceil_le_iff.1 count
  exact (div_le_iff₀ h.page_height_pos).1 (sub_le_iff_le_add.1 count)

theorem exists_page_of_le {distance : Rat} (nonneg : 0 ≤ distance)
    (le : distance ≤ p.pageCount * p.page.height) : ∃ i < p.pageCount,
      i * p.page.height ≤ distance ∧ distance ≤ i * p.page.height + p.page.height := by
  have one_le : (1 : Int) ≤ p.pageCount := by
    rw [h.pageCount_eq]
    exact le_max_right _ _
  obtain ⟨pages, count⟩ : ∃ pages, p.pageCount = pages + 1 := ⟨p.pageCount - 1, by omega⟩
  rw [count] at le ⊢
  exact exists_page nonneg le

/-- Off the offsets of later slices, no page but one holds a point. -/
theorem page_unique {i j : Nat} {distance : Rat}
    (apart : ∀ s ∈ p.slices, s.isFirst = false → distance ≠ s.offset)
    (hi : i < p.pageCount) (above : i * p.page.height ≤ distance)
    (below : distance ≤ i * p.page.height + p.page.height)
    (hj : j < p.pageCount) (above' : j * p.page.height ≤ distance)
    (below' : distance ≤ j * p.page.height + p.page.height) : j = i := by
  have edge {k : Nat} (hk : k < p.pageCount) (pos : 0 < k) : distance ≠ k * p.page.height := by
    have mem : sliceAt p.scaledHeight p.page k ∈ p.slices := by
      rw [h.slices]
      exact List.mem_map_of_mem (List.mem_range.2 hk)
    rw [← sliceAt_offset p.scaledHeight]
    exact apart _ mem (beq_eq_false_iff_ne.2 pos.ne')
  rcases Nat.lt_trichotomy j i with lt | eq | gt
  · exact absurd (eq_of_page_lt h.page_height_pos lt above below') (edge hi (by omega))
  · exact eq
  · exact absurd (eq_of_page_lt h.page_height_pos gt above' below) (edge hj (by omega))

end Plan.Cuts

end

end Formulary.Page
