import Formulary.Proofs.Page.Plan

/-!
What the slices of a plan are, in exact numbers. There are as many as the scaled picture fills pages,
and no fewer would do: each of them but the last is as high as a page, they follow each other, and
what they leave of the picture is within the tolerance.
-/

namespace Formulary.Page

open Number

/-- The slices divide a height into as few pages as hold it, but for the tolerance. -/
structure Plan.Divides (p : Plan Rat) (scaled : Rat) : Prop where
  scaledHeight : p.scaledHeight = scaled
  index : ∀ (i : Nat) (s : Slice Rat), p.slices[i]? = some s →
    s.index = i ∧ (s.isFirst = true ↔ i = 0)
  offset : ∀ (i : Nat) (s : Slice Rat), p.slices[i]? = some s → s.offset = i * p.page.height
  height : ∀ s ∈ p.slices, 0 < s.height ∧ s.height ≤ p.page.height
  /-- Every slice but the last fills its page, -/
  full : ∀ (i : Nat) (s : Slice Rat), p.slices[i]? = some s → i + 1 < p.pageCount →
    s.height = p.page.height
  /-- and ends where the next one begins. -/
  next : ∀ (i : Nat) (s t : Slice Rat), p.slices[i]? = some s → p.slices[i + 1]? = some t →
    s.offset + s.height = t.offset
  sum : (p.slices.map Slice.height).sum = min scaled (p.pageCount * p.page.height)
  rest : 0 ≤ scaled - (p.slices.map Slice.height).sum ∧
    scaled - (p.slices.map Slice.height).sum ≤ 1 / 10 ^ 9 * p.page.height
  /-- Fewer pages leave more than that. -/
  least : ∀ pages : Nat, 1 ≤ pages →
    scaled - min scaled (pages * p.page.height) ≤ 1 / 10 ^ 9 * p.page.height →
    p.pageCount ≤ pages

/-- Cut at the multiples of a height, up to the last multiple that it passes, a length comes apart
into pieces that make it up. -/
theorem sum_pieces {scaled height : Rat} {pages : Nat}
    (reach : ∀ i < pages, i * height ≤ scaled) (nonneg : 0 ≤ scaled) :
    ((List.range pages).map fun i : Nat => min height (scaled - i * height)).sum =
      min scaled (pages * height) := by
  induction pages with
  | zero => simp [nonneg]
  | succ n ih =>
    have above : n * height ≤ scaled := reach n (Nat.lt_succ_self n)
    have front := ih fun i hi => reach i (Nat.lt_succ_of_lt hi)
    rw [min_eq_right above] at front
    rw [List.range_succ, List.map_append, List.sum_append, front, List.map_singleton,
      List.sum_singleton, ← min_add_add_left, add_sub_cancel, min_comm, Nat.cast_succ, add_one_mul]

namespace Plan.Cuts

variable {width height : Nat} {p : Plan Rat} (h : p.Cuts width height)
include h

/-- A page is begun only where the pages before it leave more than the tolerance. -/
theorem lt_scaledHeight {i : Nat} (pos : 0 < i) (lt : i < p.pageCount) :
    (i + 1 / 10 ^ 9) * p.page.height < p.scaledHeight := by
  have count := h.pageCount_eq
  have below : (i : Int) < (p.scaledHeight / p.page.height - 1 / 10 ^ 9).ceil := by omega
  have below := Rat.lt_ceil_iff.1 below
  rw [Int.cast_natCast, lt_sub_iff_add_lt, lt_div_iff₀ h.page_height_pos] at below
  exact below

theorem offset_lt {i : Nat} (lt : i < p.pageCount) : i * p.page.height < p.scaledHeight := by
  rcases Nat.eq_zero_or_pos i with rfl | pos
  · simpa using h.scaledHeight_pos
  · refine lt_of_le_of_lt ?_ (h.lt_scaledHeight pos lt)
    exact mul_le_mul_of_nonneg_right (by norm_num) h.page_height_pos.le

theorem height_of_full {i : Nat} (lt : i + 1 < p.pageCount) :
    (sliceAt p.scaledHeight p.page i).height = p.page.height := by
  have next := h.offset_lt lt
  rw [Nat.cast_succ, add_one_mul] at next
  rw [sliceAt_height, min_eq_left]
  linarith

theorem sum_heights : (p.slices.map Slice.height).sum =
    min p.scaledHeight (p.pageCount * p.page.height) := by
  have reach : ∀ i < p.pageCount, i * p.page.height ≤ p.scaledHeight := by
    intro i lt
    exact (h.offset_lt lt).le
  rw [← sum_pieces reach h.scaledHeight_pos.le, h.slices, List.map_map]
  congr 2
  funext i
  exact sliceAt_height _ _ i

/-- A plan divides the height of its picture. -/
theorem divides : p.Divides p.scaledHeight := by
  have tall := h.page_height_pos
  refine ⟨rfl, ?_, ?_, ?_, ?_, ?_, h.sum_heights, ?_, ?_⟩
  · intro i s hs
    obtain ⟨-, rfl⟩ := h.getElem?_slices.1 hs
    exact ⟨rfl, beq_iff_eq⟩
  · intro i s hs
    obtain ⟨-, rfl⟩ := h.getElem?_slices.1 hs
    exact sliceAt_offset _ _ i
  · intro s hs
    obtain ⟨i, hi⟩ := List.mem_iff_getElem?.1 hs
    obtain ⟨lt, rfl⟩ := h.getElem?_slices.1 hi
    have room := h.offset_lt lt
    rw [sliceAt_height]
    exact ⟨lt_min tall (sub_pos.2 room), min_le_left _ _⟩
  · intro i s hs lt
    obtain ⟨-, rfl⟩ := h.getElem?_slices.1 hs
    exact h.height_of_full lt
  · intro i s t hs ht
    obtain ⟨-, rfl⟩ := h.getElem?_slices.1 hs
    obtain ⟨lt, rfl⟩ := h.getElem?_slices.1 ht
    rw [h.height_of_full lt, sliceAt_offset, sliceAt_offset, Nat.cast_succ, add_one_mul]
  · have reach := h.scaledHeight_le
    rw [h.sum_heights]
    constructor
    · exact sub_nonneg.2 (min_le_left _ _)
    · rw [sub_le_comm, le_min_iff]
      constructor
      · have := mul_pos (by norm_num : (0 : Rat) < 1 / 10 ^ 9) tall
        linarith
      · linarith
  · intro pages one small
    by_contra fewer
    have left := h.lt_scaledHeight one (not_le.1 fewer)
    rw [add_mul] at left
    rw [sub_le_comm, le_min_iff] at small
    linarith [small.2]

end Plan.Cuts

/-- In exact numbers: a picture fills as many pages as its height, scaled to the width of the page,
takes up, less the tolerance and at least one. More than the limit are refused, and no others are;
the slices divide the height into just as many pages. -/
theorem plan_divides (width height : Nat) (page : Size Rat) (hw : 1 ≤ width) (hh : 1 ≤ height)
    (wide : 0 < page.width) (tall : 0 < page.height) :
    let scaled : Rat := page.width * height / width
    let pages : Int := max (scaled / page.height - 1 / 10 ^ 9).ceil 1
    ((∃ count, plan width height page = .error (.tooManyPages count)) ↔ 1000 < pages) ∧
    (pages ≤ 1000 → ∃ p, plan width height page = .ok p ∧ p.page = page ∧
      (p.pageCount : Int) = pages ∧ p.Divides scaled) := by
  intro scaled pages
  have planned := plan_of_valid hw hh (isValid_iff.2 ⟨wide, tall⟩)
  have needed : pagesNeeded (scaledHeight width height page) page = pages := by
    rw [pagesNeeded_eq, scaledHeight_eq_div]
  have many : Scalar.less (Scalar.ofNat mostPages) (pages : Rat) = true ↔ 1000 < pages := by
    change decide ((Scalar.ofNat mostPages : Rat) < pages) = true ↔ _
    rw [decide_eq_true_iff, ofNat_eq_cast]
    exact_mod_cast Iff.rfl
  simp only [needed] at planned
  constructor
  · rw [← many]
    constructor
    · rintro ⟨count, refused⟩
      by_contra few
      rw [planned, if_neg few] at refused
      cases refused
    · intro above
      exact ⟨_, planned.trans (if_pos above)⟩
  · intro few
    obtain ⟨p, hp⟩ : ∃ p, plan width height page = .ok p :=
      ⟨_, planned.trans (if_neg (many.not.2 (not_lt.2 few)))⟩
    obtain ⟨page_eq, cuts⟩ := plan_eq_ok hp
    have count := cuts.pageCount_eq
    have divides := cuts.divides
    rw [cuts.scaledHeight_eq, page_eq] at count divides
    exact ⟨p, hp, page_eq, count, divides⟩

/-- Two pages hold a picture that passes them by half the tolerance; a picture of a thousand and one
pages is refused. -/
theorem plan_divides_tolerance :
    (∃ p, plan 2000000000 4000000001 (⟨1, 1⟩ : Size Rat) = .ok p ∧ p.pageCount = 2 ∧
      p.Divides (4000000001 / 2000000000)) ∧
    ∃ count, plan 1 1001 (⟨1, 1⟩ : Size Rat) = .error (.tooManyPages count) := by
  constructor
  · obtain ⟨-, few⟩ := plan_divides 2000000000 4000000001 ⟨1, 1⟩ (by decide) (by decide)
      (by decide +kernel) (by decide +kernel)
    obtain ⟨p, hp, -, count, divides⟩ := few (by decide +kernel)
    have two : (p.pageCount : Int) = 2 := count.trans (by decide +kernel)
    exact ⟨p, hp, by exact_mod_cast two, by simpa using divides⟩
  · obtain ⟨many, -⟩ := plan_divides 1 1001 ⟨1, 1⟩ (by decide) (by decide)
      (by decide +kernel) (by decide +kernel)
    exact many.2 (by decide +kernel)

end Formulary.Page
