import Formulary.Pdf.Document
import Formulary.Proofs.Page.Plan
import Mathlib.Tactic.FieldSimp
import Mathlib.Tactic.Ring

/-!
What the pages of a document show, in exact numbers. A plan measures in millimetres down from the
top of the picture, a page in points up from its lower left corner. Through both, every page shows
the part of the picture between the offset of its slice and one page height further down, so that
the pages show what the plan has cut.
-/

namespace Formulary.Pdf

open Number Image

/-- Where the map takes a point. -/
def Transform.apply (t : Transform Rat) (x y : Rat) : Rat × Rat :=
  (t.a * x + t.c * y + t.e, t.b * x + t.d * y + t.f)

/-- The point lies in the rectangle, edges included. -/
def Box.Contains (b : Box Rat) (point : Rat × Rat) : Prop :=
  (b.left ≤ point.1 ∧ point.1 ≤ b.right) ∧ b.bottom ≤ point.2 ∧ point.2 ≤ b.top

/-- The page shows the point of the picture that lies the part `across` of its width from its left
edge and the part `down` of its height below its upper edge. -/
def Placement.Shows (q : Placement Rat) (across down : Rat) : Prop :=
  q.mediaBox.Contains (q.transform.apply across (1 - down))

theorem pointsPerMillimetre_pos : (0 : Rat) < Page.Size.pointsPerMillimetre := by
  change (0 : Rat) < Scalar.ofNat 72 / ((254 : Nat) / (Nat.pow 10 1 : Nat))
  rw [Page.ofNat_eq_cast]
  norm_num

/-! ## One page -/

section

variable (plan : Page.Plan Rat) (slice : Page.Slice Rat)

theorem mediaBox_placement : (placement plan slice).mediaBox =
    ⟨0, 0, plan.page.width * Page.Size.pointsPerMillimetre,
      plan.page.height * Page.Size.pointsPerMillimetre⟩ := by
  have zero : (Scalar.ofNat 0 : Rat) = 0 := (Page.ofNat_eq_cast 0).trans Nat.cast_zero
  rw [Placement.mediaBox, zero]
  rfl

theorem transform_placement : (placement plan slice).transform =
    ⟨plan.page.width * Page.Size.pointsPerMillimetre, 0, 0,
      plan.scaledHeight * Page.Size.pointsPerMillimetre, 0,
      plan.page.height * Page.Size.pointsPerMillimetre +
        slice.offset * Page.Size.pointsPerMillimetre -
        plan.scaledHeight * Page.Size.pointsPerMillimetre⟩ := by
  have zero : (Scalar.ofNat 0 : Rat) = 0 := (Page.ofNat_eq_cast 0).trans Nat.cast_zero
  rw [Placement.transform, zero]
  rfl

variable {plan slice} {across distance : Rat}

/-- A point of the picture is drawn as far above the lower edge of the page as the page reaches
below it. -/
theorem transform_apply_placement (scaled : 0 < plan.scaledHeight) :
    (placement plan slice).transform.apply across (1 - distance / plan.scaledHeight) =
      (plan.page.width * Page.Size.pointsPerMillimetre * across,
        (slice.offset + plan.page.height - distance) * Page.Size.pointsPerMillimetre) := by
  rw [transform_placement, Transform.apply, Prod.mk.injEq]
  constructor
  · ring
  · field_simp
    ring

/-- The page shows what lies between the offset of its slice and one page height further down. -/
theorem shows_placement_iff (width : 0 < plan.page.width) (scaled : 0 < plan.scaledHeight)
    (left : 0 ≤ across) (right : across ≤ 1) :
    (placement plan slice).Shows across (distance / plan.scaledHeight) ↔
      slice.offset ≤ distance ∧ distance ≤ slice.offset + plan.page.height := by
  have positive := pointsPerMillimetre_pos
  have within : 0 ≤ plan.page.width * Page.Size.pointsPerMillimetre * across ∧
      plan.page.width * Page.Size.pointsPerMillimetre * across ≤
        plan.page.width * Page.Size.pointsPerMillimetre :=
    ⟨by positivity, mul_le_of_le_one_right (by positivity) right⟩
  rw [Placement.Shows, transform_apply_placement scaled, mediaBox_placement]
  simp only [Box.Contains, within, and_self, true_and]
  rw [mul_nonneg_iff_of_pos_right positive, mul_le_mul_iff_left₀ positive, sub_nonneg,
    add_sub_right_comm, add_le_iff_nonpos_left, sub_nonpos, and_comm]

end

/-! ## All pages -/

/-- A plan for the picture makes a document of it. -/
theorem draft_eq_ok {α : Type} [Scalar α] {bitmap : Bitmap} {settings : Settings} {p : Page.Plan α}
    {width height : Nat} (h : p.Cuts width height) (hw : bitmap.width = width)
    (hh : bitmap.height = height) : draft bitmap p settings = .ok {
      title := textString settings.title
      producer := textString settings.producer
      image := embed bitmap settings.quality
      pages := placements p } :=
  if_neg (by simp [h.sourceWidth, h.sourceHeight, hw, hh])

/-- The document shows what the plan has cut. -/
structure Document.ShowsSlices (d : Document Rat) (p : Page.Plan Rat) : Prop where
  /-- There is one page for each slice. -/
  length : d.pages.length = p.slices.length
  /-- Every page draws the whole picture at the full page width and at its scaled height. -/
  drawn : ∀ q ∈ d.pages,
    q.mediaBox = ⟨0, 0, p.page.width * Page.Size.pointsPerMillimetre,
      p.page.height * Page.Size.pointsPerMillimetre⟩ ∧
    ∃ bottom, q.transform = ⟨p.page.width * Page.Size.pointsPerMillimetre, 0, 0,
      p.scaledHeight * Page.Size.pointsPerMillimetre, 0, bottom⟩
  /-- The page in each place shows what lies between the offset of the slice in that place and one
  page height further down. -/
  shown : ∀ (i : Nat) (q : Placement Rat) (s : Page.Slice Rat), d.pages[i]? = some q →
    p.slices[i]? = some s → ∀ across distance, 0 ≤ across → across ≤ 1 →
      (q.Shows across (distance / p.scaledHeight) ↔
        s.offset ≤ distance ∧ distance ≤ s.offset + p.page.height)
  /-- A point between the boundaries of the pages is on one page only, that of its slice. -/
  once : ∀ across distance, 0 ≤ across → across ≤ 1 → 0 ≤ distance → distance ≤ p.scaledHeight →
    distance < p.pageCount * p.page.height →
    (∀ s ∈ p.slices, s.isFirst = false → distance ≠ s.offset) →
    ∃ i < p.pageCount, ∀ (j : Nat) (q : Placement Rat) (s : Page.Slice Rat),
      d.pages[j]? = some q → p.slices[j]? = some s →
        (q.Shows across (distance / p.scaledHeight) ↔ j = i) ∧ (s.Contains distance ↔ j = i)
  /-- A page goes on where the one before it ends. -/
  next : ∀ (i : Nat) (s t : Page.Slice Rat), p.slices[i]? = some s → p.slices[i + 1]? = some t →
    t.offset = s.offset + p.page.height
  /-- What is on no page lies below them all, -/
  rest : ∀ across distance, 0 ≤ across → across ≤ 1 → 0 ≤ distance → distance ≤ p.scaledHeight →
    (∀ q ∈ d.pages, ¬ q.Shows across (distance / p.scaledHeight)) →
    p.pageCount * p.page.height < distance
  /-- where next to nothing of the picture is left. -/
  short : p.scaledHeight - p.pageCount * p.page.height ≤ p.page.height / 10 ^ 9

section

variable {bitmap : Bitmap} {settings : Settings} {page : Page.Size Rat} {p : Page.Plan Rat}

theorem getElem?_placements {i : Nat} {s : Page.Slice Rat} (hs : p.slices[i]? = some s) :
    (placements p)[i]? = some (placement p s) := by
  rw [placements, List.getElem?_map, hs, Option.map_some]

theorem shows_iff {width height i : Nat} {q : Placement Rat} {s : Page.Slice Rat}
    {across distance : Rat} (h : p.Cuts width height) (hq : (placements p)[i]? = some q)
    (hs : p.slices[i]? = some s) (left : 0 ≤ across) (right : across ≤ 1) :
    q.Shows across (distance / p.scaledHeight) ↔
      s.offset ≤ distance ∧ distance ≤ s.offset + p.page.height := by
  obtain rfl := Option.some.inj (hq.symm.trans (getElem?_placements hs))
  exact shows_placement_iff h.page_width_pos h.scaledHeight_pos left right

/-- The pages of a picture, one for each slice of its plan, all draw the one picture embedded in the
document, and what they show of it is what the plan has cut. -/
theorem pages_show_slices (settings : Settings)
    (h : Page.plan bitmap.width bitmap.height page = .ok p) :
    ∃ d, draft bitmap p settings = .ok d ∧ d.image = embed bitmap settings.quality ∧
      d.ShowsSlices p := by
  obtain ⟨-, cuts⟩ := Page.plan_eq_ok h
  refine ⟨_, draft_eq_ok cuts rfl rfl, rfl, List.length_map _, fun q hq => ?_,
    fun i q s hq hs across distance => shows_iff cuts hq hs, ?_, fun i s t hs ht => ?_, ?_, ?_⟩
  · obtain ⟨s, -, rfl⟩ := List.mem_map.1 hq
    exact ⟨mediaBox_placement p s, _, transform_placement p s⟩
  · intro across distance left right nonneg le lt apart
    obtain ⟨i, hi, above, below⟩ := cuts.exists_page_of_le nonneg lt.le
    refine ⟨i, hi, fun j q s hq hs => ?_⟩
    rw [shows_iff cuts hq hs left right]
    obtain ⟨hj, rfl⟩ := cuts.getElem?_slices.1 hs
    rw [Page.sliceAt_contains_iff le, and_self, Page.sliceAt_offset]
    constructor
    · rintro ⟨above', below'⟩
      exact cuts.page_unique apart hi above below hj above' below'
    · rintro rfl
      exact ⟨above, below⟩
  · obtain ⟨-, rfl⟩ := cuts.getElem?_slices.1 hs
    obtain ⟨-, rfl⟩ := cuts.getElem?_slices.1 ht
    rw [Page.sliceAt_offset, Page.sliceAt_offset, Nat.cast_add_one, add_one_mul]
  · intro across distance left right nonneg le unseen
    by_contra within
    obtain ⟨i, hi, found⟩ := cuts.exists_page_of_le nonneg (not_lt.1 within)
    have hs := cuts.getElem?_slices.2 ⟨hi, rfl⟩
    have hq := getElem?_placements hs
    refine unseen _ (List.mem_of_getElem? hq) ((shows_iff cuts hq hs left right).2 ?_)
    rwa [Page.sliceAt_offset]
  · have reach := cuts.scaledHeight_le
    rw [add_mul, div_mul_eq_mul_div, one_mul] at reach
    exact sub_le_iff_le_add'.2 reach

end

/-- A picture that fills two pages and a part of a third. -/
theorem pages_show_slices_three_pages :
    let bitmap : Bitmap := ⟨794, 2500, [⟨1985000, ⟨255, 255, 255, 255⟩⟩], by decide, by decide⟩
    let p : Page.Plan Rat := ⟨Page.Size.a4, 794, 2500, 262500 / 397,
      [⟨0, 0, 297⟩, ⟨1, 297, 297⟩, ⟨2, 594, 26682 / 397⟩]⟩
    Page.plan bitmap.width bitmap.height Page.Size.a4 = .ok p ∧
    ∃ d, draft bitmap p Settings.standard = .ok d ∧ d.image = embed bitmap 92 ∧
      d.ShowsSlices p := by
  intro bitmap p
  have planned : Page.plan bitmap.width bitmap.height Page.Size.a4 = .ok p := by decide +kernel
  exact ⟨planned, pages_show_slices Settings.standard planned⟩

end Formulary.Pdf
