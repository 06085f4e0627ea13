import Formulary.Page.Band
import Mathlib.Algebra.Ring.Nat
import Mathlib.Data.List.Chain

/-!
When bands tile the rows of a picture. The band of a slice reaches from the row of its offset to the
row of its end, but for the last one, which reaches the last row. So the bands leave no gap and do
not overlap just when the end of each slice has the same row as the offset of the next one.
-/

namespace Formulary.Page

open Number

/-- The bands hold every one of `rows` rows, once and in order. -/
structure Tiles (rows : Nat) (bands : List Band) : Prop where
  /-- The first band starts at the first row, -/
  first : bands.head?.map Band.top = some 0
  /-- each one ends where the next one starts, -/
  next : bands.IsChain fun b c => b.bottom = c.top
  /-- and the last one ends behind the last row. -/
  last : bands.getLast?.map Band.bottom = some rows
  /-- Together they are as high as the picture. -/
  sum : (bands.map Band.height).sum = rows

/-- Where bands go on from each other, their heights lead from the first row to the last. -/
theorem top_add_sum_height {bands : List Band} {top bottom : Nat}
    (first : bands.head?.map Band.top = some top)
    (next : bands.IsChain fun b c => b.bottom = c.top)
    (last : bands.getLast?.map Band.bottom = some bottom) :
    top + (bands.map Band.height).sum = bottom := by
  induction bands generalizing top with
  | nil => cases first
  | cons b rest ih =>
    obtain rfl : b.top = top := Option.some.inj first
    cases rest with
    | nil => simpa [Band.bottom] using last
    | cons c rest =>
      obtain ⟨meet, next⟩ := List.isChain_cons_cons.1 next
      rw [List.getLast?_cons_cons] at last
      have := ih rfl next last
      rw [List.map_cons, List.sum_cons, ← Nat.add_assoc]
      rw [← meet, Band.bottom] at this
      exact this

theorem Tiles.of_chain {rows : Nat} {bands : List Band}
    (first : bands.head?.map Band.top = some 0)
    (next : bands.IsChain fun b c => b.bottom = c.top)
    (last : bands.getLast?.map Band.bottom = some rows) : Tiles rows bands :=
  ⟨first, next, last, by simpa using top_add_sum_height first next last⟩

namespace Plan

section

variable {α : Type} [Scalar α] {p : Plan α}

/-- The slices are numbered, and their rows lie in order between the first and the last row. -/
structure Ordered (p : Plan α) : Prop where
  nonempty : p.slices ≠ []
  index : ∀ (i : Nat) (h : i < p.slices.length), p.slices[i].index = i
  front : ∀ s ∈ p.slices.head?, p.edge s.offset = 0
  within : ∀ s ∈ p.slices, p.edge s.offset ≤ p.sourceHeight
  le : ∀ s ∈ p.slices, p.edge s.offset ≤ p.edge (s.offset + s.height)

theorem band_top (p : Plan α) (s : Slice α) : (p.band s).top = p.edge s.offset := rfl

namespace Ordered

variable (h : p.Ordered)
include h

theorem band_bottom {s : Slice α} (hs : s ∈ p.slices) : (p.band s).bottom =
    if s.index = p.slices.length - 1 then p.sourceHeight else p.edge (s.offset + s.height) := by
  have := h.within s hs
  have := h.le s hs
  simp only [band, Band.bottom]
  split <;> omega

theorem bands_first : p.bands.head?.map Band.top = some 0 := by
  obtain ⟨s, rest, hp⟩ := List.exists_cons_of_ne_nil h.nonempty
  have front := h.front s (by rw [hp]; rfl)
  rw [bands, hp]
  exact congrArg some front

theorem bands_last : p.bands.getLast?.map Band.bottom = some p.sourceHeight := by
  have last : p.slices.length - 1 < p.slices.length :=
    Nat.sub_lt (List.length_pos_of_ne_nil h.nonempty) Nat.one_pos
  rw [bands, List.getLast?_map, List.getLast?_eq_getElem?, List.getElem?_eq_getElem last,
    Option.map_some, Option.map_some, h.band_bottom (List.getElem_mem last),
    if_pos (h.index _ last)]

/-- Bands meet just when the ends of slices do, in rows. -/
theorem bands_next : (p.bands.IsChain fun b c => b.bottom = c.top) ↔
    p.slices.IsChain fun s t => p.edge (s.offset + s.height) = p.edge t.offset := by
  rw [bands, List.isChain_map, List.isChain_iff_getElem, List.isChain_iff_getElem]
  refine forall₂_congr fun i hi => ?_
  have inner : p.slices[i].index ≠ p.slices.length - 1 := by
    rw [h.index i (by omega)]
    omega
  rw [h.band_bottom (List.getElem_mem _), if_neg inner, band_top]

theorem tiles_bands : Tiles p.sourceHeight p.bands ↔
    p.slices.IsChain fun s t => p.edge (s.offset + s.height) = p.edge t.offset :=
  ⟨fun tiles => h.bands_next.1 tiles.next,
    fun meet => .of_chain h.bands_first (h.bands_next.2 meet) h.bands_last⟩

end Ordered

end

end Plan

end Formulary.Page
