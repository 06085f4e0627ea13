import Formulary.Page.Size

/-!
Cutting a tall picture into pages. The picture is scaled to the width of the page and cut at
multiples of its height; the last cut may be short. A picture that passes a page boundary by less
than a thousand-millionth of a page starts no new page.
-/

namespace Formulary.Page

open Number

/-- The part of the scaled picture that one page shows. -/
structure Slice (α : Type) where
  index : Nat
  /-- From the top of the picture to the top of this part. -/
  offset : α
  height : α
deriving DecidableEq, Repr

namespace Slice

variable {α : Type}

def isFirst (s : Slice α) : Bool := s.index == 0

/-- Where the top of the picture lies, measured down from the top of the page. -/
def placement [Scalar α] (s : Slice α) : α := -s.offset

end Slice

/-- A picture cut into pages. -/
structure Plan (α : Type) where
  page : Size α
  sourceWidth : Nat
  sourceHeight : Nat
  /-- The height of the picture once it is as wide as the page. -/
  scaledHeight : α
  slices : List (Slice α)
deriving DecidableEq, Repr

def Plan.pageCount {α : Type} (p : Plan α) : Nat := p.slices.length

inductive PlanFault (α : Type) where
  /-- A side of the picture is zero, or a side of the page is not finite and above zero. -/
  | dimensions (width height : Nat) (page : Size α)
  | tooManyPages (pages : Nat)
deriving DecidableEq, Repr

def mostPages : Nat := 1000

/-- The largest count of pages that a fault reports. -/
def countLimit : Nat := UInt64.size - 1

section

variable {α : Type} [Scalar α]

/-- The part of a page height by which a picture may pass a boundary. -/
def tolerance : α := Scalar.ofDecimal 1 9

/-- The height of a picture once it is as wide as the page. -/
def scaledHeight (width height : Nat) (page : Size α) : α :=
  page.width * Scalar.ofNat height / Scalar.ofNat width

/-- How many pages a height fills: the quotient less the tolerance, rounded up, and at least one. -/
def pagesNeeded (scaled : α) (page : Size α) : α :=
  Scalar.greatest (Scalar.ceil (scaled / page.height - tolerance)) (Scalar.ofNat 1)

def sliceAt (scaled : α) (page : Size α) (index : Nat) : Slice α :=
  let offset := Scalar.ofNat index * page.height
  ⟨index, offset, Scalar.least page.height (scaled - offset)⟩

/-- Cuts a picture of `width` by `height` pixels into pages. -/
def plan (width height : Nat) (page : Size α) : Except (PlanFault α) (Plan α) :=
  if width = 0 ∨ height = 0 ∨ page.isValid = false then .error (.dimensions width height page)
  else
    let scaled := scaledHeight width height page
    let pages := pagesNeeded scaled page
    if Scalar.less (Scalar.ofNat mostPages) pages then
      .error (.tooManyPages (Scalar.toNatWithin countLimit pages))
    else
      let count := Scalar.toNatWithin countLimit pages
      .ok ⟨page, width, height, scaled, (List.range count).map (sliceAt scaled page)⟩

end

end Formulary.Page
