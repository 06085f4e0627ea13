/-!
Finding one text in another, cutting texts up, and replacing single characters.
-/

namespace Formulary.Text

/-- Whether `needle` stands somewhere in a text as a run of neighbouring characters. -/
def occursInChars (needle : List Char) : List Char → Bool
  | [] => needle.isEmpty
  | c :: s => needle.isPrefixOf (c :: s) || occursInChars needle s

/-- Whether `needle` occurs in `s`. The empty text occurs everywhere. -/
def occursIn (needle s : String) : Bool := occursInChars needle.toList s.toList

theorem occursInChars_iff (needle s : List Char) :
    occursInChars needle s = true ↔ ∃ before after, s = before ++ needle ++ after := by
  induction s with
  | nil =>
    constructor
    · intro h
      have : needle = [] := by simpa [occursInChars] using h
      exact ⟨[], [], by simp [this]⟩
    · rintro ⟨before, after, h⟩
      have : needle = [] := by
        have := congrArg List.length h
        simp only [List.length_nil, List.length_append] at this
        exact List.eq_nil_of_length_eq_zero (by omega)
      simp [occursInChars, this]
  | cons c s ih =>
    simp only [occursInChars, Bool.or_eq_true, ih, List.isPrefixOf_iff_prefix]
    constructor
    · rintro (⟨after, h⟩ | ⟨before, after, h⟩)
      · exact ⟨[], after, by simp [h]⟩
      · exact ⟨c :: before, after, by simp [h]⟩
    · rintro ⟨before, after, h⟩
      cases before with
      | nil => exact .inl ⟨after, by simp [h]⟩
      | cons b before =>
        simp only [List.cons_append, List.cons.injEq] at h
        exact .inr ⟨before, after, by simp [h.2]⟩

/-- A text with each character `c` for which `p c` holds replaced by `r`. -/
def replaceChars (p : Char → Bool) (r : Char) (s : String) : String :=
  String.ofList (s.toList.map fun c => if p c then r else c)

/-- The stretches of a list between the places where `mark` stands. -/
def cutAt {α : Type} [DecidableEq α] (mark : α) : List α → List (List α)
  | [] => [[]]
  | a :: s =>
    match cutAt mark s with
    | [] => [[a]]
    | first :: rest => if a = mark then [] :: first :: rest else (a :: first) :: rest

def dropEnding (ending s : String) : String :=
  let chars := s.toList
  if ending.toList.isSuffixOf chars then
    String.ofList (chars.take (chars.length - ending.toList.length))
  else s

end Formulary.Text
